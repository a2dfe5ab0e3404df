import MangaReader.Toml.Text
import Mathlib.Tactic.SplitIfs

/-!
# Texts are read as they are written

A text is written in one of five styles. Whichever is chosen, the text is read back, up to the
closing quotes.

* `Text.Writes` : the ways in which a character between double quotes is written.
* `Text.basic_flatMap`, `Text.lines_flatMap` : texts in double quotes.
* `Text.literal_append`, `Text.lines_append` : texts in single quotes.
* `Text.parse_written` : a text of any style.
-/

namespace MangaReader.Toml.Text

/-! ## Between double quotes -/

/-- How a character is written: by a letter after a backslash, by its number, as the end of a line
or as it is. -/
inductive Writes (several : Bool) (c : Char) : List Char → Prop
  | letter {e : Char} (hblank : isBlank e = false) (hline : e ≠ '\n' ∧ e ≠ '\r')
      (hc : ∀ rest, escape (e :: rest) = .found c rest) : Writes several c ['\\', e]
  | number (hc : c.toNat < 128) : Writes several c ('\\' :: 'u' :: fourDigits c.toNat)
  | line (hseveral : several = true) (hc : c = '\n') : Writes several c [c]
  | plain (hc : isBasic c = true) : Writes several c [c]

theorem writes_char (several : Bool) (c : Char) : Writes several c (char several c) := by
  unfold char
  split
  case h_3 =>
    split_ifs with hseveral
    · exact .line hseveral rfl
    · exact .letter rfl (by decide) fun _ => rfl
  case h_8 _ _ _ _ _ hquote hslash =>
    split_ifs with hc
    · refine .number ?_
      rcases hc with hc | rfl
      · exact Nat.lt_trans (show c.toNat < 32 from hc) (by decide)
      · decide
    · obtain ⟨hspace, hdelete⟩ := not_or.mp hc
      have hquote : c ≠ '"' := hquote
      have hslash : c ≠ '\\' := hslash
      refine .plain ?_
      simp [isBasic, isComment, hquote, hslash, hdelete, Char.not_lt.mp hspace]
  all_goals exact .letter rfl (by decide) fun _ => rfl

theorem numbered_fourDigits {c : Char} (hc : c.toNat < 128) (rest : List Char) :
    escape ('u' :: (fourDigits c.toNat ++ rest)) = .found c rest := by
  have hread : ∀ n < 128, (hex? (fourDigits n)).bind char? = some (Char.ofNat n) := by decide
  have hlength : (fourDigits c.toNat).length = 4 := rfl
  rw [escape, numbered, if_neg (by simp [hlength]), List.take_left' hlength,
    List.drop_left' hlength, hread c.toNat hc, Char.ofNat_toNat]

theorem char_head (several : Bool) (c : Char) :
    ∃ d more, char several c = d :: more ∧ d ≠ '"' := by
  have hwrites := writes_char several c
  generalize char several c = written at hwrites ⊢
  cases hwrites with
  | letter => exact ⟨_, _, rfl, by decide⟩
  | number => exact ⟨_, _, rfl, by decide⟩
  | line _ hc => exact ⟨_, _, rfl, by rw [hc]; decide⟩
  | plain hc => exact ⟨_, _, rfl, ne_of_apply_ne isBasic (by rw [hc]; decide)⟩

theorem length_le_flatMap (several : Bool) (text : List Char) :
    text.length ≤ (text.flatMap (char several)).length := by
  induction text with
  | nil => exact Nat.le_refl 0
  | cons c text ih =>
    obtain ⟨d, more, hchar, -⟩ := char_head several c
    rw [List.flatMap_cons, List.length_append, hchar]
    simp only [List.length_cons]
    omega

theorem basic_char (c : Char) (fuel : Nat) (rest : List Char) :
    basic (fuel + 1) (char false c ++ rest) = (basic fuel rest).map (c :: ·) := by
  have hwrites := writes_char false c
  generalize char false c = written at hwrites ⊢
  cases hwrites with
  | letter _ _ hc =>
    rw [List.cons_append, List.singleton_append, basic, hc]
  | number hc =>
    rw [List.cons_append, List.cons_append, basic, numbered_fourDigits hc]
  | line hseveral => cases hseveral
  | plain hc =>
    have hquote : c ≠ '"' := ne_of_apply_ne isBasic (by rw [hc]; decide)
    have hslash : c ≠ '\\' := ne_of_apply_ne isBasic (by rw [hc]; decide)
    rw [List.singleton_append, basic.eq_4 _ _ _ hquote hslash, if_pos hc]

theorem basic_flatMap (text rest : List Char) {fuel : Nat} (hfuel : text.length < fuel) :
    basic fuel (text.flatMap (char false) ++ '"' :: rest) = .found text rest := by
  induction text generalizing fuel with
  | nil =>
    obtain ⟨fuel, rfl⟩ := Nat.exists_eq_add_one_of_ne_zero (Nat.ne_zero_of_lt hfuel)
    rfl
  | cons c text ih =>
    obtain ⟨fuel, rfl⟩ := Nat.exists_eq_add_one_of_ne_zero (Nat.ne_zero_of_lt hfuel)
    rw [List.flatMap_cons, List.append_assoc, basic_char, ih (Nat.lt_of_succ_lt_succ hfuel)]
    rfl

theorem lines_char (c : Char) (fuel : Nat) (rest : List Char) :
    lines '"' isBasic true (fuel + 1) (char true c ++ rest) =
      (lines '"' isBasic true fuel rest).map (c :: ·) := by
  have hwrites := writes_char true c
  generalize char true c = written at hwrites ⊢
  cases hwrites with
  | @letter e hblank hline hc =>
    have hbreak : lineBreak? (e :: rest) = none := by
      simp [lineBreak?, skipBlank, hblank, newline?, hline.1, hline.2]
    simp [lines, hbreak, hc]
  | number hc =>
    have hbreak : lineBreak? ('u' :: (fourDigits c.toNat ++ rest)) = none := rfl
    simp [lines, hbreak, numbered_fourDigits hc]
  | line _ hc => subst hc; rfl
  | plain hc =>
    have hquote : c ≠ '"' := ne_of_apply_ne isBasic (by rw [hc]; decide)
    have hslash : c ≠ '\\' := ne_of_apply_ne isBasic (by rw [hc]; decide)
    simp [lines, hquote, hslash, hc]

theorem lines_quotes {quote : Char} (isPlain : Char → Bool) (escapes : Bool) (fuel : Nat)
    {rest : List Char} (hrest : rest.head? ≠ some quote) :
    lines quote isPlain escapes (fuel + 1) (quote :: quote :: quote :: rest) = .found [] rest := by
  have hclosing : closing quote rest = .found [] rest := by
    match rest, hrest with
    | [], _ => rfl
    | [a], hrest =>
      have ha : a ≠ quote := by simpa using hrest
      simp [closing, ha]
    | a :: b :: rest, hrest =>
      have ha : a ≠ quote := by simpa using hrest
      simp [closing, ha]
  simp [lines, hclosing]

/-- **A text on several lines is read as it is written**, up to the closing quotes. -/
theorem lines_flatMap (text : List Char) {rest : List Char} {fuel : Nat}
    (hfuel : text.length < fuel) (hrest : rest.head? ≠ some '"') :
    lines '"' isBasic true fuel (text.flatMap (char true) ++ '"' :: '"' :: '"' :: rest) =
      .found text rest := by
  induction text generalizing fuel with
  | nil =>
    obtain ⟨fuel, rfl⟩ := Nat.exists_eq_add_one_of_ne_zero (Nat.ne_zero_of_lt hfuel)
    exact lines_quotes isBasic true fuel hrest
  | cons c text ih =>
    obtain ⟨fuel, rfl⟩ := Nat.exists_eq_add_one_of_ne_zero (Nat.ne_zero_of_lt hfuel)
    rw [List.flatMap_cons, List.append_assoc, lines_char, ih (Nat.lt_of_succ_lt_succ hfuel)]
    rfl

/-! ## Between single quotes -/

theorem literal_append {text : List Char} (htext : ∀ c ∈ text, isLiteral c = true)
    (rest : List Char) : literal (text ++ '\'' :: rest) = .found text rest := by
  have hquote : isLiteral '\'' = false := rfl
  have hdrop : (text ++ '\'' :: rest).dropWhile isLiteral = '\'' :: rest := by
    rw [List.dropWhile_append_of_pos htext, List.dropWhile_cons_of_neg (by simp [hquote])]
  have htake : (text ++ '\'' :: rest).takeWhile isLiteral = text := by
    rw [List.takeWhile_append_of_pos htext, List.takeWhile_cons_of_neg (by simp [hquote]),
      List.append_nil]
  rw [literal, hdrop, htake]
  rfl

theorem le_longestRun (c : Char) (text : List Char) (run best : Nat) :
    best ≤ longestRun c run best text := by
  induction text generalizing run best with
  | nil => exact Nat.le_max_right run best
  | cons d text ih =>
    rw [longestRun]
    split
    · exact ih _ _
    · exact Nat.le_trans (Nat.le_max_right run best) (ih _ _)

theorem lt_of_longestRun_lt {c : Char} {text : List Char} {run best n : Nat}
    (h : longestRun c run best text < n) : run < n := by
  induction text generalizing run best with
  | nil => exact (Nat.max_lt.mp h).1
  | cons d text ih =>
    rw [longestRun] at h
    split at h
    · exact Nat.lt_of_succ_lt (ih h)
    · -- The run is over, and has become a candidate for the best.
      have hrun : run ≤ longestRun c 0 (max run best) text :=
        Nat.le_trans (Nat.le_max_left run best) (le_longestRun c text 0 _)
      exact Nat.lt_of_le_of_lt hrun h

theorem not_mem_of_longestRun {c : Char} {text : List Char} {run best : Nat}
    (h : longestRun c run best text < 1) : c ∉ text := by
  induction text generalizing run best with
  | nil => exact List.not_mem_nil
  | cons d text ih =>
    rw [longestRun] at h
    split at h
    · exact absurd (lt_of_longestRun_lt h) (by omega)
    · rename_i hd
      exact List.not_mem_cons_of_ne_of_not_mem (Ne.symm hd) (ih h)

theorem goesOn_dropWhile {text : List Char} (rest : List Char) (hnil : text ≠ [])
    (htext : ∀ c ∈ text, isComment c = true ∨ c = '\n') (hlast : text.getLast? ≠ some '\'') :
    goesOn isLiteral false ((text ++ rest).dropWhile (· = '\'')) = true := by
  induction text with
  | nil => exact absurd rfl hnil
  | cons c text ih =>
    by_cases hc : c = '\''
    · have hmore : text ≠ [] := by
        rintro rfl
        exact hlast (congrArg some hc)
      rw [List.cons_append, List.dropWhile_cons_of_pos (by simpa using hc)]
      refine ih hmore (fun d hd => htext d (List.mem_cons_of_mem c hd)) ?_
      rwa [List.getLast?_cons_of_ne_nil hmore] at hlast
    · rw [List.cons_append, List.dropWhile_cons_of_neg (by simpa using hc)]
      rcases htext c List.mem_cons_self with hcomment | rfl
      · by_cases hslash : c = '\\'
        · subst hslash; rfl
        · simp [goesOn, isLiteral, hcomment, hc]
      · rfl

/-- **A text on several lines is read as it is**, up to the closing quotes, if no three quotes in it
follow each other and its last character is no quote. -/
theorem lines_append {text : List Char} {rest : List Char} {run best fuel : Nat}
    (hfuel : text.length < fuel) (htext : ∀ c ∈ text, isComment c = true ∨ c = '\n')
    (hruns : longestRun '\'' run best text < 3) (hlast : text.getLast? ≠ some '\'')
    (hrest : rest.head? ≠ some '\'') :
    lines '\'' isLiteral false fuel (text ++ '\'' :: '\'' :: '\'' :: rest) = .found text rest := by
  induction text generalizing run best fuel with
  | nil =>
    obtain ⟨fuel, rfl⟩ := Nat.exists_eq_add_one_of_ne_zero (Nat.ne_zero_of_lt hfuel)
    exact lines_quotes isLiteral false fuel hrest
  | cons c text ih =>
    obtain ⟨fuel, rfl⟩ := Nat.exists_eq_add_one_of_ne_zero (Nat.ne_zero_of_lt hfuel)
    have hmore : ∀ d ∈ text, isComment d = true ∨ d = '\n' :=
      fun d hd => htext d (List.mem_cons_of_mem c hd)
    have hlast' : text.getLast? ≠ some '\'' := by
      intro h
      have hnil : text ≠ [] := by rintro rfl; cases h
      rw [List.getLast?_cons_of_ne_nil hnil] at hlast
      exact hlast h
    obtain ⟨run', best', hruns'⟩ : ∃ run' best', longestRun '\'' run' best' text < 3 := by
      rw [longestRun] at hruns
      split at hruns
      · exact ⟨_, _, hruns⟩
      · exact ⟨_, _, hruns⟩
    have hread := ih (Nat.lt_of_succ_lt_succ hfuel) hmore hruns' hlast'
    by_cases hc : c = '\''
    · subst hc
      have hnil : text ≠ [] := by rintro rfl; exact hlast rfl
      have hprefix : ['\'', '\''].isPrefixOf (text ++ '\'' :: '\'' :: '\'' :: rest) = false := by
        match text, hnil with
        | [d], _ =>
          have hd : ('\'' == d) = false := by
            refine beq_eq_false_iff_ne.mpr fun h => hlast' ?_
            rw [h]
            rfl
          simp [List.isPrefixOf, hd]
        | d :: e :: text, _ =>
          have hruns : ¬ (d = '\'' ∧ e = '\'') := by
            rintro ⟨rfl, rfl⟩
            simp only [longestRun, if_true] at hruns
            exact absurd (lt_of_longestRun_lt hruns) (by omega)
          simp only [List.cons_append, List.isPrefixOf, Bool.and_eq_false_iff, beq_eq_false_iff_ne,
            Bool.and_true]
          by_cases hd : d = '\''
          · exact .inr fun he => hruns ⟨hd, he.symm⟩
          · exact .inl fun h => hd h.symm
      have hgoes := goesOn_dropWhile ('\'' :: '\'' :: '\'' :: rest) hnil hmore hlast'
      rw [List.cons_append, lines]
      simp only [if_true, hprefix, hgoes, hread]
      rfl
    · rcases htext c List.mem_cons_self with hcomment | rfl
      · have hplain : isLiteral c = true := by simp [isLiteral, hcomment, hc]
        simp [lines, hc, hplain, hread]
        rfl
      · have hplain : isLiteral '\n' = false := rfl
        simp [lines, newline?, hplain, hread]
        rfl

/-! ## All styles -/

inductive Fits (text : List Char) : Style → Prop
  | basic : Fits text .basic
  | basicLines : Fits text .basicLines
  | literal (hnil : text ≠ []) (htext : ∀ c ∈ text, isLiteral c = true) : Fits text .literal
  | literalTriple (htext : ∀ c ∈ text, isComment c = true) (hruns : longestRun '\'' 0 0 text < 3)
      (hlast : text.getLast? ≠ some '\'') : Fits text .literalTriple
  | literalLines (htext : ∀ c ∈ text, isComment c = true ∨ c = '\n')
      (hruns : longestRun '\'' 0 0 text < 3) (hlast : text.getLast? ≠ some '\'') :
      Fits text .literalLines

theorem fits_style (text : List Char) : Fits text (style text) := by
  unfold style
  simp only
  split
  case isTrue hliterally =>
    simp only [Bool.and_eq_true, List.any_eq_true, List.all_eq_true, Bool.or_eq_true,
      decide_eq_true_eq] at hliterally
    obtain ⟨⟨⟨⟨c, hc, -⟩, htext⟩, hruns⟩, hlast⟩ := hliterally
    split_ifs with hseveral hsingles
    · exact .literalLines htext hruns hlast
    · have hline : '\n' ∉ text := by simpa using hseveral
      exact .literalTriple (fun d hd => (htext d hd).resolve_right fun h => hline (h ▸ hd)) hruns
        hlast
    · have hline : '\n' ∉ text := by simpa using hseveral
      have hquote := not_mem_of_longestRun (Nat.lt_one_iff.mpr (Nat.eq_zero_of_not_pos hsingles))
      refine .literal (List.ne_nil_of_mem hc) fun d hd => ?_
      have hcomment := (htext d hd).resolve_right fun h => hline (h ▸ hd)
      have hd : d ≠ '\'' := fun h => hquote (h ▸ hd)
      simp [isLiteral, hcomment, hd]
  case isFalse =>
    split_ifs
    · exact .basicLines
    · exact .basic

theorem parse_basic {text rest : List Char} (hrest : rest.head? ≠ some '"') :
    parse (inStyle text .basic ++ rest) = .found text rest := by
  have hread : basic ((text.flatMap (char false) ++ '"' :: rest).length + 1)
      (text.flatMap (char false) ++ '"' :: rest) = .found text rest := by
    refine basic_flatMap text rest ?_
    have := length_le_flatMap false text
    rw [List.length_append, List.length_cons]
    omega
  have hshape :
      inStyle text .basic ++ rest = '"' :: (text.flatMap (char false) ++ '"' :: rest) := by
    simp [inStyle]
  rw [hshape, parse.eq_2, hread]
  intro more h
  cases text with
  | nil =>
    obtain ⟨-, h⟩ := List.cons.inj h
    exact hrest (by rw [h]; rfl)
  | cons c text =>
    obtain ⟨d, more', hchar, hd⟩ := char_head false c
    rw [List.flatMap_cons, hchar] at h
    exact hd (List.cons.inj h).1

theorem parse_literal {text : List Char} (hnil : text ≠ [])
    (htext : ∀ c ∈ text, isLiteral c = true) (rest : List Char) :
    parse (inStyle text .literal ++ rest) = .found text rest := by
  have hshape : inStyle text .literal ++ rest = '\'' :: (text ++ '\'' :: rest) := by simp [inStyle]
  rw [hshape, parse.eq_4, literal_append htext]
  intro more h
  obtain ⟨c, text, rfl⟩ := List.exists_cons_of_ne_nil hnil
  have hc := htext c List.mem_cons_self
  rw [(List.cons.inj h).1] at hc
  exact absurd hc (by decide)

theorem linesAfter_of_newline {quote : Char} {isPlain : Char → Bool} {escapes : Bool}
    {text read rest : List Char}
    (h : ∀ fuel, text.length < fuel → lines quote isPlain escapes fuel text = .found read rest) :
    linesAfter quote isPlain escapes ('\n' :: text) = .found read rest :=
  h _ (Nat.lt_succ_self _)

theorem parse_inStyle {text rest : List Char} {style : Style} (hfits : Fits text style)
    (hdouble : rest.head? ≠ some '"') (hsingle : rest.head? ≠ some '\'') :
    parse (inStyle text style ++ rest) = .found text rest := by
  cases hfits with
  | basic => exact parse_basic hdouble
  | basicLines =>
    have hshape : inStyle text .basicLines ++ rest =
        '"' :: '"' :: '"' :: '\n' :: (text.flatMap (char true) ++ '"' :: '"' :: '"' :: rest) := by
      simp [inStyle]
    rw [hshape, parse]
    refine linesAfter_of_newline fun fuel hfuel => lines_flatMap text ?_ hdouble
    have := length_le_flatMap true text
    rw [List.length_append] at hfuel
    omega
  | literal hnil htext => exact parse_literal hnil htext rest
  | literalTriple htext hruns hlast =>
    have hshape : inStyle text .literalTriple ++ rest =
        '\'' :: '\'' :: '\'' :: (text ++ '\'' :: '\'' :: '\'' :: rest) := by simp [inStyle]
    have hline : newline? (text ++ '\'' :: '\'' :: '\'' :: rest) = none := by
      cases text with
      | nil => rfl
      | cons c text =>
        have hc := htext c List.mem_cons_self
        have hfeed : c ≠ '\n' := ne_of_apply_ne isComment (by rw [hc]; decide)
        have hreturn : c ≠ '\r' := ne_of_apply_ne isComment (by rw [hc]; decide)
        simp [newline?, hfeed, hreturn]
    rw [hshape, parse, linesAfter, hline]
    refine lines_append ?_ (fun c hc => .inl (htext c hc)) hruns hlast hsingle
    rw [Option.getD_none, List.length_append]
    omega
  | literalLines htext hruns hlast =>
    have hshape : inStyle text .literalLines ++ rest =
        '\'' :: '\'' :: '\'' :: '\n' :: (text ++ '\'' :: '\'' :: '\'' :: rest) := by simp [inStyle]
    rw [hshape, parse]
    refine linesAfter_of_newline fun fuel hfuel => lines_append ?_ htext hruns hlast hsingle
    rw [List.length_append] at hfuel
    omega

theorem written_head (text : List Char) :
    ∃ c more, written text = c :: more ∧ (c = '"' ∨ c = '\'') := by
  unfold written
  cases style text with
  | basic => exact ⟨_, _, rfl, .inl rfl⟩
  | basicLines => exact ⟨_, _, rfl, .inl rfl⟩
  | literal => exact ⟨_, _, rfl, .inr rfl⟩
  | literalTriple => exact ⟨_, _, rfl, .inr rfl⟩
  | literalLines => exact ⟨_, _, rfl, .inr rfl⟩

theorem parse_written (text : List Char) {rest : List Char} (hdouble : rest.head? ≠ some '"')
    (hsingle : rest.head? ≠ some '\'') : parse (written text ++ rest) = .found text rest :=
  parse_inStyle (fits_style text) hdouble hsingle

end MangaReader.Toml.Text

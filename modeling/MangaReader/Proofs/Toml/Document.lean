import MangaReader.Proofs.Toml.Number
import MangaReader.Proofs.Toml.Text
import MangaReader.Toml.Section

/-!
# Lines of a document are read as they are written

* `Value.Plain` : the values that a plain key can have.
* `Document.simpleKey_key`, `Document.key_intercalate` : keys and paths of keys.
* `Document.value_written` : plain values.
* `Document.statement_line`, `Document.statement_head` : lines with a key, and headers.
-/

namespace MangaReader.Toml

/-- A value that a plain key can have: a text, a truth value or a number of 64 bits. -/
inductive Value.Plain : Value → Prop
  | text (s : String) : Plain (.text s)
  | flag (b : Bool) : Plain (.flag b)
  | integer {n : Int} (hlow : -2 ^ 63 ≤ n) (hhigh : n < 2 ^ 63) : Plain (.integer n)

namespace Document

/-! ## Keys -/

def OpensKey (c : Char) : Prop := isBare c = true ∨ c = '"' ∨ c = '\''

theorem OpensKey.ne {c d : Char} (hc : OpensKey c) (hd : isBare d = false)
    (hquotes : d ≠ '"' ∧ d ≠ '\'') : c ≠ d := by
  rintro rfl
  rcases hc with hc | hc | hc
  · rw [hd] at hc; cases hc
  · exact hquotes.1 hc
  · exact hquotes.2 hc

theorem key_head (name : String) : ∃ c more, Section.key name = c :: more ∧ OpensKey c := by
  unfold Section.key
  simp only
  split
  case isTrue hbare =>
    rw [Bool.and_eq_true, List.all_eq_true] at hbare
    cases htext : name.toList with
    | nil => simp [htext] at hbare
    | cons c more =>
      rw [htext] at hbare
      exact ⟨c, more, rfl, .inl (hbare.2 c List.mem_cons_self)⟩
  case isFalse =>
    split
    · exact ⟨_, _, rfl, .inr (.inr rfl)⟩
    · exact ⟨_, _, rfl, .inr (.inl rfl)⟩

theorem skipBlank_key (name : String) (rest : List Char) :
    skipBlank (Section.key name ++ rest) = Section.key name ++ rest := by
  obtain ⟨c, more, hshape, hc⟩ := key_head name
  have hspace : c ≠ ' ' := hc.ne rfl (by decide)
  have htab : c ≠ '\t' := hc.ne rfl (by decide)
  rw [hshape, List.cons_append, skipBlank, List.dropWhile_cons_of_neg]
  simp [isBlank, hspace, htab]

theorem simpleKey_key (name : String) {rest : List Char}
    (hrest : ∀ c ∈ rest.head?, isBare c = false) :
    simpleKey (Section.key name ++ rest) = .found name rest := by
  unfold Section.key
  simp only
  split
  case isTrue hbare =>
    rw [Bool.and_eq_true, List.all_eq_true] at hbare
    obtain ⟨hnil, hbare⟩ := hbare
    have htake : (name.toList ++ rest).takeWhile isBare = name.toList := by
      rw [List.takeWhile_append_of_pos hbare]
      cases rest with
      | nil => exact List.append_nil _
      | cons c rest => rw [List.takeWhile_cons_of_neg (by simp [hrest c rfl]), List.append_nil]
    have hdrop : (name.toList ++ rest).dropWhile isBare = rest := by
      rw [List.dropWhile_append_of_pos hbare]
      cases rest with
      | nil => rfl
      | cons c rest => rw [List.dropWhile_cons_of_neg (by simp [hrest c rfl])]
    cases htext : name.toList with
    | nil => simp [htext] at hnil
    | cons c more =>
      have hc := hbare c (htext ▸ List.mem_cons_self)
      have hdouble : c ≠ '"' := ne_of_apply_ne isBare (by rw [hc]; decide)
      have hsingle : c ≠ '\'' := ne_of_apply_ne isBare (by rw [hc]; decide)
      rw [← htext, simpleKey.eq_3 _ (fun _ h => ?_) fun _ h => ?_, htake, hdrop,
        String.ofList_toList, if_neg (by simpa using hnil)]
      · rw [htext] at h
        exact hdouble (List.cons.inj h).1
      · rw [htext] at h
        exact hsingle (List.cons.inj h).1
  case isFalse =>
    split
    case isTrue hliteral =>
      rw [Bool.and_eq_true, List.all_eq_true] at hliteral
      have htext : ∀ c ∈ name.toList, Text.isLiteral c = true := fun c hc =>
        ((Bool.and_eq_true ..).mp (hliteral.2 c hc)).1
      have hshape : Text.inStyle name.toList .literal ++ rest =
          '\'' :: (name.toList ++ '\'' :: rest) := by simp [Text.inStyle]
      rw [hshape, simpleKey, Text.literal_append htext]
      simp [Parse.map, Parse.bind]
    case isFalse =>
      have hshape : Text.inStyle name.toList .basic ++ rest =
          '"' :: (name.toList.flatMap (Text.char false) ++ '"' :: rest) := by simp [Text.inStyle]
      rw [hshape, simpleKey, Text.basic_flatMap]
      · simp [Parse.map, Parse.bind]
      · have := Text.length_le_flatMap false name.toList
        rw [List.length_append, List.length_cons]
        omega

def ClosesPath (c : Char) : Prop := c = ']' ∨ c = '='

theorem after_key (names : List String) {c : Char} (hc : ClosesPath c) (rest : List Char) :
    ∃ d more, names.flatMap (fun name => '.' :: Section.key name) ++ c :: rest = d :: more ∧
      isBare d = false ∧ skipBlank (d :: more) = d :: more := by
  cases names with
  | nil =>
    refine ⟨c, rest, rfl, ?_⟩
    rcases hc with rfl | rfl
    · exact ⟨rfl, rfl⟩
    · exact ⟨rfl, rfl⟩
  | cons name names => exact ⟨'.', _, rfl, rfl, rfl⟩

theorem moreKeys_flatMap (names : List String) {c : Char} (hc : ClosesPath c) (rest : List Char)
    {fuel : Nat} (hfuel : names.length ≤ fuel) :
    moreKeys fuel (names.flatMap (fun name => '.' :: Section.key name) ++ c :: rest) =
      .found names (c :: rest) := by
  induction names generalizing fuel with
  | nil =>
    have hdot : c ≠ '.' := by rcases hc with rfl | rfl <;> decide
    cases fuel with
    | zero => rfl
    | succ fuel =>
      rw [List.flatMap_nil, List.nil_append, moreKeys.eq_3 _ _ fun _ h => hdot (List.cons.inj h).1]
  | cons name names ih =>
    obtain ⟨fuel, rfl⟩ := Nat.exists_eq_add_one_of_ne_zero (Nat.ne_zero_of_lt hfuel)
    obtain ⟨d, more, hshape, hbare, hskip⟩ := after_key names hc rest
    have hread := ih (Nat.le_of_succ_le_succ hfuel)
    rw [hshape] at hread
    rw [List.flatMap_cons, List.append_assoc, hshape, List.cons_append, moreKeys, skipBlank_key,
      simpleKey_key name (by simp [hbare])]
    simp only [hskip, hread]
    rfl

theorem length_le_flatMap_keys (names : List String) :
    names.length ≤ (names.flatMap fun name => '.' :: Section.key name).length := by
  induction names with
  | nil => exact Nat.le_refl 0
  | cons name names ih =>
    rw [List.flatMap_cons, List.length_append, List.length_cons, List.length_cons]
    omega

theorem intercalate_keys (first : String) (names : List String) :
    ['.'].intercalate ((first :: names).map Section.key) =
      Section.key first ++ names.flatMap fun name => '.' :: Section.key name := by
  induction names generalizing first with
  | nil => simp
  | cons name names ih =>
    rw [List.map_cons, List.map_cons, List.intercalate_cons_cons, ← List.map_cons, ih]
    simp

theorem key_intercalate (first : String) (names : List String)
    (hlength : names.length + 1 < depthLimit) (rest : List Char) :
    key (['.'].intercalate ((first :: names).map Section.key) ++ ']' :: rest) =
      .found ((first :: names).dropLast, (first :: names).getLastD first) (']' :: rest) := by
  have hfuel : names.length ≤
      (names.flatMap (fun name => '.' :: Section.key name) ++ ']' :: rest).length := by
    have := length_le_flatMap_keys names
    rw [List.length_append]
    omega
  have hread := moreKeys_flatMap names (.inl rfl) rest hfuel
  obtain ⟨d, more, hshape, hbare, hskip⟩ := after_key names (.inl rfl) rest
  rw [intercalate_keys, List.append_assoc, key, skipBlank_key]
  rw [hshape] at hread ⊢
  rw [simpleKey_key first (by simp [hbare]), Parse.bind, hskip, hread, Parse.bind,
    if_neg (Nat.not_le.mpr hlength)]

theorem key_key (name : String) (rest : List Char) :
    key (Section.key name ++ (" = ".toList ++ rest)) = .found ([], name) ('=' :: ' ' :: rest) := by
  have hread : moreKeys (" = ".toList ++ rest).length (skipBlank (" = ".toList ++ rest)) =
      .found [] ('=' :: ' ' :: rest) := moreKeys_flatMap [] (.inr rfl) _ (Nat.zero_le _)
  rw [key, skipBlank_key, simpleKey_key name (by simp; decide), Parse.bind, hread]
  rfl

/-! ## Values -/

theorem toString_head (n : Int) :
    ∃ c more, (toString n).toList = c :: more ∧ (c.isDigit = true ∨ c = '-') := by
  rw [Decimal.toList_toString]
  by_cases hn : n < 0
  · exact ⟨'-', _, by rw [Decimal.sign, if_pos (decide_eq_true hn)]; rfl, .inr rfl⟩
  · obtain ⟨d, others, hshape, hd⟩ := Number.exists_cons_toDigits n.natAbs
    exact ⟨d, others, by rw [Decimal.sign, if_neg (by simpa using hn), hshape]; rfl, .inl hd⟩

theorem value_head {v : Value} (hv : v.Plain) :
    ∃ c more, Section.value v = c :: more ∧ c ≠ '[' ∧ c ≠ '\x7b' ∧ isBlank c = false := by
  cases hv with
  | text s =>
    obtain ⟨c, more, hshape, hc⟩ := Text.written_head s.toList
    refine ⟨c, more, hshape, ?_⟩
    rcases hc with rfl | rfl
    · decide
    · decide
  | flag b =>
    cases b with
    | true => exact ⟨'t', _, rfl, by decide⟩
    | false => exact ⟨'f', _, rfl, by decide⟩
  | integer =>
    obtain ⟨c, more, hshape, hc⟩ := toString_head _
    refine ⟨c, more, hshape, ?_, ?_, ?_⟩
    · rintro rfl; exact absurd hc (by decide)
    · rintro rfl; exact absurd hc (by decide)
    · rw [isBlank, Bool.or_eq_false_iff, decide_eq_false_iff_not, decide_eq_false_iff_not]
      constructor
      · rintro rfl; exact absurd hc (by decide)
      · rintro rfl; exact absurd hc (by decide)

theorem scalar_integer {n : Int} (hlow : -2 ^ 63 ≤ n) (hhigh : n < 2 ^ 63) (rest : List Char) :
    scalar ((toString n).toList ++ '\n' :: rest) = .found (.integer n) ('\n' :: rest) := by
  obtain ⟨moment, hmoment⟩ := Moment.parse_toDigits n rest
  obtain ⟨real, hreal⟩ := Number.real_toDigits n rest
  have hinteger := Number.integer_toDigits hlow hhigh rest
  obtain ⟨c, more, hshape, hc⟩ := toString_head n
  have hdouble : c ≠ '"' := by rintro rfl; exact absurd hc (by decide)
  have hsingle : c ≠ '\'' := by rintro rfl; exact absurd hc (by decide)
  have hnumber : c.isDigit = true ∨ c = '+' ∨ c = '-' := hc.imp_right .inr
  rw [hshape, List.cons_append] at hmoment hreal hinteger ⊢
  simp only [scalar, hdouble, hsingle, or_self, if_false, if_pos hnumber, hmoment, hreal, hinteger]
  rfl

theorem value_written {v : Value} (hv : v.Plain) (room : Nat) (rest : List Char) :
    value room (Section.value v ++ '\n' :: rest) = .found v ('\n' :: rest) := by
  have hscalar : scalar (Section.value v ++ '\n' :: rest) = .found v ('\n' :: rest) := by
    cases hv with
    | text s =>
      have hread : Text.parse (Text.written s.toList ++ '\n' :: rest) =
          .found s.toList ('\n' :: rest) := Text.parse_written s.toList (by simp) (by simp)
      obtain ⟨c, more, hshape, hc⟩ := Text.written_head s.toList
      rw [Section.value, hshape, List.cons_append, scalar, if_pos hc, ← List.cons_append, ← hshape,
        hread]
      simp [Parse.map, Parse.bind]
    | flag b =>
      cases b with
      | true => rfl
      | false => rfl
    | integer hlow hhigh => exact scalar_integer hlow hhigh rest
  obtain ⟨c, more, hshape, hlist, htable, -⟩ := value_head hv
  rw [hshape, List.cons_append] at hscalar ⊢
  rw [value.eq_5 _ _ (fun _ _ h _ => hlist (List.cons.inj h).1)
    (fun _ _ h _ => htable (List.cons.inj h).1) (fun _ h _ => hlist (List.cons.inj h).1)
    fun _ h _ => htable (List.cons.inj h).1, hscalar]

theorem pair_line {p : String × Value} (hp : p.2.Plain) (room : Nat) (rest : List Char) :
    pair (value room) (Section.line p ++ rest) = .found (([], p.1), p.2) ('\n' :: rest) := by
  have hshape : Section.line p ++ rest =
      Section.key p.1 ++ (" = ".toList ++ (Section.value p.2 ++ '\n' :: rest)) := by
    simp [Section.line]
  have hskip : skipBlank (' ' :: (Section.value p.2 ++ '\n' :: rest)) =
      Section.value p.2 ++ '\n' :: rest := by
    obtain ⟨c, more, hshape, -, -, hblank⟩ := value_head hp
    rw [hshape, List.cons_append, skipBlank, List.dropWhile_cons_of_pos (by decide),
      List.dropWhile_cons_of_neg (by simp [hblank])]
  rw [hshape, pair, key_key, Parse.bind, expect, if_pos rfl, Parse.bind, hskip, value_written hp]
  rfl

/-! ## Lines -/

theorem statement_line {d d' : Draft} {p : String × Value} (hp : p.2.Plain)
    (hd : d.put [] p.1 p.2 = some d') (rest : List Char) :
    statement d (Section.line p ++ rest) = .found d' rest := by
  have hassign : assignment d (Section.line p ++ rest) = .found d' rest := by
    rw [assignment, pair_line hp]
    simp only [Parse.bind, trailing, hd]
    rfl
  obtain ⟨c, more, hshape, hc⟩ := key_head p.1
  rw [← hassign, Section.line, hshape]
  simp only [List.cons_append]
  refine statement.eq_6 _ _ ?_ ?_ ?_ ?_ ?_
  · exact fun _ h => hc.ne (d := '#') rfl (by decide) (List.cons.inj h).1
  · exact fun h => hc.ne (d := '[') rfl (by decide) (List.cons.inj h).1
  · exact fun _ h => hc.ne (d := '[') rfl (by decide) (List.cons.inj h).1
  · exact fun _ h => hc.ne (d := '\n') rfl (by decide) (List.cons.inj h).1
  · exact fun _ h => hc.ne (d := '\r') rfl (by decide) (List.cons.inj h).1

theorem statement_head {d d' : Draft} {first : String} {names : List String}
    (hlength : names.length + 1 < depthLimit)
    (hd : d.enter ⟨(first :: names).dropLast, (first :: names).getLastD first, false⟩ = some d')
    (rest : List Char) :
    statement d (Section.head (first :: names) ++ rest) = .found d' rest := by
  have hkey := key_intercalate first names hlength ('\n' :: rest)
  have hshape : Section.head (first :: names) ++ rest =
      '[' :: (['.'].intercalate ((first :: names).map Section.key) ++ ']' :: '\n' :: rest) := by
    simp [Section.head]
  obtain ⟨c, more, hc, hopens⟩ := key_head first
  have hlisted : (['.'].intercalate ((first :: names).map Section.key) ++
      ']' :: '\n' :: rest).head? ≠ some '[' := by
    rw [intercalate_keys, hc]
    exact fun h => hopens.ne (d := '[') rfl (by decide) (Option.some.inj h)
  rw [hshape, statement.eq_3]
  · simp only [header, hlisted, if_false, decide_false, hkey, Parse.bind]
    rw [if_neg (by simp)]
    simp only [List.length_singleton, List.drop_one, List.tail_cons, hd]
    rfl
  · intro h
    have := congrArg List.length h
    simp at this

end Document

end MangaReader.Toml

import MangaReader.Proofs.Decimal.Digits
import MangaReader.Toml.Moment
import MangaReader.Toml.Number
import Mathlib.Algebra.Group.Int.Defs

/-!
# Whole numbers are read as they are written

A whole number is written in decimals, and a line ends after it. It is no date, no time and no
number with a fraction.

* `Moment.parse_toDigits`, `Number.real_toDigits` : what it is not.
* `Number.integer_toDigits` : the number is read back if it fits 64 bits.
-/

namespace MangaReader.Toml

open Decimal

namespace Number

/-! ## Digits -/

theorem moreDigits_append {digits : List Char} (hdigits : ∀ c ∈ digits, c.isDigit = true)
    (rest : List Char) :
    moreDigits Char.isDigit (digits ++ '\n' :: rest) = .found digits ('\n' :: rest) := by
  induction digits with
  | nil => rfl
  | cons c digits ih =>
    obtain ⟨hc, hdigits⟩ := List.forall_mem_cons.mp hdigits
    have hscore : c ≠ '_' := ne_of_apply_ne Char.isDigit (by rw [hc]; decide)
    rw [List.cons_append, moreDigits.eq_3 _ _ _ (fun _ _ h => absurd h hscore)
      (fun h => absurd h hscore), if_pos hc, ih hdigits]
    rfl

theorem wholeDigits_toDigits (n : Nat) (rest : List Char) :
    wholeDigits (Nat.toDigits 10 n ++ '\n' :: rest) =
      .found (Nat.toDigits 10 n) ('\n' :: rest) := by
  rcases Nat.eq_zero_or_pos n with rfl | hpos
  · rfl
  · have hdigits : ∀ c ∈ Nat.toDigits 10 n, c.isDigit = true := fun c hc => isDigit_toDigits hc
    obtain ⟨d, others, hshape, hd⟩ := toDigits_of_pos hpos
    rw [hshape] at hdigits ⊢
    obtain ⟨hfirst, hothers⟩ := List.forall_mem_cons.mp hdigits
    rw [List.cons_append, wholeDigits.eq_2 _ (fun _ h => hd (List.cons.inj h).1), digits,
      if_pos hfirst, moreDigits_append hothers]
    rfl

theorem value_toDigits (n : Nat) : value 10 (Nat.toDigits 10 n) = n := by
  have hvalue : ∀ (digits : List Char) (start : Nat), (∀ c ∈ digits, c.isDigit = true) →
      digits.foldl (fun n c => n * 10 +
        (if c.isDigit then c.toNat - 48 else if 'a' ≤ c then c.toNat - 87 else c.toNat - 55))
        start =
        Nat.ofDigitChars 10 digits start := by
    intro digits
    induction digits with
    | nil => exact fun _ _ => rfl
    | cons c digits ih =>
      intro start hdigits
      obtain ⟨hc, hdigits⟩ := List.forall_mem_cons.mp hdigits
      rw [List.foldl_cons, if_pos hc, ih _ hdigits, Nat.ofDigitChars_cons, Nat.mul_comm]
      rfl
  rw [value, hvalue _ _ fun c hc => isDigit_toDigits hc]
  exact Nat.ofDigitChars_ten_toDigits

/-! ## Signs -/

theorem exists_cons_toDigits (n : Nat) :
    ∃ d others, Nat.toDigits 10 n = d :: others ∧ d.isDigit = true := by
  obtain ⟨d, others, hshape⟩ := List.exists_cons_of_ne_nil (Nat.toDigits_ne_nil (n := n) (b := 10))
  exact ⟨d, others, hshape, isDigit_toDigits (hshape ▸ List.mem_cons_self)⟩

theorem sign_toDigits (negative : Bool) (n : Nat) (text : List Char) :
    sign (Decimal.sign negative ++ (Nat.toDigits 10 n ++ text)) =
      (negative, Nat.toDigits 10 n ++ text) := by
  cases negative with
  | true => rfl
  | false =>
    obtain ⟨d, others, hshape, hd⟩ := exists_cons_toDigits n
    have hminus : d ≠ '-' := ne_of_apply_ne Char.isDigit (by rw [hd]; decide)
    have hplus : d ≠ '+' := ne_of_apply_ne Char.isDigit (by rw [hd]; decide)
    rw [hshape, Decimal.sign, if_neg (by decide), List.nil_append, List.cons_append,
      sign.eq_3 _ (fun _ h => hminus (List.cons.inj h).1) fun _ h => hplus (List.cons.inj h).1]

/-! ## Whole numbers and others -/

theorem real_toDigits (n : Int) (rest : List Char) :
    ∃ more, real ((toString n).toList ++ '\n' :: rest) = .absent more := by
  obtain ⟨d, others, hshape, hd⟩ := exists_cons_toDigits n.natAbs
  have hi : d ≠ 'i' := ne_of_apply_ne Char.isDigit (by rw [hd]; decide)
  have hn : d ≠ 'n' := ne_of_apply_ne Char.isDigit (by rw [hd]; decide)
  have hspecial : special ((toString n).toList ++ '\n' :: rest) =
      .absent (Nat.toDigits 10 n.natAbs ++ '\n' :: rest) := by
    rw [toList_toString, List.append_assoc, special, sign_toDigits, hshape]
    simp [List.isPrefixOf, hi.symm, hn.symm]
  refine ⟨_, Eq.trans ?_ hspecial⟩
  rw [real, toList_toString, List.append_assoc, sign_toDigits]
  simp only [wholeDigits_toDigits]
  rfl

theorem integer_toDigits {n : Int} (hlow : -2 ^ 63 ≤ n) (hhigh : n < 2 ^ 63) (rest : List Char) :
    integer ((toString n).toList ++ '\n' :: rest) = .found n ('\n' :: rest) := by
  have hvalue : (if decide (n < 0) = true then -(n.natAbs : Int) else n.natAbs) = n := by
    by_cases hn : n < 0
    · rw [if_pos (decide_eq_true hn)]
      omega
    · rw [if_neg (by simpa using hn)]
      omega
  have hbase : ∀ c ∈ ['x', 'o', 'b'], ∀ text,
      Decimal.sign (n < 0) ++ (Nat.toDigits 10 n.natAbs ++ '\n' :: rest) ≠ '0' :: c :: text := by
    intro c hc text h
    by_cases hn : n < 0
    · rw [Decimal.sign, if_pos (decide_eq_true hn)] at h
      exact absurd (List.cons.inj h).1 (by decide)
    rw [Decimal.sign, if_neg (by simpa using hn), List.nil_append] at h
    rcases Nat.eq_zero_or_pos n.natAbs with hzero | hpos
    · rw [hzero] at h
      obtain ⟨rfl, -⟩ := List.cons.inj (List.cons.inj h).2
      exact absurd hc (by decide)
    · obtain ⟨d, others, hshape, hd⟩ := toDigits_of_pos hpos
      rw [hshape] at h
      exact hd (List.cons.inj h).1
  rw [toList_toString, List.append_assoc,
    integer.eq_4 _ (hbase 'x' (by decide)) (hbase 'o' (by decide)) (hbase 'b' (by decide)),
    sign_toDigits]
  simp only [wholeDigits_toDigits, value_toDigits, hvalue]
  exact if_pos ⟨hlow, hhigh⟩

end Number

namespace Moment

theorem digits?_append {digits text : List Char} {count n : Nat} {rest : List Char}
    (hdigits : ∀ c ∈ digits, c.isDigit = true)
    (h : digits? count (digits ++ '\n' :: text) = some (n, rest)) :
    ∃ more, (∀ c ∈ more, c.isDigit = true) ∧ rest = more ++ '\n' :: text := by
  rw [digits?] at h
  split at h
  case isFalse => cases h
  case isTrue hall =>
    obtain ⟨-, rfl⟩ := Prod.mk.inj (Option.some.inj h)
    rw [Bool.and_eq_true, List.all_eq_true] at hall
    have hcount : count ≤ digits.length := by
      by_contra hmore
      have hmem : '\n' ∈ (digits ++ '\n' :: text).take count := by
        rw [List.take_append, List.mem_append]
        obtain ⟨k, hk⟩ := Nat.exists_eq_add_of_lt (Nat.not_le.mp hmore)
        have hk : count - digits.length = k + 1 := by omega
        rw [hk, List.take_succ_cons]
        exact .inr List.mem_cons_self
      exact absurd (hall.2 '\n' hmem) (by decide)
    refine ⟨digits.drop count, fun c hc => hdigits c (List.mem_of_mem_drop hc), ?_⟩
    rw [List.drop_append_of_le_length hcount]

theorem parse_digits {digits : List Char} (hdigits : ∀ c ∈ digits, c.isDigit = true)
    (text : List Char) : ∃ more, parse (digits ++ '\n' :: text) = .absent more := by
  have hhead : ∀ (more : List Char) (c : Char) (rest : List Char),
      (∀ c ∈ more, c.isDigit = true) → more ++ '\n' :: text = c :: rest →
      c.isDigit = true ∨ c = '\n' := by
    intro more c rest hmore h
    cases more with
    | nil => exact .inr (List.cons.inj h).1.symm
    | cons d more => exact .inl ((List.cons.inj h).1 ▸ hmore d List.mem_cons_self)
  have hdate : date (digits ++ '\n' :: text) = .absent (digits ++ '\n' :: text) := by
    rw [date]
    split
    case h_1 year rest h =>
      obtain ⟨more, hmore, hshape⟩ := digits?_append hdigits h
      rcases hhead more _ _ hmore hshape.symm with h | h
      · exact absurd h (by decide)
      · exact absurd h (by decide)
    case h_2 => rfl
  have htime : ∃ more, time (digits ++ '\n' :: text) = .absent more := by
    cases hhour : digits? 2 (digits ++ '\n' :: text) with
    | none => exact ⟨_, by rw [time, pair, hhour]; rfl⟩
    | some read =>
      obtain ⟨hour, rest⟩ := read
      obtain ⟨more, hmore, rfl⟩ := digits?_append hdigits hhour
      by_cases hbound : 0 ≤ hour ∧ hour ≤ 23
      · have hcolon : expect ':' (more ++ '\n' :: text) = .absent (more ++ '\n' :: text) := by
          cases hshape : more ++ '\n' :: text with
          | nil => rfl
          | cons c rest =>
            have hc : c ≠ ':' := by
              rintro rfl
              rcases hhead more ':' rest hmore hshape with h | h
              · exact absurd h (by decide)
              · exact absurd h (by decide)
            rw [expect, if_neg hc]
        exact ⟨_, by simp only [time, pair, hhour, if_pos hbound, Parse.bind, hcolon]; rfl⟩
      · exact ⟨_, by simp only [time, pair, hhour, if_neg hbound]; rfl⟩
  obtain ⟨more, htime⟩ := htime
  exact ⟨more, by rw [parse, hdate]; exact htime⟩

theorem parse_toDigits (n : Int) (rest : List Char) :
    ∃ more, parse ((toString n).toList ++ '\n' :: rest) = .absent more := by
  rw [toList_toString]
  by_cases hn : n < 0
  · have hnone : ∀ count text, digits? (count + 1) ('-' :: text) = none := fun count text => by
      simp [digits?]
    rw [Decimal.sign, if_pos (decide_eq_true hn), List.append_assoc, List.singleton_append]
    exact ⟨_, by simp only [parse, date, time, pair, hnone, Parse.bind]; rfl⟩
  · rw [Decimal.sign, if_neg (by simpa using hn), List.nil_append]
    exact parse_digits (fun c hc => isDigit_toDigits hc) rest

end Moment

end MangaReader.Toml

import MangaReader.Proofs.Json.Numeral
import MangaReader.Time.Instant
import Mathlib.Algebra.Group.Nat.Defs

/-!
# Numbers of a fixed width

* `Instant.padded_written` : a number at a width, as digits of a value.
* `Scan.number_append` : **what is written at a width is read**, whatever follows.
-/

namespace MangaReader.Time

open Decimal Json

namespace Scan

theorem value_replicate (k : Nat) (digits : List Char) :
    value 0 (List.replicate k '0' ++ digits) = value 0 digits := by
  induction k with
  | zero => rfl
  | succ k ih => simpa [List.replicate_succ, value] using ih

theorem value_toDigits (n : Nat) : value 0 (Nat.toDigits 10 n) = n := by
  have hvalue : ∀ (digits : List Char) (start : Nat),
      value start digits = Nat.ofDigitChars 10 digits start := by
    intro digits
    induction digits with
    | nil => exact fun _ => rfl
    | cons c digits ih =>
      intro start
      rw [Nat.ofDigitChars_cons, ← ih, Nat.mul_comm]
      rfl
  rw [hvalue]
  exact Nat.ofDigitChars_ten_toDigits

end Scan

theorem toList_pushn (s : String) (c : Char) (n : Nat) :
    (s.pushn c n).toList = s.toList ++ List.replicate n c := by
  induction n with
  | zero => simp [String.pushn, Nat.repeat]
  | succ n ih =>
    have hpush : s.pushn c (n + 1) = (s.pushn c n).push c := rfl
    rw [hpush, String.toList_push, ih, List.replicate_succ', List.append_assoc]

theorem padded_written {width n : Nat} (hwidth : 0 < width) (hn : n < 10 ^ width) :
    (Instant.padded width n).toList.length = width ∧
      (∀ c ∈ (Instant.padded width n).toList, c.isDigit = true) ∧
      Scan.value 0 (Instant.padded width n).toList = n := by
  have hlength := (Nat.length_toDigits_le_iff (by decide) hwidth).mpr hn
  have htext : (Instant.padded width n).toList =
      List.replicate (width - (Nat.toDigits 10 n).length) '0' ++ Nat.toDigits 10 n := by
    rw [Instant.padded, Nat.toString_eq_ofList_toDigits, String.toList_append, toList_pushn,
      String.toList_ofList, String.toList_ofList, String.length_ofList]
    rfl
  rw [htext]
  refine ⟨?_, ?_, ?_⟩
  · rw [List.length_append, List.length_replicate]
    omega
  · intro c hc
    rcases List.mem_append.mp hc with hc | hc
    · rw [List.eq_of_mem_replicate hc]
      rfl
    · exact isDigit_toDigits hc
  · rw [Scan.value_replicate, Scan.value_toDigits]

/-! ### Reading -/

namespace Scan

variable {digits rest : List Char} {least most : Nat}

theorem dropWhile_of_noDigit (hrest : NoDigit rest) : rest.dropWhile Char.isDigit = rest := by
  cases rest with
  | nil => rfl
  | cons c rest => simp [hrest c rfl]

theorem noDigit_take (h : NoDigit rest) (k : Nat) : NoDigit (rest.take k) := by
  cases rest with
  | nil => simpa using h
  | cons c rest =>
    cases k with
    | zero => exact nofun
    | succ k => exact h

theorem number_append (hdigits : ∀ c ∈ digits, c.isDigit = true) (hleast : least ≤ digits.length)
    (hmost : digits.length = most ∨ digits.length ≤ most ∧ NoDigit rest) :
    number least most (digits ++ rest) = .ok (value 0 digits, rest) := by
  have htaken : ((digits ++ rest).take most).takeWhile Char.isDigit = digits := by
    rcases hmost with rfl | ⟨hmost, hrest⟩
    · have hend : NoDigit [] := nofun
      rw [List.take_left]
      simpa using takeWhile_digits hdigits hend
    · rw [List.take_append, List.take_of_length_le hmost]
      exact takeWhile_digits hdigits (noDigit_take hrest _)
  simp only [number, htaken, if_neg (Nat.not_lt.mpr hleast), List.drop_left]

end Scan

end MangaReader.Time

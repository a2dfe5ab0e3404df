import Mathlib.Data.Nat.Basic

/-!
# Whole numbers in decimals

* `Decimal.toList_toString` : the decimals of a number, behind its sign.
* `Decimal.isDigit_toDigits`, `Decimal.toDigits_of_pos` : their characters.
-/

namespace MangaReader.Decimal

theorem toNat_digitChar : ∀ d < 10, d.digitChar.toNat - 48 = d := by decide

theorem isDigit_toDigits {n : Nat} {c : Char} (hc : c ∈ Nat.toDigits 10 n) : c.isDigit :=
  Nat.isDigit_of_mem_toDigits (by decide) (by decide) hc

theorem toDigits_of_pos {n : Nat} (hn : 0 < n) :
    ∃ d digits, Nat.toDigits 10 n = d :: digits ∧ d ≠ '0' := by
  induction n using Nat.strongRecOn with
  | ind n ih =>
    by_cases hsmall : n < 10
    · have hdigit : ∀ d < 10, 0 < d → d.digitChar ≠ '0' := by decide
      exact ⟨n.digitChar, [], Nat.toDigits_of_lt_base hsmall, hdigit n hsmall hn⟩
    · obtain ⟨d, digits, hdigits, hd⟩ := ih (n / 10) (by omega) (by omega)
      refine ⟨d, digits ++ [(n % 10).digitChar], ?_, hd⟩
      rw [Nat.toDigits_of_base_le (by decide) (Nat.not_lt.mp hsmall), hdigits, List.cons_append]

theorem digitChar_toNat {c : Char} (hc : c.isDigit) : (c.toNat - 48).digitChar = c := by
  obtain ⟨hlow, hhigh⟩ := Char.isDigit_iff_toNat.mp hc
  have hdigit : ∀ n, 48 ≤ n → n ≤ 57 → (n - 48).digitChar = Char.ofNat n := by decide
  rw [hdigit _ hlow hhigh, Char.ofNat_toNat]

def sign (negative : Bool) : List Char := if negative then ['-'] else []

theorem toList_toString (n : Int) :
    (toString n).toList = sign (n < 0) ++ Nat.toDigits 10 n.natAbs := by
  rw [Int.toString_eq_repr, Int.repr_eq_if]
  by_cases hn : 0 ≤ n
  · have habs : n.toNat = n.natAbs := by omega
    simp [sign, hn, Int.not_lt.mpr hn, habs]
  · have habs : (-n).toNat = n.natAbs := by omega
    simp [sign, hn, Int.not_le.mp hn, habs]

end MangaReader.Decimal

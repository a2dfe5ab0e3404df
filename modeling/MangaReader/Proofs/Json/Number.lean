import MangaReader.Json.Print
import MangaReader.Proofs.Json.NumeralValue

/-!
# Integers as they are written

An integer of 64 bits is written as a number of the grammar, without point and exponent, and that
number is the integer.

* `Number.Ends` : a text that goes on with no number.
* `Number.numeral` : the number of the grammar that an integer is written as.
* `Number.text_numeral`, `Number.value?_numeral` : its text, and that it is the integer.
-/

namespace MangaReader.Json.Number

open Decimal

/-- A text that goes on with no number. -/
def Ends (rest : List Char) : Prop :=
  ∀ c ∈ rest.head?, c.isDigit = false ∧ c ≠ '.' ∧ c ≠ 'e' ∧ c ≠ 'E'

theorem Ends.endsBefore {rest : List Char} (h : Ends rest) (n : Numeral) : n.EndsBefore rest where
  digit c hc := (h c hc).1
  fraction _ _ hpoint := (h '.' hpoint).2.1 rfl
  exponent _ := ⟨fun hmark => (h 'e' hmark).2.2.1 rfl, fun hmark => (h 'E' hmark).2.2.2 rfl⟩

/-- An integer of 64 bits, signed or unsigned. -/
def IsWord : Number → Prop
  | .integer n => -2 ^ 63 ≤ n ∧ n < 2 ^ 64
  | .float _ => False

def numeral (n : Int) : Numeral := { negative := n < 0, whole := Nat.toDigits 10 n.natAbs }

theorem text_numeral (n : Int) : (numeral n).text = Value.numberText (.integer n) := by
  have htext : Value.numberText (.integer n) = sign (n < 0) ++ Nat.toDigits 10 n.natAbs :=
    toList_toString n
  simp [htext, numeral, Numeral.text, Numeral.pointed, Numeral.raised]

theorem sound_numeral (n : Int) : (numeral n).Sound where
  whole := ⟨Nat.toDigits_ne_nil, fun _ => isDigit_toDigits⟩
  fraction := nofun
  exponent := nofun
  noLeadingZero hzero := by
    rcases Nat.eq_zero_or_pos n.natAbs with hn | hn
    · rw [numeral, hn, Nat.toDigits_zero]
    · obtain ⟨d, digits, hdigits, hd⟩ := toDigits_of_pos hn
      rw [numeral, hdigits, List.head?_cons, Option.some.injEq] at hzero
      exact absurd hzero hd

theorem mem_numberText {n : Number} (hn : n.IsWord) {c : Char} (hc : c ∈ Value.numberText n) :
    c = '-' ∨ c.isDigit := by
  cases n with
  | float x => exact hn.elim
  | integer n =>
    have htext : Value.numberText (.integer n) = sign (n < 0) ++ Nat.toDigits 10 n.natAbs :=
      toList_toString n
    rw [htext, List.mem_append] at hc
    rcases hc with hsign | hdigit
    · rw [sign] at hsign
      split at hsign
      · exact .inl (List.mem_singleton.mp hsign)
      · cases hsign
    · exact .inr (isDigit_toDigits hdigit)

theorem value?_numeral {n : Int} (hn : IsWord (.integer n)) :
    (numeral n).value? = some (.integer n) := by
  obtain ⟨hlow, hhigh⟩ := hn
  have hword : digitsInto 0 (Nat.toDigits 10 n.natAbs) = (n.natAbs, []) :=
    digitsInto_toDigits n.natAbs (by omega)
  have hvalue : (numeral n).value? = some (Numeral.ofWord (n < 0) n.natAbs) := by
    simp [Numeral.value?, Numeral.behind?, numeral, hword]
  rw [hvalue, Numeral.ofWord]
  by_cases hnegative : n < 0
  · rw [if_pos (decide_eq_true hnegative), if_pos ⟨by omega, by omega⟩]
    congr
    omega
  · rw [if_neg (by simpa using hnegative)]
    congr
    omega

end MangaReader.Json.Number

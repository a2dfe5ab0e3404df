import MangaReader.Proofs.Json.Numeral
import Mathlib.Algebra.Group.Int.Defs
import Mathlib.Algebra.Group.Nat.Defs

/-!
# The value of a number

What a number is, or that it is out of range, is a matter of its own text: of the digits before the
point as far as they fit a word of 64 bits, of those behind it, and of the exponent. A number
without point and exponent that fits 64 bits is an integer.

* `Numeral.value?` : the value of a number.
* `Numeral.given_read` : **a number is read to its value**.
* `Number.digitsInto_eq_iff` : the digits that fill a word are its decimals.
* `Numeral.value?_eq_natural_iff` : **only its decimals are a natural number**.
-/

namespace MangaReader.Json

def Exponent.scaled? (e : Exponent) (negative : Bool) (word : Nat) (scale : Int) : Option Number :=
  let down := e.sign == some true
  match Number.exponentDigits 0 0 e.digits with
  | .inl size =>
    (Number.ofParts negative word (if down then scale - size else scale + size)).map .float
  | .inr _ => if word ≠ 0 ∧ ¬ down then none else some (.float (if negative then -0.0 else 0.0))

namespace Numeral

def ofWord (negative : Bool) (word : Nat) : Number :=
  if negative then
    if 0 < word ∧ word ≤ 1 <<< 63 then .integer (-(word : Int))
    else .float (-word.toUInt64.toFloat)
  else .integer word

def scaled? (n : Numeral) (word : Nat) (scale : Int) : Option Number :=
  match n.exponent with
  | none => (Number.ofParts n.negative word scale).map .float
  | some e => e.scaled? n.negative word scale

/-- What a number is once the digits before its point are read: a word, and the count of those that
did not fit it. -/
def behind? (n : Numeral) (word dropped : Nat) : Option Number :=
  match n.fraction with
  | some digits =>
    let (word, left) := Number.digitsInto word digits
    n.scaled? word (dropped - ((digits.length : Int) - left.length))
  | none =>
    if n.exponent = none ∧ dropped = 0 then some (ofWord n.negative word)
    else n.scaled? word dropped

/-- The value of a number, if it is in range. A number without point and exponent that fits 64 bits
is an integer. -/
def value? (n : Numeral) : Option Number :=
  let (word, dropped) := Number.digitsInto 0 n.whole
  n.behind? word dropped.length

end Numeral

/-! ### Reading -/

namespace Number

def given (r : Except Fault (Number × Cursor)) : Option Number := r.toOption.map (·.1)

theorem given_ofParts (parts : Option Float) (fault : Fault) (after : Cursor) :
    given (match parts with
      | some x => .ok (.float x, after)
      | none => .error fault) = parts.map .float := by
  cases parts <;> rfl

def readSize (negative : Bool) (word : Nat) (exponent : Int) (down : Bool) (c : Cursor) :
    Except Fault (Number × Cursor) :=
  let digits := c.rest.takeWhile Char.isDigit
  if digits.isEmpty then
    .error (c.faultAfter (if c.rest.isEmpty then .eofValue else .invalidNumber))
  else
    let after := c.advance digits.length
    match exponentDigits 0 0 digits with
    | .inl size =>
      match ofParts negative word (if down then exponent - size else exponent + size) with
      | some x => .ok (.float x, after)
      | none => .error (after.fault .numberOutOfRange)
    | .inr count =>
      if word ≠ 0 ∧ ¬ down then .error ((c.advance count).fault .numberOutOfRange)
      else .ok (.float (if negative then -0.0 else 0.0), after)

theorem readExponent_eq (negative : Bool) (word : Nat) (exponent : Int) (c : Cursor) :
    readExponent negative word exponent c =
      readSize negative word exponent (exponentSign c).1 (exponentSign c).2 := rfl

def readUnsigned (negative : Bool) (c : Cursor) : Except Fault (Number × Cursor) :=
  match c.rest with
  | [] => .error (c.fault .eofValue)
  | '0' :: rest =>
    match rest with
    | d :: _ =>
      if d.isDigit then .error (c.next.faultAfter .invalidNumber) else readTail negative 0 0 c.next
    | [] => readTail negative 0 0 c.next
  | d :: _ =>
    if d.isDigit then
      let digits := c.rest.takeWhile Char.isDigit
      let (word, dropped) := digitsInto 0 digits
      readTail negative word dropped.length (c.advance digits.length)
    else .error (c.faultAfter .invalidNumber)

theorem read_eq (c : Cursor) : read c = readUnsigned (signOf c).1 (signOf c).2 := rfl

theorem given_readExponent {e : Exponent} (he : Digits e.digits) {rest : List Char}
    (hrest : NoDigit rest) (negative : Bool) (word : Nat) (scale : Int) (offset : Nat) :
    given (readExponent negative word scale
        ⟨Exponent.signText e.sign ++ (e.digits ++ rest), offset⟩) =
      e.scaled? negative word scale := by
  obtain ⟨start, hsign⟩ := exponentSign_append he e.sign rest offset
  rw [readExponent_eq, hsign, Exponent.scaled?]
  simp only [readSize, takeWhile_digits he.2 hrest, he.isEmpty, Bool.false_eq_true, if_false]
  cases exponentDigits 0 0 e.digits with
  | inl size => exact given_ofParts ..
  | inr count =>
    dsimp only
    split <;> rfl

def readRaised (negative : Bool) (word : Nat) (exponent : Int) (c : Cursor) :
    Except Fault (Number × Cursor) :=
  match c.rest with
  | 'e' :: _ | 'E' :: _ => readExponent negative word exponent c.next
  | _ => readTail.finish negative word exponent c

variable {n : Numeral} {rest : List Char}

theorem given_readRaised (hn : n.Sound) (hrest : n.EndsBefore rest) (word : Nat) (scale : Int)
    (offset : Nat) :
    given (readRaised n.negative word scale ⟨Numeral.raised n.exponent ++ rest, offset⟩) =
      n.scaled? word scale := by
  rw [Numeral.scaled?]
  cases hexponent : n.exponent with
  | none =>
    rw [readRaised]
    split
    · rename_i tail htext
      exact absurd (congrArg List.head? htext) (hrest.exponent hexponent).1
    · rename_i tail htext
      exact absurd (congrArg List.head? htext) (hrest.exponent hexponent).2
    · exact given_ofParts ..
  | some e =>
    have he := hn.exponent e hexponent
    have hgiven := given_readExponent he hrest.digit n.negative word scale (offset + 1)
    rw [← List.append_assoc] at hgiven
    rw [readRaised, Numeral.raised, Exponent.text]
    cases e.capital <;> exact hgiven

theorem given_readTail_plain (hpoint : rest.head? ≠ some '.')
    (hmark : rest.head? ≠ some 'e' ∧ rest.head? ≠ some 'E') (negative : Bool)
    (word dropped offset : Nat) :
    given (readTail negative word dropped ⟨rest, offset⟩) =
      if dropped = 0 then some (Numeral.ofWord negative word)
      else (ofParts negative word dropped).map .float := by
  rw [readTail]
  split
  · rename_i tail htext
    exact absurd (congrArg List.head? htext) hpoint
  · rename_i tail htext
    exact absurd (congrArg List.head? htext) hmark.1
  · rename_i tail htext
    exact absurd (congrArg List.head? htext) hmark.2
  · by_cases hdropped : dropped = 0
    · rw [if_pos hdropped, if_neg (by omega), Numeral.ofWord]
      cases negative with
      | false => rfl
      | true =>
        simp only [if_true]
        split <;> rfl
    · rw [if_neg hdropped, if_pos (by omega)]
      exact given_ofParts ..

theorem given_readTail (hn : n.Sound) (hrest : n.EndsBefore rest) (word dropped offset : Nat) :
    given (readTail n.negative word dropped
        ⟨Numeral.pointed n.fraction ++ (Numeral.raised n.exponent ++ rest), offset⟩) =
      n.behind? word dropped := by
  have hraised := given_readRaised hn hrest
  rw [Numeral.behind?]
  cases hfraction : n.fraction with
  | some digits =>
    have hdigits := hn.fraction digits hfraction
    have htake := takeWhile_digits hdigits.2 (Numeral.noDigit_raised n.exponent hrest.digit)
    obtain ⟨mark, hmark⟩ := advance_append digits (Numeral.raised n.exponent ++ rest) (offset + 1)
    have hpoint : '.'.utf8Size = 1 := rfl
    rw [Numeral.pointed, List.cons_append, readTail]
    simp only [Cursor.next, hpoint, htake, hdigits.isEmpty, Bool.false_eq_true, if_false, hmark]
    exact hraised _ _ mark
  | none =>
    have hnumber := hraised word dropped offset
    dsimp only [Numeral.pointed, List.nil_append]
    cases hexponent : n.exponent with
    | some e =>
      rw [hexponent, Numeral.raised, Exponent.text] at hnumber
      rw [if_neg (fun h => Option.some_ne_none e h.1), ← hnumber, Numeral.raised, Exponent.text]
      cases e.capital <;> rfl
    | none =>
      have hplain := given_readTail_plain (hrest.fraction hexponent hfraction)
        (hrest.exponent hexponent) n.negative word dropped offset
      rw [Numeral.scaled?, hexponent]
      simpa [Numeral.raised] using hplain

theorem given_readUnsigned {whole : List Char} (h : Digits whole)
    (hzero : whole.head? = some '0' → whole = ['0']) (hrest : NoDigit rest) (negative : Bool)
    (offset : Nat) :
    ∃ point, readUnsigned negative ⟨whole ++ rest, offset⟩ =
      readTail negative (digitsInto 0 whole).1 (digitsInto 0 whole).2.length ⟨rest, point⟩ := by
  by_cases hfirst : whole.head? = some '0'
  · obtain rfl := hzero hfirst
    refine ⟨offset + 1, ?_⟩
    cases rest with
    | nil => rfl
    | cons c rest =>
      have hc : c.isDigit = false := hrest c rfl
      simp [readUnsigned, hc, Cursor.next, digitsInto]
      rfl
  · obtain ⟨stop, hstop⟩ := advance_append whole rest offset
    have htake := takeWhile_digits h.2 hrest
    obtain ⟨d, digits, rfl⟩ := List.exists_cons_of_ne_nil h.1
    have hd : d ≠ '0' := by simpa using hfirst
    have hdigit : d.isDigit := h.2 d List.mem_cons_self
    refine ⟨stop, ?_⟩
    rw [List.cons_append] at htake hstop
    simp only [List.cons_append, readUnsigned, hdigit, if_true, htake, hstop]
end Number

namespace Numeral

variable {n : Numeral} {rest : List Char}

theorem given_read (hn : n.Sound) (hrest : n.EndsBefore rest) (offset : Nat) :
    Number.given (Number.read ⟨n.text ++ rest, offset⟩) = n.value? := by
  have hpointed := noDigit_pointed n.fraction (noDigit_raised n.exponent hrest.digit)
  obtain ⟨start, hsign⟩ := Number.signOf_append hn.whole n.negative
    (pointed n.fraction ++ (raised n.exponent ++ rest)) offset
  obtain ⟨point, hwhole⟩ :=
    Number.given_readUnsigned hn.whole hn.noLeadingZero hpointed n.negative start
  simp only [Number.read_eq, text, List.append_assoc, hsign, hwhole]
  exact Number.given_readTail hn hrest _ _ point

end Numeral

/-! ### Natural numbers -/

namespace Number

open Decimal

theorem digitsInto_append {word result : Nat} {digits : List Char}
    (h : digitsInto word digits = (result, [])) (more : List Char) :
    digitsInto word (digits ++ more) = digitsInto result more := by
  induction digits generalizing word with
  | nil =>
    obtain rfl : word = result := congrArg Prod.fst h
    rfl
  | cons d digits ih =>
    rw [digitsInto] at h
    split at h
    · rename_i hfits
      rw [List.cons_append, digitsInto, if_pos hfits]
      exact ih h
    · cases congrArg Prod.snd h

theorem digitsInto_toDigits (n : Nat) (hn : n < 2 ^ 64) :
    digitsInto 0 (Nat.toDigits 10 n) = (n, []) := by
  induction n using Nat.strongRecOn with
  | ind n ih =>
    have hlast : digitsInto (n / 10) [(n % 10).digitChar] = (n, []) := by
      have hvalue : n / 10 * 10 + ((n % 10).digitChar.toNat - 48) = n := by
        rw [toNat_digitChar (n % 10) (Nat.mod_lt n (by decide))]
        omega
      rw [digitsInto, hvalue]
      exact if_pos hn
    by_cases hsmall : n < 10
    · rw [Nat.toDigits_of_lt_base hsmall]
      rwa [Nat.div_eq_of_lt hsmall, Nat.mod_eq_of_lt hsmall] at hlast
    · rw [Nat.toDigits_of_base_le (by decide) (Nat.not_lt.mp hsmall),
        digitsInto_append (ih (n / 10) (by omega) (by omega))]
      exact hlast

theorem toDigits_append_of_digitsInto {word n : Nat} {digits : List Char} (hword : 0 < word)
    (hdigits : ∀ c ∈ digits, c.isDigit) (h : digitsInto word digits = (n, [])) :
    Nat.toDigits 10 word ++ digits = Nat.toDigits 10 n := by
  induction digits generalizing word with
  | nil =>
    obtain rfl : word = n := congrArg Prod.fst h
    exact List.append_nil _
  | cons d digits ih =>
    obtain ⟨hd, hothers⟩ := List.forall_mem_cons.mp hdigits
    have hsmall : d.toNat - 48 < 10 := by
      have hhigh : d.toNat ≤ 57 := (Char.isDigit_iff_toNat.mp hd).2
      omega
    have hnext : Nat.toDigits 10 word ++ [d] = Nat.toDigits 10 (word * 10 + (d.toNat - 48)) := by
      have happend := Nat.toDigits_append_toDigits (by decide : 1 < 10) hword hsmall
      rwa [Nat.toDigits_of_lt_base hsmall, digitChar_toNat hd, Nat.mul_comm] at happend
    rw [digitsInto] at h
    split at h
    · rw [List.append_cons, hnext]
      exact ih (by omega) hothers h
    · cases congrArg Prod.snd h

theorem lt_of_digitsInto {word n : Nat} {digits : List Char} (hword : word < 2 ^ 64)
    (h : digitsInto word digits = (n, [])) : n < 2 ^ 64 := by
  induction digits generalizing word with
  | nil =>
    obtain rfl : word = n := congrArg Prod.fst h
    exact hword
  | cons d digits ih =>
    rw [digitsInto] at h
    split at h
    · rename_i hfits
      exact ih hfits h
    · cases congrArg Prod.snd h

theorem digitsInto_eq_iff {n : Nat} {digits : List Char} (hdigits : Digits digits)
    (hzero : digits.head? = some '0' → digits = ['0']) :
    digitsInto 0 digits = (n, []) ↔ n < 2 ^ 64 ∧ digits = Nat.toDigits 10 n := by
  constructor
  · intro h
    refine ⟨lt_of_digitsInto (by decide) h, ?_⟩
    by_cases hfirst : digits.head? = some '0'
    · obtain rfl := hzero hfirst
      obtain rfl : 0 = n := congrArg Prod.fst h
      rfl
    · obtain ⟨d, more, rfl⟩ := List.exists_cons_of_ne_nil hdigits.1
      obtain ⟨hd, hmore⟩ := List.forall_mem_cons.mp hdigits.2
      have hpos : 0 < d.toNat - 48 := by
        refine Nat.pos_of_ne_zero fun hd0 => hfirst ?_
        rw [List.head?_cons, ← digitChar_toNat hd, hd0]
        rfl
      have hsmall : d.toNat - 48 < 10 := by
        have hhigh : d.toNat ≤ 57 := (Char.isDigit_iff_toNat.mp hd).2
        omega
      have hrest : digitsInto (d.toNat - 48) more = (n, []) := by
        rw [digitsInto, Nat.zero_mul, Nat.zero_add, if_pos (by omega)] at h
        exact h
      have happend := toDigits_append_of_digitsInto hpos hmore hrest
      rwa [Nat.toDigits_of_lt_base hsmall, digitChar_toNat hd] at happend
  · rintro ⟨hn, rfl⟩
    exact digitsInto_toDigits n hn

end Number

namespace Numeral

variable {n : Numeral}

theorem scaled?_ne_integer (word : Nat) (scale k : Int) :
    n.scaled? word scale ≠ some (.integer k) := by
  intro h
  rw [scaled?] at h
  split at h
  · obtain ⟨x, -, hx⟩ := Option.map_eq_some_iff.mp h
    cases hx
  · rw [Exponent.scaled?] at h
    split at h
    · obtain ⟨x, -, hx⟩ := Option.map_eq_some_iff.mp h
      cases hx
    · split at h <;> cases h

theorem ofWord_eq_natural_iff {negative : Bool} {word k : Nat} :
    ofWord negative word = .integer k ↔ negative = false ∧ word = k := by
  cases negative with
  | false =>
    simp only [ofWord, Bool.false_eq_true, if_false, Number.integer.injEq, true_and]
    exact Int.natCast_inj
  | true =>
    simp only [ofWord, if_true, Bool.true_eq_false, false_and, iff_false]
    split
    · rw [Number.integer.injEq]
      omega
    · exact nofun

theorem behind?_eq_natural_iff {word dropped k : Nat} :
    n.behind? word dropped = some (.integer k) ↔
      n = { whole := n.whole } ∧ dropped = 0 ∧ word = k := by
  obtain ⟨negative, whole, fraction, exponent⟩ := n
  cases fraction with
  | some digits => simp [behind?, scaled?_ne_integer]
  | none =>
    simp only [behind?]
    split
    · rename_i hplain
      simp [ofWord_eq_natural_iff, hplain.1, hplain.2]
    · rename_i hplain
      simp only [scaled?_ne_integer, false_iff, Numeral.mk.injEq]
      exact fun h => hplain ⟨h.1.2.2.2, h.2.1⟩

/-- **Only its decimals are a natural number**: no sign, no point, no exponent, no leading zero, and
64 bits. -/
theorem value?_eq_natural_iff (hn : n.Sound) (k : Nat) :
    n.value? = some (.integer k) ↔ k < 2 ^ 64 ∧ n = { whole := Nat.toDigits 10 k } := by
  have hdigits := Number.digitsInto_eq_iff (n := k) hn.whole hn.noLeadingZero
  rw [value?]
  generalize Number.digitsInto 0 n.whole = parts at hdigits ⊢
  obtain ⟨word, dropped⟩ := parts
  dsimp only
  rw [behind?_eq_natural_iff, List.length_eq_zero_iff]
  constructor
  · rintro ⟨hplain, rfl, rfl⟩
    obtain ⟨hword, hwhole⟩ := hdigits.mp rfl
    exact ⟨hword, by rwa [hwhole] at hplain⟩
  · rintro ⟨hk, hplain⟩
    have hwhole := congrArg whole hplain
    obtain ⟨rfl, rfl⟩ := Prod.mk.inj (hdigits.mpr ⟨hk, hwhole⟩)
    exact ⟨by rwa [hwhole], rfl, rfl⟩

end Numeral

end MangaReader.Json

import MangaReader.Json.Number
import MangaReader.Proofs.Decimal.Digits
import MangaReader.Proofs.Except
import Mathlib.Data.List.TakeWhile

/-!
# Numbers by their grammar

A number is written as a sign, the digits before the point, those behind it and an exponent, of
which all but the second may be missing. Readers and passers-by take the longest such text, so that
what follows it must not go on with it (`Numeral.EndsBefore`).

* `Numeral`, `Numeral.Sound`, `Numeral.text` : numbers as they are written.
* `Numeral.skip_text`, `Numeral.exists_of_skip` : **passers-by accept the grammar**.
-/

namespace MangaReader.Json

/-! ### The grammar -/

/-- At least one digit and nothing else. -/
def Digits (text : List Char) : Prop := text ≠ [] ∧ ∀ c ∈ text, c.isDigit

def NoDigit (rest : List Char) : Prop := ∀ c ∈ rest.head?, c.isDigit = false

structure Exponent where
  /-- Whether its mark is the capital letter. -/
  capital : Bool := false
  /-- Whether it has a sign, and if so, whether that is a minus. -/
  sign : Option Bool := none
  digits : List Char
  deriving DecidableEq, Repr

namespace Exponent

def signText : Option Bool → List Char
  | none => []
  | some false => ['+']
  | some true => ['-']

def text (e : Exponent) : List Char :=
  (if e.capital then 'E' else 'e') :: (signText e.sign ++ e.digits)

end Exponent

structure Numeral where
  negative : Bool := false
  whole : List Char
  fraction : Option (List Char) := none
  exponent : Option Exponent := none
  deriving DecidableEq, Repr

namespace Numeral

def pointed : Option (List Char) → List Char
  | none => []
  | some digits => '.' :: digits

def raised : Option Exponent → List Char
  | none => []
  | some e => e.text

def text (n : Numeral) : List Char :=
  Decimal.sign n.negative ++ (n.whole ++ (pointed n.fraction ++ raised n.exponent))

/-- A number by its grammar: there are digits wherever they are due, and no zero leads others. -/
structure Sound (n : Numeral) : Prop where
  whole : Digits n.whole
  noLeadingZero : n.whole.head? = some '0' → n.whole = ['0']
  fraction : ∀ digits, n.fraction = some digits → Digits digits
  exponent : ∀ e, n.exponent = some e → Digits e.digits

/-- A text that does not go on with a number. -/
structure EndsBefore (n : Numeral) (rest : List Char) : Prop where
  digit : NoDigit rest
  exponent : n.exponent = none → rest.head? ≠ some 'e' ∧ rest.head? ≠ some 'E'
  fraction : n.exponent = none → n.fraction = none → rest.head? ≠ some '.'

end Numeral

/-! ### Digits -/

theorem takeWhile_digits {digits rest : List Char} (hdigits : ∀ c ∈ digits, c.isDigit)
    (hrest : NoDigit rest) : (digits ++ rest).takeWhile Char.isDigit = digits := by
  rw [List.takeWhile_append_of_pos hdigits]
  cases rest with
  | nil => simp
  | cons c rest => simp [hrest c rfl]

theorem noDigit_dropWhile (text : List Char) : NoDigit (text.dropWhile Char.isDigit) := by
  have hnot := List.head?_dropWhile_not Char.isDigit text
  intro c hc
  rwa [Option.mem_def.mp hc] at hnot

namespace Digits

variable {digits : List Char}

theorem isEmpty (h : Digits digits) : digits.isEmpty = false := by simpa using h.1

theorem head?_ne (h : Digits digits) {c : Char} (hc : c.isDigit = false) (rest : List Char) :
    (digits ++ rest).head? ≠ some c := by
  obtain ⟨d, more, rfl⟩ := List.exists_cons_of_ne_nil h.1
  have hd : d.isDigit := h.2 d List.mem_cons_self
  rintro ⟨⟩
  rw [hd] at hc
  cases hc

end Digits

namespace Number

theorem advance_append (front rest : List Char) (offset : Nat) :
    ∃ stop, (Cursor.mk (front ++ rest) offset).advance front.length = ⟨rest, stop⟩ :=
  ⟨_, by rw [Cursor.advance, List.drop_left]⟩

/-! ### Signs -/

def signOf (c : Cursor) : Bool × Cursor :=
  match c.rest with
  | '-' :: _ => (true, c.next)
  | _ => (false, c)

theorem signOf_append {whole : List Char} (h : Digits whole) (negative : Bool) (rest : List Char)
    (offset : Nat) :
    ∃ start, signOf ⟨Decimal.sign negative ++ (whole ++ rest), offset⟩ =
      (negative, ⟨whole ++ rest, start⟩) := by
  cases negative with
  | true => exact ⟨_, rfl⟩
  | false =>
    refine ⟨offset, ?_⟩
    rw [signOf]
    split
    · rename_i tail hrest
      exact absurd (congrArg List.head? hrest) (h.head?_ne rfl rest)
    · rfl

theorem sign_of_signOf (c : Cursor) :
    c.rest = Decimal.sign (signOf c).1 ++ (signOf c).2.rest := by
  rw [signOf]
  split
  · rename_i hrest
    simp [Cursor.next, hrest, Decimal.sign]
  · rfl

def exponentSign (c : Cursor) : Bool × Cursor :=
  match c.rest with
  | '+' :: _ => (false, c.next)
  | '-' :: _ => (true, c.next)
  | _ => (false, c)

theorem exponentSign_append {digits : List Char} (h : Digits digits) (sign : Option Bool)
    (rest : List Char) (offset : Nat) :
    ∃ start, exponentSign ⟨Exponent.signText sign ++ (digits ++ rest), offset⟩ =
      (sign == some true, ⟨digits ++ rest, start⟩) := by
  match sign with
  | some false | some true => exact ⟨_, rfl⟩
  | none =>
    refine ⟨offset, ?_⟩
    rw [exponentSign]
    split
    · rename_i tail hrest
      exact absurd (congrArg List.head? hrest) (h.head?_ne rfl rest)
    · rename_i tail hrest
      exact absurd (congrArg List.head? hrest) (h.head?_ne rfl rest)
    · rfl

theorem sign_of_exponentSign (c : Cursor) :
    ∃ sign, c.rest = Exponent.signText sign ++ (exponentSign c).2.rest := by
  rw [exponentSign]
  split
  · rename_i hrest
    exact ⟨some false, by simp [Cursor.next, hrest, Exponent.signText]⟩
  · rename_i hrest
    exact ⟨some true, by simp [Cursor.next, hrest, Exponent.signText]⟩
  · exact ⟨none, rfl⟩

/-! ### Passing over -/

def skipWhole (c : Cursor) : Except Fault Cursor :=
  match c.rest with
  | '0' :: d :: _ => if d.isDigit then .error (c.next.faultAfter .invalidNumber) else .ok c.next
  | _ => skipDigits c

def skipFraction (c : Cursor) : Except Fault Cursor :=
  match c.rest with
  | '.' :: _ => skipDigits c.next
  | _ => .ok c

theorem skip_eq (c : Cursor) :
    skip c = (skipWhole (signOf c).2).bind fun c => (skipFraction c).bind skipExponent := by
  have hfraction : ∀ c : Cursor, (skipFraction c).bind skipExponent =
      match c.rest with
      | '.' :: _ => (skipDigits c.next).bind skipExponent
      | _ => skipExponent c := by
    intro c
    rw [skipFraction]
    split <;> rfl
  have hwhole : ∀ (c : Cursor) (tail : Cursor → Except Fault Cursor), (skipWhole c).bind tail =
      match c.rest with
      | '0' :: d :: _ =>
        if d.isDigit then .error (c.next.faultAfter .invalidNumber) else tail c.next
      | _ => (skipDigits c).bind tail := by
    intro c tail
    rw [skipWhole]
    split
    · split <;> rfl
    · rfl
  have hsign : (signOf c).2 = match c.rest with
      | '-' :: _ => c.next
      | _ => c := by
    rw [signOf]
    split <;> rfl
  simp only [hfraction, hwhole, hsign]
  rfl

theorem skipExponent_eq (c : Cursor) :
    skipExponent c = match c.rest with
      | 'e' :: _ | 'E' :: _ => skipDigits (exponentSign c.next).2
      | _ => .ok c := by
  have hsign : ∀ c : Cursor, skipDigits (exponentSign c).2 = match c.rest with
      | '+' :: _ | '-' :: _ => skipDigits c.next
      | _ => skipDigits c := by
    intro c
    rw [exponentSign]
    split <;> rfl
  simp only [hsign]
  rfl

theorem skipDigits_append {digits rest : List Char} (h : Digits digits) (hrest : NoDigit rest)
    (offset : Nat) : ∃ stop, skipDigits ⟨digits ++ rest, offset⟩ = .ok ⟨rest, stop⟩ := by
  obtain ⟨stop, hstop⟩ := advance_append digits rest offset
  exact ⟨stop, by simp [skipDigits, takeWhile_digits h.2 hrest, h.isEmpty, hstop]⟩

theorem digits_of_skipDigits {c after : Cursor} (h : skipDigits c = .ok after) :
    ∃ digits, Digits digits ∧ c.rest = digits ++ after.rest ∧ NoDigit after.rest := by
  have hcut : c.rest.takeWhile Char.isDigit ++ c.rest.dropWhile Char.isDigit = c.rest :=
    List.takeWhile_append_dropWhile
  obtain ⟨stop, hstop⟩ := advance_append (c.rest.takeWhile Char.isDigit)
    (c.rest.dropWhile Char.isDigit) c.offset
  rw [hcut] at hstop
  rw [skipDigits] at h
  split at h
  · cases h
  · rename_i hne
    obtain rfl : (⟨c.rest.dropWhile Char.isDigit, stop⟩ : Cursor) = after :=
      hstop.symm.trans (Except.ok.inj h)
    exact ⟨_, ⟨by simpa using hne, fun d hd => List.mem_takeWhile_imp hd⟩, hcut.symm,
      noDigit_dropWhile c.rest⟩

theorem skipWhole_append {whole rest : List Char} (h : Digits whole)
    (hzero : whole.head? = some '0' → whole = ['0']) (hrest : NoDigit rest) (offset : Nat) :
    ∃ stop, skipWhole ⟨whole ++ rest, offset⟩ = .ok ⟨rest, stop⟩ := by
  by_cases hfirst : whole.head? = some '0'
  · obtain rfl := hzero hfirst
    cases rest with
    | nil => exact ⟨_, rfl⟩
    | cons c rest =>
      have hc : c.isDigit = false := hrest c rfl
      exact ⟨_, by simp [skipWhole, hc, Cursor.next]; rfl⟩
  · obtain ⟨d, digits, rfl⟩ := List.exists_cons_of_ne_nil h.1
    have hd : d ≠ '0' := by simpa using hfirst
    obtain ⟨stop, hstop⟩ := skipDigits_append h hrest offset
    exact ⟨stop, by simpa [skipWhole, hd] using hstop⟩

theorem whole_of_skipWhole {c after : Cursor} (h : skipWhole c = .ok after) :
    ∃ whole, Digits whole ∧ (whole.head? = some '0' → whole = ['0']) ∧
      c.rest = whole ++ after.rest ∧ NoDigit after.rest := by
  rw [skipWhole] at h
  split at h
  · rename_i d tail hrest
    split at h
    · cases h
    · rename_i hd
      cases h
      refine ⟨['0'], ⟨by simp, by simp⟩, fun _ => rfl, ?_, ?_⟩
      · simp [Cursor.next, hrest]
      · simpa [Cursor.next, hrest, NoDigit] using hd
  · rename_i hnot
    obtain ⟨digits, hdigits, hrest, hafter⟩ := digits_of_skipDigits h
    refine ⟨digits, hdigits, fun hzero => ?_, hrest, hafter⟩
    obtain ⟨more, rfl⟩ := List.head?_eq_some_iff.mp hzero
    cases more with
    | nil => rfl
    | cons d more => exact (hnot d _ hrest).elim

theorem skipFraction_append {fraction : Option (List Char)} {rest : List Char}
    (h : ∀ digits, fraction = some digits → Digits digits) (hrest : NoDigit rest)
    (hpoint : fraction = none → rest.head? ≠ some '.') (offset : Nat) :
    ∃ stop, skipFraction ⟨Numeral.pointed fraction ++ rest, offset⟩ = .ok ⟨rest, stop⟩ := by
  cases fraction with
  | none =>
    refine ⟨offset, ?_⟩
    rw [skipFraction]
    split
    · rename_i tail hrest
      exact absurd (congrArg List.head? hrest) (hpoint rfl)
    · rfl
  | some digits => exact skipDigits_append (h digits rfl) hrest _

theorem fraction_of_skipFraction {c after : Cursor} (h : skipFraction c = .ok after)
    (hc : NoDigit c.rest) :
    ∃ fraction, (∀ digits, fraction = some digits → Digits digits) ∧
      c.rest = Numeral.pointed fraction ++ after.rest ∧ NoDigit after.rest ∧
      (fraction = none → after.rest.head? ≠ some '.') := by
  rw [skipFraction] at h
  split at h
  · rename_i tail hrest
    obtain ⟨digits, hdigits, hdrop, hafter⟩ := digits_of_skipDigits h
    refine ⟨some digits, fun _ hd => Option.some.inj hd ▸ hdigits, ?_, hafter, nofun⟩
    rw [Cursor.next, hrest] at hdrop
    rw [hrest, Numeral.pointed, List.cons_append, ← hdrop]
  · rename_i hnot
    cases h
    refine ⟨none, nofun, rfl, hc, fun _ hpoint => ?_⟩
    obtain ⟨tail, htail⟩ := List.head?_eq_some_iff.mp hpoint
    exact hnot tail htail

theorem skipExponent_append {exponent : Option Exponent} {rest : List Char}
    (h : ∀ e, exponent = some e → Digits e.digits) (hrest : NoDigit rest)
    (hmark : exponent = none → rest.head? ≠ some 'e' ∧ rest.head? ≠ some 'E') (offset : Nat) :
    ∃ stop, skipExponent ⟨Numeral.raised exponent ++ rest, offset⟩ = .ok ⟨rest, stop⟩ := by
  cases exponent with
  | none =>
    refine ⟨offset, ?_⟩
    rw [skipExponent_eq]
    split
    · rename_i tail hrest
      exact absurd (congrArg List.head? hrest) (hmark rfl).1
    · rename_i tail hrest
      exact absurd (congrArg List.head? hrest) (hmark rfl).2
    · rfl
  | some e =>
    obtain ⟨capital, sign, digits⟩ := e
    have hdigits : Digits digits := h _ rfl
    obtain ⟨start, hsign⟩ := exponentSign_append hdigits sign rest (offset + 1)
    obtain ⟨stop, hstop⟩ := skipDigits_append hdigits hrest start
    rw [← List.append_assoc] at hsign
    have hskip := (congrArg (fun s : Bool × Cursor => skipDigits s.2) hsign).trans hstop
    refine ⟨stop, ?_⟩
    rw [skipExponent_eq]
    cases capital <;> exact hskip

theorem exponent_of_skipExponent {c after : Cursor} (h : skipExponent c = .ok after)
    (hc : NoDigit c.rest) :
    ∃ exponent, (∀ e, exponent = some e → Digits e.digits) ∧
      c.rest = Numeral.raised exponent ++ after.rest ∧ NoDigit after.rest ∧
      (exponent = none →
        after = c ∧ after.rest.head? ≠ some 'e' ∧ after.rest.head? ≠ some 'E') := by
  have hmarked : ∀ (capital : Bool) (tail : List Char),
      c.rest = (if capital then 'E' else 'e') :: tail →
      skipDigits (exponentSign c.next).2 = .ok after →
      ∃ e : Exponent, Digits e.digits ∧ c.rest = e.text ++ after.rest ∧ NoDigit after.rest := by
    intro capital tail hrest h
    obtain ⟨digits, hdigits, hdrop, hafter⟩ := digits_of_skipDigits h
    obtain ⟨sign, hsign⟩ := sign_of_exponentSign c.next
    refine ⟨⟨capital, sign, digits⟩, hdigits, ?_, hafter⟩
    rw [hdrop, Cursor.next, hrest] at hsign
    rw [hrest, Exponent.text, List.cons_append, List.append_assoc, ← hsign]
  rw [skipExponent_eq] at h
  split at h
  · rename_i tail hrest
    obtain ⟨e, hdigits, htext, hafter⟩ := hmarked false tail hrest h
    exact ⟨some e, fun _ he => Option.some.inj he ▸ hdigits, htext, hafter, nofun⟩
  · rename_i tail hrest
    obtain ⟨e, hdigits, htext, hafter⟩ := hmarked true tail hrest h
    exact ⟨some e, fun _ he => Option.some.inj he ▸ hdigits, htext, hafter, nofun⟩
  · rename_i hsmall hcapital
    cases h
    refine ⟨none, nofun, rfl, hc, fun _ => ⟨rfl, fun hmark => ?_, fun hmark => ?_⟩⟩
    · obtain ⟨tail, htail⟩ := List.head?_eq_some_iff.mp hmark
      exact hsmall tail htail
    · obtain ⟨tail, htail⟩ := List.head?_eq_some_iff.mp hmark
      exact hcapital tail htail

end Number

namespace Numeral

variable {n : Numeral} {rest : List Char}

theorem noDigit_raised (exponent : Option Exponent) (hrest : NoDigit rest) :
    NoDigit (raised exponent ++ rest) := by
  cases exponent with
  | none => exact hrest
  | some e =>
    rintro c ⟨⟩
    cases e.capital <;> rfl

theorem noDigit_pointed (fraction : Option (List Char)) (hrest : NoDigit rest) :
    NoDigit (pointed fraction ++ rest) := by
  cases fraction with
  | none => exact hrest
  | some digits =>
    rintro c ⟨⟩
    rfl

theorem EndsBefore.noPoint (h : n.EndsBefore rest) (hfraction : n.fraction = none) :
    (raised n.exponent ++ rest).head? ≠ some '.' := by
  cases hexponent : n.exponent with
  | none => exact h.fraction hexponent hfraction
  | some e =>
    intro hpoint
    rw [raised, Exponent.text, List.cons_append, List.head?_cons, Option.some.injEq] at hpoint
    split at hpoint <;> cases hpoint

/-- **A number is passed over as a whole**, whatever follows that does not go on with it. -/
theorem skip_text (hn : n.Sound) (hrest : n.EndsBefore rest) (offset : Nat) :
    ∃ stop, Number.skip ⟨n.text ++ rest, offset⟩ = .ok ⟨rest, stop⟩ := by
  have hraised := noDigit_raised n.exponent hrest.digit
  have hpointed := noDigit_pointed n.fraction hraised
  obtain ⟨start, hsign⟩ := Number.signOf_append hn.whole n.negative
    (pointed n.fraction ++ (raised n.exponent ++ rest)) offset
  obtain ⟨point, hwhole⟩ := Number.skipWhole_append hn.whole hn.noLeadingZero hpointed start
  obtain ⟨mark, hfraction⟩ := Number.skipFraction_append hn.fraction hraised hrest.noPoint point
  obtain ⟨stop, hexponent⟩ := Number.skipExponent_append hn.exponent hrest.digit hrest.exponent mark
  refine ⟨stop, ?_⟩
  simp only [Number.skip_eq, text, List.append_assoc, hsign, hwhole, hfraction, hexponent,
    Except.bind]

/-- **What is passed over is a number**, and what follows does not go on with it. -/
theorem exists_of_skip {c after : Cursor} (h : Number.skip c = .ok after) :
    ∃ n : Numeral, n.Sound ∧ n.EndsBefore after.rest ∧ c.rest = n.text ++ after.rest := by
  rw [Number.skip_eq] at h
  obtain ⟨point, hpoint, h⟩ := bind_eq_ok_iff.mp h
  obtain ⟨mark, hmark, h⟩ := bind_eq_ok_iff.mp h
  obtain ⟨whole, hwhole, hzero, hwholeText, hdigit⟩ := Number.whole_of_skipWhole hpoint
  obtain ⟨fraction, hfraction, hfractionText, hdigit, hnoPoint⟩ :=
    Number.fraction_of_skipFraction hmark hdigit
  obtain ⟨exponent, hexponent, hexponentText, hdigit, hnoMark⟩ :=
    Number.exponent_of_skipExponent h hdigit
  refine ⟨⟨(Number.signOf c).1, whole, fraction, exponent⟩, ⟨hwhole, hzero, hfraction, hexponent⟩,
    ⟨hdigit, fun hnone => (hnoMark hnone).2, fun hnone hplain => ?_⟩, ?_⟩
  · rw [(hnoMark hnone).1]
    exact hnoPoint hplain
  · rw [Number.sign_of_signOf c, hwholeText, hfractionText, hexponentText, text]
    simp only [List.append_assoc]

end Numeral

end MangaReader.Json

import MangaReader.Proofs.Json.Restored
import MangaReader.Proofs.Time.Civil
import MangaReader.Proofs.Time.Scan
import MangaReader.Time.Form

/-!
# Instants are read as they are written

Two readers are tried on a text: one that wants an offset and one that takes none. They read the
date, the time and the fraction alike, so that a stamp is one instant to both. From the day of its
date the offset leads at most one day away.

* `Stamp`, `Stamp.Zone` : a date and a time of day, and what may follow them.
* `Stamp.ofStrict_text`, `Stamp.ofNaive_text` : the two readers on a stamp.
* `Stamp.Denotes` : the instant of a stamp, in terms of the calendar.
* `Instant.Sound.restores` : an instant is read as it is written.
* `timestamps_are_read` : **stamps are read as the instants that they denote**.
-/

namespace MangaReader.Time

open Json Scan

/-- A date and a time of day as they are written, with the digits of a fraction of the second. -/
structure Stamp where
  date : Civil
  hour : Nat
  minute : Nat
  second : Nat
  digits : List Char

namespace Stamp

/-- The text of a stamp: `YYYY-MM-DDThh:mm:ss`, and the digits behind a point if there are any. -/
def text (s : Stamp) : List Char :=
  (Instant.padded 4 s.date.year.toNat).toList ++ '-' ::
    ((Instant.padded 2 s.date.month).toList ++ '-' ::
      ((Instant.padded 2 s.date.day).toList ++ 'T' ::
        ((Instant.padded 2 s.hour).toList ++ ':' ::
          ((Instant.padded 2 s.minute).toList ++ ':' ::
            ((Instant.padded 2 s.second).toList ++
              if s.digits.isEmpty then [] else '.' :: s.digits)))))

/-- The stamps of a calendar with four digits for the year. The second 60 is that of a leap. -/
structure Written (s : Stamp) : Prop where
  valid : s.date.isValid = true
  year_nonneg : 0 ≤ s.date.year
  year_le : s.date.year ≤ 9999
  hour_lt : s.hour < 24
  minute_lt : s.minute < 60
  second_le : s.second ≤ 60
  isDigit : ∀ c ∈ s.digits, c.isDigit = true
  length_le : s.digits.length ≤ 9

def nano (s : Stamp) : Nat := value 0 s.digits * 10 ^ (9 - s.digits.length)

/-- The second of the day. A leap second goes on with the one before it. -/
def secondOfDay (s : Stamp) : Nat := (s.hour * 60 + s.minute) * 60 + min s.second 59

/-- The instant of a stamp that is some seconds ahead of universal time. -/
def instant (s : Stamp) (offset : Int) : Instant where
  day := s.date.toDay + (s.secondOfDay - offset) / 86400
  second := ((s.secondOfDay - offset) % 86400).toNat
  nano := if s.second = 60 then 1000000000 + s.nano else s.nano

def fields (s : Stamp) : Fields :=
  ⟨s.date.year, s.date.month, s.date.day, s.hour, s.minute, s.second, s.nano⟩

/-- What may follow a stamp: nothing or the mark of universal time, or how far it is ahead of it. -/
inductive Zone : List Char → Int → Prop
  | absent : Zone [] 0
  | universal : Zone ['Z'] 0
  | ahead {hours minutes : Nat} (hhours : hours ≤ 23) (hminutes : minutes ≤ 59) :
    Zone ('+' :: ((Instant.padded 2 hours).toList ++ ':' :: (Instant.padded 2 minutes).toList))
      (hours * 3600 + minutes * 60)
  | behind {hours minutes : Nat} (hhours : hours ≤ 23) (hminutes : minutes ≤ 59) :
    Zone ('-' :: ((Instant.padded 2 hours).toList ++ ':' :: (Instant.padded 2 minutes).toList))
      (-(hours * 3600 + minutes * 60))

variable {s : Stamp} {zone : List Char} {offset : Int}

theorem Zone.natAbs_le (h : Zone zone offset) : offset.natAbs ≤ 86340 := by
  cases h <;> omega

theorem Zone.noDigit (h : Zone zone offset) : NoDigit zone := by
  cases h with
  | absent => exact nofun
  | universal | ahead | behind => simp [NoDigit]

theorem Zone.head?_ne (h : Zone zone offset) : zone.head? ≠ some '.' := by
  cases h <;> simp

/-! ### Reading a stamp -/

theorem ok_bind {ε α β : Type} (a : α) (f : α → Except ε β) :
    ((.ok a : Except ε α) >>= f) = f a := rfl

theorem number_padded {width n : Nat} (hwidth : 0 < width) (hn : n < 10 ^ width) {least : Nat}
    (hleast : least ≤ width) (rest : List Char) :
    number least width ((Instant.padded width n).toList ++ rest) = .ok (n, rest) := by
  obtain ⟨hlength, hdigits, hvalue⟩ := padded_written hwidth hn
  rw [number_append hdigits (hleast.trans_eq hlength.symm) (.inl hlength), hvalue]

theorem fraction_append (h : s.Written) (hzone : NoDigit zone) (hpoint : zone.head? ≠ some '.') :
    fraction ((if s.digits.isEmpty then [] else '.' :: s.digits) ++ zone) = .ok (s.nano, zone) := by
  by_cases hempty : s.digits = []
  · simp only [hempty, List.isEmpty_nil, if_true, List.nil_append]
    rw [fraction.eq_2 zone (by rintro _ rfl; exact hpoint rfl)]
    simp [nano, hempty, value]
  · have hfilled : s.digits.isEmpty = false := by simpa using hempty
    have hpos : 1 ≤ s.digits.length := List.length_pos_iff.mpr hempty
    have hread : (s.digits ++ zone).length - zone.length = s.digits.length := by simp
    simp only [hfilled, Bool.false_eq_true, if_false, List.cons_append, fraction,
      number_append h.isDigit hpos (.inr ⟨h.length_le, hzone⟩), ok_bind, hread,
      dropWhile_of_noDigit hzone]
    rfl

theorem within_of {low high n : Nat} (hlow : low ≤ n) (hhigh : n ≤ high) :
    within low high n = .ok n := if_pos ⟨hlow, hhigh⟩

theorem Written.number_year (h : s.Written) {least : Nat} (hleast : least ≤ 4)
    (rest : List Char) :
    number least 4 ((Instant.padded 4 s.date.year.toNat).toList ++ rest) =
      .ok (s.date.year.toNat, rest) := by
  have hyear := h.year_le
  exact number_padded (by decide) (by omega) hleast rest

theorem Written.number_two (h : s.Written) {least : Nat} (hleast : least ≤ 2) {n : Nat}
    (hn : n = s.date.month ∨ n = s.date.day ∨ n = s.hour ∨ n = s.minute ∨ n = s.second)
    (rest : List Char) :
    number least 2 ((Instant.padded 2 n).toList ++ rest) = .ok (n, rest) := by
  obtain ⟨hmonth, hday⟩ := Civil.bounds_of_valid h.valid
  have hhour := h.hour_lt
  have hminute := h.minute_lt
  have hsecond := h.second_le
  exact number_padded (by decide) (by omega) hleast rest

theorem ofStrict_text (h : s.Written) (hzone : NoDigit zone) (hpoint : zone.head? ≠ some '.') :
    Instant.ofStrict (s.text ++ zone) = (do
      let (offset, text) ← Scan.offset (char ':') zone
      if offset.natAbs > 86340 then throw .outOfRange
      if ¬ text.isEmpty then throw .tooLong
      Fields.toInstant s.fields offset) := by
  obtain ⟨hmonth, hday⟩ := Civil.bounds_of_valid h.valid
  have hhour : s.hour ≤ 23 := Nat.le_of_lt_succ h.hour_lt
  have hminute : s.minute ≤ 59 := Nat.le_of_lt_succ h.minute_lt
  simp only [Instant.ofStrict, text, List.append_assoc, List.cons_append,
    h.number_year (Nat.le_refl 4), h.number_two (Nat.le_refl 2), true_or, or_true, ok_bind, char,
    mark, if_true, within_of hmonth.1 hmonth.2, within_of hday.1 hday.2,
    within_of (Nat.zero_le _) hhour, within_of (Nat.zero_le _) hminute,
    within_of (Nat.zero_le _) h.second_le, fraction_append h hzone hpoint,
    Int.toNat_of_nonneg h.year_nonneg]
  rfl

theorem exists_digit_padded {width n : Nat} (hwidth : 0 < width) (hn : n < 10 ^ width) :
    ∃ d more, (Instant.padded width n).toList = d :: more ∧ d.isDigit = true := by
  obtain ⟨hlength, hdigits, -⟩ := padded_written hwidth hn
  have hne : (Instant.padded width n).toList ≠ [] := by
    rw [← List.length_pos_iff]
    omega
  obtain ⟨d, more, hcons⟩ := List.exists_cons_of_ne_nil hne
  exact ⟨d, more, hcons, hdigits d (hcons ▸ List.mem_cons_self)⟩

theorem trimStart_padded {width n : Nat} (hwidth : 0 < width) (hn : n < 10 ^ width)
    (rest : List Char) :
    Text.trimStart ((Instant.padded width n).toList ++ rest) =
      (Instant.padded width n).toList ++ rest := by
  obtain ⟨d, more, hcons, hd⟩ := exists_digit_padded hwidth hn
  have hlow : 48 ≤ d.toNat := (Char.isDigit_iff_toNat.mp hd).1
  have hhigh : d.toNat ≤ 57 := (Char.isDigit_iff_toNat.mp hd).2
  have hblank : Text.isBlank d = false := by
    simp only [Text.isBlank, Bool.or_eq_false_iff, Bool.and_eq_false_iff, decide_eq_false_iff_not,
      beq_eq_false_iff_ne]
    omega
  rw [hcons, List.cons_append, Text.trimStart, List.dropWhile_cons_of_neg (by simp [hblank])]

theorem Written.year_text (h : s.Written) (rest : List Char) :
    year ((Instant.padded 4 s.date.year.toNat).toList ++ rest) = .ok (s.date.year, rest) := by
  have hnonneg := h.year_nonneg
  have hle := h.year_le
  have hself : (s.date.year.toNat : Int) = s.date.year := Int.toNat_of_nonneg hnonneg
  obtain ⟨d, more, hcons, hd⟩ :=
    exists_digit_padded (by decide : 0 < 4) (show s.date.year.toNat < 10 ^ 4 by omega)
  have hsign : ∀ mark : Char, mark.isDigit = false → d ≠ mark := by
    rintro mark hmark rfl
    rw [hd] at hmark
    cases hmark
  have hnumber := h.number_year (by decide : 1 ≤ 4) rest
  rw [hcons, List.cons_append] at hnumber ⊢
  unfold year
  split
  · rename_i heq
    exact absurd (List.cons.inj heq).1 (hsign '-' rfl)
  · rename_i heq
    exact absurd (List.cons.inj heq).1 (hsign '+' rfl)
  · rw [hnumber]
    simp only [Except.map, ok_bind, hself]
    rw [if_neg (by omega)]

theorem ofNaive_text (h : s.Written) : Instant.ofNaive s.text = Fields.toInstant s.fields 0 := by
  obtain ⟨hmonth, hday⟩ := Civil.bounds_of_valid h.valid
  have hhour : s.hour ≤ 23 := Nat.le_of_lt_succ h.hour_lt
  have hminute : s.minute ≤ 59 := Nat.le_of_lt_succ h.minute_lt
  have hsecond := h.second_le
  have hyear := h.year_le
  have htrim : ∀ n : Nat, n ≤ 60 → ∀ rest, Text.trimStart ((Instant.padded 2 n).toList ++ rest) =
      (Instant.padded 2 n).toList ++ rest :=
    fun n hn => trimStart_padded (by decide) (by omega)
  have hfraction := @fraction_append s [] h nofun nofun
  rw [List.append_nil] at hfraction
  have hstart : ∀ rest, Text.trimStart ((Instant.padded 4 s.date.year.toNat).toList ++ rest) =
      (Instant.padded 4 s.date.year.toNat).toList ++ rest :=
    trimStart_padded (by decide) (by omega)
  simp only [Instant.ofNaive, Instant.readDate, Instant.readTime, text, hstart, h.year_text,
    htrim s.date.month (by omega), htrim s.date.day (by omega),
    htrim s.hour (by omega), htrim s.minute (by omega), htrim s.second hsecond,
    h.number_two (by decide : 1 ≤ 2), true_or, or_true, ok_bind, char, id, if_true,
    within_of hmonth.1 hmonth.2, within_of hday.1 hday.2, within_of (Nat.zero_le _) hhour,
    within_of (Nat.zero_le _) hminute, within_of (Nat.zero_le _) hsecond, hfraction]
  rw [if_neg (by simp)]
  rfl

theorem two_padded {n : Nat} (hn : n < 100) (rest : List Char) :
    Scan.offset.two ((Instant.padded 2 n).toList ++ rest) = .ok (n, rest) := by
  obtain ⟨hlength, hdigits, hvalue⟩ := @padded_written 2 n (by decide) hn
  obtain ⟨a, b, htext⟩ := List.length_eq_two.mp hlength
  rw [htext] at hdigits hvalue ⊢
  have ha : a.isDigit = true := hdigits a (by simp)
  have hb : b.isDigit = true := hdigits b (by simp)
  simp [Scan.offset.two, ha, hb, hvalue]

theorem Zone.offset_eq (h : Zone zone offset) (hpresent : zone ≠ []) :
    Scan.offset (char ':') zone = .ok (offset, []) := by
  have hsize : ∀ {sign : Char} {hours minutes : Nat}, hours ≤ 23 → minutes ≤ 59 →
      sign = '+' ∨ sign = '-' →
      Scan.offset (char ':')
        (sign :: ((Instant.padded 2 hours).toList ++ ':' :: (Instant.padded 2 minutes).toList)) =
        .ok (if sign = '+' then hours * 3600 + minutes * 60 else -(hours * 3600 + minutes * 60), [])
      := by
    intro sign hours minutes hhours hminutes hsign
    have hend := two_padded (show minutes < 100 by omega) []
    rw [List.append_nil] at hend
    have hmark : ¬ (sign = 'Z' ∨ sign = 'z') := by
      rcases hsign with rfl | rfl <;> decide
    have hsigned : sign = '+' ∨ sign = '-' ∨ sign = '\u2212' := hsign.imp_right .inl
    simp only [Scan.offset, if_neg hmark, if_pos hsigned, two_padded (show hours < 100 by omega),
      ok_bind, char, if_true, hend, if_neg (Nat.not_lt.mpr hminutes)]
  cases h with
  | absent => exact absurd rfl hpresent
  | universal => rfl
  | ahead hhours hminutes => exact hsize hhours hminutes (.inl rfl)
  | behind hhours hminutes => exact hsize hhours hminutes (.inr rfl)

theorem Written.toInstant (h : s.Written) (hoffset : offset.natAbs ≤ 86340) :
    Fields.toInstant s.fields offset = .ok (s.instant offset) := by
  have hhour := h.hour_lt
  have hminute := h.minute_lt
  have hyear := h.year_le
  have hnonneg := h.year_nonneg
  obtain ⟨hlow, hhigh⟩ := Civil.toDay_bounds h.valid
  have hfirst := yearStart_mono hnonneg
  have hlast := yearStart_mono (show s.date.year + 1 ≤ 10000 by omega)
  have hstart : yearStart 0 = 0 := by decide
  have hend : yearStart 10000 = 3652425 := by decide
  have hfirstDay : Fields.firstDay ≤ -1 := by decide
  have hlastDay : 3652425 ≤ Fields.lastDay := by decide
  have hsecond : s.secondOfDay < 86400 := by
    unfold secondOfDay
    omega
  have hyears : ¬ (s.date.year < Fields.firstYear ∨ Fields.lastYear < s.date.year ∨
      s.date.isValid = false) := by
    simp only [Fields.firstYear, Fields.lastYear, h.valid, Bool.true_eq_false, or_false]
    omega
  have hrange : ¬ (offset ≤ -86400 ∨ 86400 ≤ offset) := by omega
  have hdays : ¬ (s.date.toDay + (s.secondOfDay - offset) / 86400 < Fields.firstDay ∨
      Fields.lastDay < s.date.toDay + (s.secondOfDay - offset) / 86400) := by omega
  have hclock : ((s.hour * 60 + s.minute) * 60 + (min s.second 59 : Nat) - offset : Int) =
      s.secondOfDay - offset := by simp [secondOfDay]
  simp only [Fields.toInstant, fields, hclock, if_neg hyears, if_neg hrange, if_neg hdays]
  rfl

theorem ofEither_text (h : s.Written) (hzone : Zone zone offset) :
    Instant.ofEither (s.text ++ zone) = .ok (s.instant offset) := by
  have hbound := hzone.natAbs_le
  rw [Instant.ofEither, ofStrict_text h hzone.noDigit hzone.head?_ne]
  -- Without an offset the first reader fails, and the second one takes universal time.
  by_cases hpresent : zone = []
  · subst hpresent
    cases hzone
    simp only [Scan.offset, List.append_nil]
    exact (ofNaive_text h).trans (h.toInstant hbound)
  · simp only [hzone.offset_eq hpresent, ok_bind, if_neg (Nat.not_lt.mpr hbound),
      h.toInstant hbound]
    rfl

theorem lenient_of_bears {text : List Char} {t : Instant} (h : Instant.ofEither text = .ok t)
    {tree : Tree} (htree : tree.Bears (.string (String.ofList text))) :
    Instant.lenient.read tree = .ok (some t) := by
  cases htree with
  | string _ stop => simp [Instant.lenient, Form.optional, Form.text, Except.map, h]

/-! ### The date and the time of an instant -/

def clock (s : Stamp) : Nat := (s.hour * 60 + s.minute) * 60 + s.second

/-- The instant some seconds before that of a stamp in universal time: the seconds that are too many
or too few for a day are those of the date after or before. -/
structure Denotes (s : Stamp) (offset : Int) (t : Instant) : Prop where
  second_lt : t.second < 86400
  nano_eq : t.nano = s.nano
  carried :
    Civil.ofDay t.day = s.date ∧ (t.second : Int) = s.clock - offset ∨
    (Civil.ofDay t.day).tomorrow = s.date ∧ (t.second : Int) = s.clock - offset + 86400 ∨
    Civil.ofDay t.day = s.date.tomorrow ∧ (t.second : Int) = s.clock - offset - 86400

theorem Written.denotes (h : s.Written) (hsecond : s.second < 60)
    (hoffset : offset.natAbs ≤ 86340) : s.Denotes offset (s.instant offset) := by
  have hhour := h.hour_lt
  have hminute := h.minute_lt
  have hdate := Civil.ofDay_toDay h.valid
  have hclock : s.secondOfDay = s.clock := by
    unfold secondOfDay clock
    omega
  have hlt : s.clock < 86400 := by
    unfold clock
    omega
  -- An offset is less than a day, so no more than one day is carried.
  have hcarry : ((s.clock - offset) / 86400 = 0 ∨ (s.clock - offset) / 86400 = -1 ∨
      (s.clock - offset) / 86400 = 1) := by omega
  refine ⟨?_, if_neg (by omega), ?_⟩
  · simp only [instant]
    omega
  · simp only [instant, hclock]
    rcases hcarry with hcarry | hcarry | hcarry
    · refine .inl ⟨?_, by omega⟩
      rw [hcarry, Int.add_zero, hdate]
    · refine .inr (.inl ⟨?_, by omega⟩)
      rw [hcarry, ← Civil.ofDay_succ, Int.neg_add_cancel_right, hdate]
    · refine .inr (.inr ⟨?_, by omega⟩)
      rw [hcarry, Civil.ofDay_succ, hdate]

end Stamp

/-! ### Writing an instant -/

namespace Instant

variable {t : Instant} {n : Nat}

/-- The instants that there are: a leap second goes on with the last second of a minute. -/
structure Sound (t : Instant) : Prop where
  second_lt : t.second < 86400
  nano_lt : t.nano < 2000000000
  leap : 1000000000 ≤ t.nano → t.second % 60 = 59

/-- The digits that are written for billionths: as many thousandths as are needed. -/
def fractionDigits (n : Nat) : List Char :=
  if n = 0 then []
  else if n % 1000000 = 0 then (padded 3 (n / 1000000)).toList
  else if n % 1000 = 0 then (padded 6 (n / 1000)).toList
  else (padded 9 n).toList

def stamp (t : Instant) : Stamp :=
  ⟨Civil.ofDay t.day, t.second / 3600, t.second / 60 % 60, t.second % 60 + t.nano / 1000000000,
    fractionDigits (t.nano % 1000000000)⟩

theorem fractionDigits_written (h : n < 1000000000) :
    (fractionDigits n).length ∈ [0, 3, 6, 9] ∧
      (∀ c ∈ fractionDigits n, c.isDigit = true) ∧
      value 0 (fractionDigits n) * 10 ^ (9 - (fractionDigits n).length) = n := by
  unfold fractionDigits
  split
  · simp [value, *]
  · have hwritten : ∀ width k, width ∈ [3, 6, 9] → k < 10 ^ width → k * 10 ^ (9 - width) = n →
        (padded width k).toList.length ∈ [0, 3, 6, 9] ∧
          (∀ c ∈ (padded width k).toList, c.isDigit = true) ∧
          value 0 (padded width k).toList * 10 ^ (9 - (padded width k).toList.length) = n := by
      intro width k hmem hk hn
      obtain ⟨hlength, hdigits, hvalue⟩ :=
        padded_written (show 0 < width by simp at hmem; omega) hk
      rw [hlength, hvalue]
      exact ⟨List.mem_cons_of_mem _ hmem, hdigits, hn⟩
    split
    · exact hwritten 3 _ (by decide) (by omega) (by omega)
    · split
      · exact hwritten 6 _ (by decide) (by omega) (by omega)
      · exact hwritten 9 _ (by decide) (by omega) (by omega)

theorem toList_writeFraction (h : n < 1000000000) :
    (writeFraction n).toList =
      if (fractionDigits n).isEmpty then [] else '.' :: fractionDigits n := by
  have hwritten : ∀ {width k : Nat}, 0 < width → k < 10 ^ width →
      ("." ++ padded width k).toList =
        if (padded width k).toList.isEmpty then [] else '.' :: (padded width k).toList := by
    intro width k hwidth hk
    obtain ⟨d, more, hcons, -⟩ := Stamp.exists_digit_padded hwidth hk
    simp [String.toList_append, hcons]
  unfold writeFraction fractionDigits
  split
  · rfl
  · split
    · exact hwritten (by decide) (by omega)
    · split
      · exact hwritten (by decide) (by omega)
      · exact hwritten (by decide) (by omega)

theorem toList_write (hnonneg : 0 ≤ (Civil.ofDay t.day).year)
    (hle : (Civil.ofDay t.day).year ≤ 9999) : t.write.toList = t.stamp.text ++ ['Z'] := by
  have hfraction := toList_writeFraction (show t.nano % 1000000000 < 1000000000 by omega)
  simp [write, date, writeYear, hnonneg, hle, Stamp.text, stamp, hfraction, String.toList_append]

namespace Sound

theorem written_stamp (h : t.Sound) (hnonneg : 0 ≤ (Civil.ofDay t.day).year)
    (hle : (Civil.ofDay t.day).year ≤ 9999) : t.stamp.Written := by
  have hsecond := h.second_lt
  have hnano := h.nano_lt
  have hleap := h.leap
  obtain ⟨hlength, hdigits, -⟩ :=
    fractionDigits_written (show t.nano % 1000000000 < 1000000000 by omega)
  refine ⟨(Civil.toDay_ofDay t.day).2, hnonneg, hle, ?_, ?_, ?_, hdigits, ?_⟩ <;>
    simp only [stamp]
  · omega
  · omega
  · omega
  · simp only [List.mem_cons, List.not_mem_nil, or_false] at hlength
    omega

theorem instant_stamp (h : t.Sound) : t.stamp.instant 0 = t := by
  have hsecond := h.second_lt
  have hnano := h.nano_lt
  have hleap := h.leap
  obtain ⟨-, -, hvalue⟩ :=
    fractionDigits_written (show t.nano % 1000000000 < 1000000000 by omega)
  have hday := (Civil.toDay_ofDay t.day).1
  have hclock : t.stamp.secondOfDay = t.second := by
    simp only [Stamp.secondOfDay, stamp]
    omega
  obtain ⟨day, second, nano⟩ := t
  simp only [Stamp.instant, hclock, Stamp.nano, stamp, hvalue, hday] at *
  simp only [Instant.mk.injEq]
  refine ⟨by omega, by omega, ?_⟩
  split <;> omega

theorem restores (h : t.Sound) (hnonneg : 0 ≤ (Civil.ofDay t.day).year)
    (hle : (Civil.ofDay t.day).year ≤ 9999) : lenient.Restores (some t) where
  whole := .string _
  read tree htree := by
    have hread := Stamp.ofEither_text (h.written_stamp hnonneg hle) .universal
    rw [h.instant_stamp, ← toList_write hnonneg hle] at hread
    refine Stamp.lenient_of_bears hread ?_
    rw [String.ofList_toList]
    exact htree

end Sound

end Instant

/-- **Timestamps are read as the instants that they denote**: a date of the years 0 to 9999 and a
time with up to nine digits of a fraction, alone or with the mark of universal time, is the instant
of that date and time, and with an offset the instant so much before. An instant of these years is
written as such a text in universal time, with no more thousandths than it needs, and read back. -/
theorem timestamps_are_read :
    (∀ (s : Stamp) (zone : List Char) (offset : Int), s.Written → s.second < 60 →
      Stamp.Zone zone offset →
      ∃ t, s.Denotes offset t ∧
        ∀ tree : Tree, tree.Bears (.string (String.ofList (s.text ++ zone))) →
          Instant.lenient.read tree = .ok (some t)) ∧
      ∀ t : Instant, t.Sound → 0 ≤ (Civil.ofDay t.day).year → (Civil.ofDay t.day).year ≤ 9999 →
        (∃ s : Stamp, s.Written ∧ s.date = Civil.ofDay t.day ∧ s.digits.length ∈ [0, 3, 6, 9] ∧
          Instant.lenient.write (some t) = .string (String.ofList (s.text ++ ['Z']))) ∧
        Instant.lenient.Restores (some t) := by
  constructor
  · intro s zone offset hwritten hsecond hzone
    exact ⟨s.instant offset, hwritten.denotes hsecond hzone.natAbs_le,
      fun tree htree => Stamp.lenient_of_bears (Stamp.ofEither_text hwritten hzone) htree⟩
  · intro t hsound hnonneg hle
    have hnano := Nat.mod_lt t.nano (show 1000000000 > 0 by decide)
    refine ⟨⟨t.stamp, hsound.written_stamp hnonneg hle, rfl,
      (Instant.fractionDigits_written hnano).1, ?_⟩, hsound.restores hnonneg hle⟩
    rw [← Instant.toList_write hnonneg hle, String.ofList_toList]
    rfl

/-- Half past eleven on the last of February, an hour behind universal time. -/
theorem timestamps_are_read_across_days :
    ∃ t, Stamp.Denotes ⟨⟨2024, 2, 29⟩, 23, 30, 5, ['2', '5']⟩ (-3600) t ∧
      Civil.ofDay t.day = ⟨2024, 3, 1⟩ ∧ t.second = 1805 ∧ t.nano = 250000000 ∧
      Instant.lenient.read (.string (.ok "2024-02-29T23:30:05.25-01:00") 0) = .ok (some t) ∧
      Instant.lenient.Restores (some t) := by
  obtain ⟨t, hdenotes, hread⟩ :=
    timestamps_are_read.1 ⟨⟨2024, 2, 29⟩, 23, 30, 5, ['2', '5']⟩ _ (-3600)
      ⟨by decide, by decide, by decide, by decide, by decide, by decide, by simp, by decide⟩
      (by decide) (@Stamp.Zone.behind 1 0 (by decide) (by decide))
  have hlt := hdenotes.second_lt
  have hnano : t.nano = 250000000 := hdenotes.nano_eq
  have hclock : Stamp.clock ⟨⟨2024, 2, 29⟩, 23, 30, 5, ['2', '5']⟩ = 84605 := rfl
  have hcarried := hdenotes.carried
  rw [hclock] at hcarried
  obtain ⟨hday, hsecond⟩ :
      Civil.ofDay t.day = Civil.tomorrow ⟨2024, 2, 29⟩ ∧ t.second = 1805 := by
    rcases hcarried with ⟨-, h⟩ | ⟨-, h⟩ | ⟨hday, h⟩
    · omega
    · omega
    · exact ⟨hday, by omega⟩
  have hdate : Civil.ofDay t.day = ⟨2024, 3, 1⟩ := hday
  refine ⟨t, hdenotes, hdate, hsecond, hnano, hread _ (.string _ 0), ?_⟩
  refine (timestamps_are_read.2 t ⟨hlt, by omega, by omega⟩ ?_ ?_).2 <;> rw [hdate] <;> decide

end MangaReader.Time

import MangaReader.Time.Civil
import Mathlib.Algebra.BigOperators.Group.List.Basic
import Mathlib.Algebra.GroupWithZero.Nat
import Mathlib.Data.List.GetD

/-!
# Days and dates

Every day has one date and every date of the calendar one day. The day after that of a date is the
day of the date after it, with the day, the month and the year carried as they are on paper.

* `Time.yearOf_eq_iff` : the year of a day.
* `Civil.ofDay_toDay`, `Civil.toDay_ofDay` : **dates and days, forth and back**.
* `Civil.tomorrow`, `Civil.ofDay_succ` : **the next day has the next date**.
-/

namespace MangaReader.Time

/-! ### Years -/

def yearLength (leap : Bool) : Nat := if leap then 366 else 365

theorem yearStart_succ (y : Int) : yearStart (y + 1) = yearStart y + yearLength (isLeapYear y) := by
  unfold yearStart yearLength
  by_cases hleap : isLeapYear y = true
  · have hrule := hleap
    simp only [isLeapYear, Bool.and_eq_true, Bool.or_eq_true, beq_iff_eq, bne_iff_ne] at hrule
    rw [if_pos hleap]
    omega
  · have hrule := hleap
    simp only [isLeapYear, Bool.and_eq_true, Bool.or_eq_true, beq_iff_eq, bne_iff_ne] at hrule
    rw [if_neg hleap]
    omega

theorem yearStart_mono {y y' : Int} (h : y ≤ y') : yearStart y ≤ yearStart y' := by
  unfold yearStart
  omega

theorem yearStart_yearOf (day : Int) :
    yearStart (yearOf day) ≤ day ∧ day < yearStart (yearOf day + 1) := by
  unfold yearOf
  simp only
  have hlow : 146097 * (day * 400 / 146097) ≤ day * 400 := by omega
  have hhigh : day * 400 < 146097 * (day * 400 / 146097) + 146097 := by omega
  generalize day * 400 / 146097 = guess at hlow hhigh ⊢
  split
  · rename_i hbefore
    rw [Int.sub_add_cancel]
    refine ⟨?_, hbefore⟩
    unfold yearStart
    omega
  · rename_i hfrom
    split
    · rename_i hbehind
      refine ⟨hbehind, ?_⟩
      unfold yearStart
      omega
    · omega

theorem yearOf_eq_iff {day y : Int} :
    yearOf day = y ↔ yearStart y ≤ day ∧ day < yearStart (y + 1) := by
  constructor
  · rintro rfl
    exact yearStart_yearOf day
  · rintro ⟨hlow, hhigh⟩
    obtain ⟨hlow', hhigh'⟩ := yearStart_yearOf day
    rcases Int.lt_trichotomy (yearOf day) y with h | h | h
    · have := yearStart_mono (show yearOf day + 1 ≤ y by omega)
      omega
    · exact h
    · have := yearStart_mono (show y + 1 ≤ yearOf day by omega)
      omega

/-! ### Months -/

theorem sum_monthLengths (leap : Bool) : (monthLengths leap).sum = yearLength leap := by
  cases leap <;> rfl

variable {lengths : List Nat} {m d : Nat}

theorem sum_take_add_lt (hm : m < lengths.length) (hd : d < lengths[m]) :
    (lengths.take m).sum + d < lengths.sum := by
  induction lengths generalizing m with
  | nil => simp at hm
  | cons n rest ih =>
    cases m with
    | zero =>
      simp only [List.getElem_cons_zero] at hd
      simp only [List.take_zero, List.sum_nil, List.sum_cons]
      omega
    | succ m =>
      simp only [List.length_cons, List.getElem_cons_succ] at hm hd
      have := ih (by omega) hd
      simp only [List.take_succ_cons, List.sum_cons]
      omega

theorem monthOf_take (k : Nat) (hm : m < lengths.length) (hd : d < lengths[m]) :
    monthOf k lengths ((lengths.take m).sum + d) = (k + m, d + 1) := by
  induction lengths generalizing m k with
  | nil => simp at hm
  | cons n rest ih =>
    cases m with
    | zero =>
      simp only [List.getElem_cons_zero] at hd
      simp [monthOf, hd]
    | succ m =>
      simp only [List.length_cons, List.getElem_cons_succ] at hm hd
      have hnot : ¬ n + (rest.take m).sum + d < n := by omega
      have hleft : n + (rest.take m).sum + d - n = (rest.take m).sum + d := by omega
      rw [List.take_succ_cons, List.sum_cons, monthOf, if_neg hnot, hleft, ih (k + 1) (by omega) hd]
      congr 1
      omega

theorem exists_month (h : d < lengths.sum) :
    ∃ (m : Nat) (hm : m < lengths.length) (r : Nat), r < lengths[m] ∧
      d = (lengths.take m).sum + r := by
  induction lengths generalizing d with
  | nil => simp at h
  | cons n rest ih =>
    by_cases hd : d < n
    · exact ⟨0, by simp, d, by simpa using hd, by simp⟩
    · rw [List.sum_cons] at h
      obtain ⟨m, hm, r, hr, hrest⟩ := ih (show d - n < rest.sum by omega)
      refine ⟨m + 1, by simpa using hm, r, by simpa using hr, ?_⟩
      simp only [List.take_succ_cons, List.sum_cons]
      omega

/-! ### Dates -/

namespace Civil

variable {c : Civil}

theorem isValid_iff {year : Int} {month day : Nat} :
    (Civil.mk year month day).isValid = true ↔
      ∃ (m : Nat) (hm : m < (monthLengths (isLeapYear year)).length) (r : Nat),
        r < (monthLengths (isLeapYear year))[m] ∧ month = m + 1 ∧ day = r + 1 := by
  unfold isValid
  simp only
  constructor
  · intro h
    split at h
    · cases h
    · rename_i m
      split at h
      · rename_i n hn
        obtain ⟨hm, hlength⟩ := List.getElem?_eq_some_iff.mp hn
        simp only [Bool.and_eq_true, decide_eq_true_eq] at h
        exact ⟨m, hm, day - 1, by omega, rfl, by omega⟩
      · cases h
  · rintro ⟨m, hm, r, hr, rfl, rfl⟩
    simp only [List.getElem?_eq_getElem hm, Bool.and_eq_true, decide_eq_true_eq]
    omega

theorem le_of_mem_monthLengths (leap : Bool) : ∀ n ∈ monthLengths leap, 0 < n ∧ n ≤ 31 := by
  cases leap <;> decide

theorem bounds_of_valid (h : c.isValid = true) :
    (1 ≤ c.month ∧ c.month ≤ 12) ∧ 1 ≤ c.day ∧ c.day ≤ 31 := by
  obtain ⟨year, month, day⟩ := c
  obtain ⟨m, hm, r, hr, rfl, rfl⟩ := isValid_iff.mp h
  have hcount : (monthLengths (isLeapYear year)).length = 12 := rfl
  have hlength := le_of_mem_monthLengths _ _ (List.getElem_mem hm)
  simp only
  omega

theorem toDay_eq (year : Int) (m r : Nat) :
    toDay ⟨year, m + 1, r + 1⟩ =
      yearStart year + (((monthLengths (isLeapYear year)).take m).sum + r : Nat) := by
  have hfold : ∀ (l : List Nat) (n : Nat), l.foldl (· + ·) n = l.sum + n := by
    intro l
    induction l with
    | nil => simp
    | cons k l ih =>
      intro n
      rw [List.foldl_cons, ih, List.sum_cons]
      omega
  simp only [toDay, Nat.add_sub_cancel, hfold]

theorem toDay_bounds (h : c.isValid = true) :
    yearStart c.year ≤ c.toDay ∧ c.toDay < yearStart (c.year + 1) := by
  obtain ⟨year, month, day⟩ := c
  obtain ⟨m, hm, r, hr, rfl, rfl⟩ := isValid_iff.mp h
  have hlt := sum_take_add_lt hm hr
  rw [sum_monthLengths] at hlt
  simp only [toDay_eq, yearStart_succ]
  omega

theorem ofDay_toDay (h : c.isValid = true) : ofDay c.toDay = c := by
  have hyear := yearOf_eq_iff.mpr (toDay_bounds h)
  obtain ⟨year, month, day⟩ := c
  obtain ⟨m, hm, r, hr, rfl, rfl⟩ := isValid_iff.mp h
  have hleft : (toDay ⟨year, m + 1, r + 1⟩ - yearStart year).toNat =
      ((monthLengths (isLeapYear year)).take m).sum + r := by
    rw [toDay_eq]
    omega
  simp only [ofDay, hyear, hleft, monthOf_take 1 hm hr]
  rw [Nat.add_comm 1 m]

theorem toDay_ofDay (day : Int) : (ofDay day).toDay = day ∧ (ofDay day).isValid = true := by
  obtain ⟨hlow, hhigh⟩ := yearStart_yearOf day
  rw [yearStart_succ] at hhigh
  have hlt : (day - yearStart (yearOf day)).toNat <
      (monthLengths (isLeapYear (yearOf day))).sum := by
    rw [sum_monthLengths]
    omega
  obtain ⟨m, hm, r, hr, hleft⟩ := exists_month hlt
  have hdate : ofDay day = ⟨yearOf day, m + 1, r + 1⟩ := by
    simp only [ofDay, hleft, monthOf_take 1 hm hr]
    rw [Nat.add_comm 1 m]
  rw [hdate]
  refine ⟨?_, isValid_iff.mpr ⟨m, hm, r, hr, rfl, rfl⟩⟩
  rw [toDay_eq]
  omega

def monthLength (c : Civil) : Nat := (monthLengths (isLeapYear c.year)).getD (c.month - 1) 0

/-- The date after a date: the next day, else the first of the next month, else of the next year. -/
def tomorrow (c : Civil) : Civil :=
  if c.day < c.monthLength then ⟨c.year, c.month, c.day + 1⟩
  else if c.month < 12 then ⟨c.year, c.month + 1, 1⟩
  else ⟨c.year + 1, 1, 1⟩

theorem tomorrow_of_valid (h : c.isValid = true) :
    c.tomorrow.isValid = true ∧ c.tomorrow.toDay = c.toDay + 1 := by
  obtain ⟨year, month, day⟩ := c
  obtain ⟨m, hm, r, hr, rfl, rfl⟩ := isValid_iff.mp h
  have hcount : ∀ leap, (monthLengths leap).length = 12 := fun _ => rfl
  have hlength : monthLength ⟨year, m + 1, r + 1⟩ = (monthLengths (isLeapYear year))[m] :=
    List.getD_eq_getElem _ _ hm
  have hsum := List.sum_take_succ (monthLengths (isLeapYear year)) m hm
  rw [tomorrow, hlength]
  -- Within the month, into the next one and into the next year.
  by_cases hday : r + 1 < (monthLengths (isLeapYear year))[m]
  · rw [if_pos hday]
    refine ⟨isValid_iff.mpr ⟨m, hm, r + 1, hday, rfl, rfl⟩, ?_⟩
    simp only [toDay_eq]
    omega
  · rw [if_neg hday]
    by_cases hmonth : m + 1 < 12
    · rw [if_pos hmonth]
      have hnext : m + 1 < (monthLengths (isLeapYear year)).length := by
        rw [hcount]
        exact hmonth
      have hpos := (le_of_mem_monthLengths _ _ (List.getElem_mem hnext)).1
      refine ⟨isValid_iff.mpr ⟨m + 1, hnext, 0, hpos, rfl, rfl⟩, ?_⟩
      simp only [toDay_eq, toDay_eq year (m + 1) 0]
      omega
    · rw [if_neg hmonth]
      have hall : (monthLengths (isLeapYear year)).take (m + 1) = monthLengths (isLeapYear year) :=
        List.take_of_length_le (by rw [hcount]; omega)
      have hfirst : 0 < (monthLengths (isLeapYear (year + 1))).length := by
        rw [hcount]
        decide
      have hpos := (le_of_mem_monthLengths _ _ (List.getElem_mem hfirst)).1
      refine ⟨isValid_iff.mpr ⟨0, hfirst, 0, hpos, rfl, rfl⟩, ?_⟩
      rw [hall, sum_monthLengths] at hsum
      simp only [toDay_eq, toDay_eq (year + 1) 0 0, yearStart_succ, List.take_zero, List.sum_nil]
      omega

theorem ofDay_succ (day : Int) : ofDay (day + 1) = (ofDay day).tomorrow := by
  obtain ⟨hday, hvalid⟩ := toDay_ofDay day
  obtain ⟨hnext, hsucc⟩ := tomorrow_of_valid hvalid
  rw [← ofDay_toDay hnext, hsucc, hday]

end Civil

end MangaReader.Time

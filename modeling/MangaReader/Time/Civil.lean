/-!
# The Gregorian calendar

Years count as in astronomy (the year before 1 is 0), days from the first of January of the year 0.

* `Civil` : a date as year, month and day of the month.
* `Civil.isValid` : whether the calendar has the date.
* `Civil.toDay`, `Civil.ofDay` : the number of a date's day, and back.
-/

namespace MangaReader.Time

/-- A date: month and day of the month count from 1. -/
structure Civil where
  year : Int
  month : Nat
  day : Nat
  deriving DecidableEq, Repr

/-- Every fourth year is a leap year, but of the full centuries only every fourth. -/
def isLeapYear (y : Int) : Bool := y % 4 == 0 && (y % 100 != 0 || y % 400 == 0)

def monthLengths (leap : Bool) : List Nat :=
  [31, if leap then 29 else 28, 31, 30, 31, 30, 31, 31, 30, 31, 30, 31]

/-- The number of the first day of a year. -/
def yearStart (y : Int) : Int := 365 * y + (y + 3) / 4 - (y + 99) / 100 + (y + 399) / 400

/-- The year of a day. 400 years have 146097 days, so the first guess is a year off at most. -/
def yearOf (day : Int) : Int :=
  let guess := day * 400 / 146097
  if day < yearStart guess then guess - 1
  else if yearStart (guess + 1) ≤ day then guess + 1
  else guess

/-- The month and the day of the month of a day of the year that counts from 0, given the lengths of
the months from `month` on. -/
def monthOf (month : Nat) : List Nat → Nat → Nat × Nat
  | [], d => (month, d + 1)
  | n :: rest, d => if d < n then (month, d + 1) else monthOf (month + 1) rest (d - n)

namespace Civil

def isValid (c : Civil) : Bool :=
  match c.month with
  | 0 => false
  | m + 1 =>
    match (monthLengths (isLeapYear c.year))[m]? with
    | some n => 1 ≤ c.day && c.day ≤ n
    | none => false

def toDay (c : Civil) : Int :=
  yearStart c.year +
    (((monthLengths (isLeapYear c.year)).take (c.month - 1)).foldl (· + ·) (c.day - 1) : Nat)

def ofDay (day : Int) : Civil :=
  let year := yearOf day
  let (month, d) := monthOf 1 (monthLengths (isLeapYear year)) (day - yearStart year).toNat
  ⟨year, month, d⟩

end Civil

end MangaReader.Time

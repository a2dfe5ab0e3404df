import MangaReader.Text.Blank
import MangaReader.Time.Civil

/-!
# Instants and their written forms

* `Instant` : a second of a day in universal time, and a fraction of it.
* `Instant.ofStrict` : the form of RFC 3339, with an offset.
* `Instant.ofRelaxed` : the same, but fields may be shorter and blanks may stand between them.
* `Instant.ofNaive` : a date and a time without an offset, taken as universal time.
* `Instant.write`, `Instant.date` : the form of RFC 3339 in universal time, and its date.
-/

namespace MangaReader.Time

inductive TimeFault where
  | outOfRange
  | impossible
  | invalid
  | tooShort
  | tooLong
  deriving DecidableEq, Repr

def TimeFault.message : TimeFault → String
  | .outOfRange => "input is out of range"
  | .impossible => "no possible date and time matching input"
  | .invalid => "input contains invalid characters"
  | .tooShort => "premature end of input"
  | .tooLong => "trailing input"

/-- A fraction of a second in universal time. `nano` counts from a billion on in a leap second,
which is the continuation of the second before it. -/
structure Instant where
  day : Int
  second : Nat
  nano : Nat
  deriving DecidableEq, Repr

structure Fields where
  year : Int := 0
  month : Nat := 0
  day : Nat := 0
  hour : Nat := 0
  minute : Nat := 0
  second : Nat := 0
  nano : Nat := 0
  deriving DecidableEq, Repr

def within (low high n : Nat) : Except TimeFault Nat :=
  if low ≤ n ∧ n ≤ high then .ok n else .error .outOfRange

namespace Fields

/-- The first and the last year that can be represented. -/
def firstYear : Int := -262143
def lastYear : Int := 262142

/-- The days of those years. -/
def firstDay : Int := Civil.toDay ⟨firstYear, 1, 1⟩
def lastDay : Int := Civil.toDay ⟨lastYear, 12, 31⟩

/-- The instant of the fields, `offset` seconds ahead of universal time. -/
def toInstant (f : Fields) (offset : Int) : Except TimeFault Instant :=
  let date : Civil := ⟨f.year, f.month, f.day⟩
  if f.year < firstYear ∨ lastYear < f.year ∨ date.isValid = false then .error .outOfRange
  else if offset ≤ -86400 ∨ 86400 ≤ offset then .error .outOfRange
  else
    let second : Int := (f.hour * 60 + f.minute) * 60 + (min f.second 59 : Nat) - offset
    let day := date.toDay + second / 86400
    if day < firstDay ∨ lastDay < day then .error .impossible
    else .ok ⟨day, (second % 86400).toNat, if f.second = 60 then 1000000000 + f.nano else f.nano⟩

end Fields

namespace Scan

/-- The value of digits, read on from a value. -/
def value (n : Nat) (digits : List Char) : Nat :=
  digits.foldl (fun n d => n * 10 + (d.toNat - 48)) n

/-- A number of at least `least` and at most `most` digits. -/
def number (least most : Nat) (text : List Char) : Except TimeFault (Nat × List Char) :=
  let digits := (text.take most).takeWhile Char.isDigit
  if digits.length < least then
    .error (if text.length < least then .tooShort else .invalid)
  else .ok (value 0 digits, text.drop digits.length)

def char (c : Char) : List Char → Except TimeFault (List Char)
  | [] => .error .tooShort
  | d :: rest => if d = c then .ok rest else .error .invalid

def mark : List Char → Except TimeFault (List Char)
  | [] => .error .tooShort
  | c :: rest => if c = 't' ∨ c = 'T' ∨ c = ' ' then .ok rest else .error .invalid

/-- A year: four digits at most unless it has a sign. -/
def year (text : List Char) : Except TimeFault (Int × List Char) := do
  let (n, rest) ←
    match text with
    | '-' :: rest => (number 1 rest.length rest).map fun (n, rest) => (-(n : Int), rest)
    | '+' :: rest => (number 1 rest.length rest).map fun (n, rest) => ((n : Int), rest)
    | _ => (number 1 4 text).map fun (n, rest) => ((n : Int), rest)
  if n < -2147483648 ∨ 2147483647 < n then .error .outOfRange else .ok (n, rest)

/-- A fraction of a second, if there is one; digits after the ninth are dropped. -/
def fraction : List Char → Except TimeFault (Nat × List Char)
  | '.' :: text => do
    let (n, rest) ← number 1 9 text
    let read := text.length - rest.length
    .ok (n * Nat.pow 10 (9 - read), rest.dropWhile Char.isDigit)
  | text => .ok (0, text)

/-- An offset from universal time in seconds. `between` reads what stands between its hours and
minutes. -/
def offset (between : List Char → Except TimeFault (List Char)) (text : List Char) :
    Except TimeFault (Int × List Char) :=
  match text with
  | [] => .error .tooShort
  | sign :: rest =>
    if sign = 'Z' ∨ sign = 'z' then .ok (0, rest)
    else if sign = '+' ∨ sign = '-' ∨ sign = '\u2212' then do
      let (hours, rest) ← two rest
      let rest ← between rest
      let (minutes, rest) ← two rest
      if 59 < minutes then .error .outOfRange
      else
        let size : Int := hours * 3600 + minutes * 60
        .ok (if sign = '+' then size else -size, rest)
    else .error .invalid
where
  /-- Two digits. -/
  two : List Char → Except TimeFault (Nat × List Char)
    | a :: b :: rest =>
      if a.isDigit ∧ b.isDigit then .ok (value 0 [a, b], rest) else .error .invalid
    | [a] => .error (if a.toNat < 0x80 then .tooShort else .invalid)
    | [] => .error .tooShort

def colons (text : List Char) : Except TimeFault (List Char) :=
  .ok (text.dropWhile fun c => c == ':' || Text.isBlank c)

end Scan

namespace Instant

open Scan

/-- A text in the form of RFC 3339, every field at full width. -/
def ofStrict (text : List Char) : Except TimeFault Instant := do
  let (year, text) ← number 4 4 text
  let text ← char '-' text
  let (month, text) ← number 2 2 text
  let month ← within 1 12 month
  let text ← char '-' text
  let (day, text) ← number 2 2 text
  let day ← within 1 31 day
  let text ← mark text
  let (hour, text) ← number 2 2 text
  let hour ← within 0 23 hour
  let text ← char ':' text
  let (minute, text) ← number 2 2 text
  let minute ← within 0 59 minute
  let text ← char ':' text
  let (second, text) ← number 2 2 text
  let second ← within 0 60 second
  let (nano, text) ← fraction text
  let (offset, text) ← offset (char ':') text
  if offset.natAbs > 86340 then throw .outOfRange
  if ¬ text.isEmpty then throw .tooLong
  Fields.toInstant ⟨year, month, day, hour, minute, second, nano⟩ offset

/-- The date of a text whose fields may be short and have blanks before them; `gap` drops what may
stand before a mark. -/
def readDate (gap : List Char → List Char) (text : List Char) :
    Except TimeFault ((Int × Nat × Nat) × List Char) := do
  let (year, text) ← year (Text.trimStart text)
  let text ← char '-' (gap text)
  let (month, text) ← number 1 2 (Text.trimStart text)
  let month ← within 1 12 month
  let text ← char '-' (gap text)
  let (day, text) ← number 1 2 (Text.trimStart text)
  let day ← within 1 31 day
  .ok ((year, month, day), text)

def readTime (gap : List Char → List Char) (text : List Char) :
    Except TimeFault ((Nat × Nat × Nat × Nat) × List Char) := do
  let (hour, text) ← number 1 2 (Text.trimStart text)
  let hour ← within 0 23 hour
  let text ← char ':' (gap text)
  let (minute, text) ← number 1 2 (Text.trimStart text)
  let minute ← within 0 59 minute
  let text ← char ':' (gap text)
  let (second, text) ← number 1 2 (Text.trimStart text)
  let second ← within 0 60 second
  let (nano, text) ← fraction text
  .ok ((hour, minute, second, nano), text)

/-- A text without an offset, in universal time. -/
def ofNaive (text : List Char) : Except TimeFault Instant := do
  let ((year, month, day), text) ← readDate id text
  let text ← char 'T' text
  let ((hour, minute, second, nano), text) ← readTime id text
  if ¬ text.isEmpty then throw .tooLong
  Fields.toInstant ⟨year, month, day, hour, minute, second, nano⟩ 0

/-- A text in the form of RFC 3339 with blanks and short fields; the name of universal time may
stand for the offset. -/
def ofRelaxed (text : List Char) : Except TimeFault Instant := do
  let ((year, month, day), text) ← readDate Text.trimStart text
  let text ← mark text
  let ((hour, minute, second, nano), text) ← readTime Text.trimStart text
  let text := Text.trimStart text
  let (offset, text) ←
    if (text.take 3).map Char.toUpper = ['U', 'T', 'C'] then .ok (0, text.drop 3)
    else offset colons text
  if ¬ (Text.trimStart text).isEmpty then throw .tooLong
  Fields.toInstant ⟨year, month, day, hour, minute, second, nano⟩ offset

def padded (width n : Nat) : String :=
  let digits := toString n
  "".pushn '0' (width - digits.length) ++ digits

/-- A year: four digits, and a sign unless it lies between 0 and 9999. -/
def writeYear (y : Int) : String :=
  if 0 ≤ y ∧ y ≤ 9999 then padded 4 y.toNat
  else (if y < 0 then "-" else "+") ++ padded 4 y.natAbs

def date (t : Instant) : String :=
  let c := Civil.ofDay t.day
  writeYear c.year ++ "-" ++ padded 2 c.month ++ "-" ++ padded 2 c.day

/-- A fraction in 0, 3, 6 or 9 digits, the fewest that keep it. -/
def writeFraction (nano : Nat) : String :=
  if nano = 0 then ""
  else if nano % 1000000 = 0 then "." ++ padded 3 (nano / 1000000)
  else if nano % 1000 = 0 then "." ++ padded 6 (nano / 1000)
  else "." ++ padded 9 nano

/-- The form of RFC 3339 in universal time. -/
def write (t : Instant) : String :=
  let second := t.second % 60 + t.nano / 1000000000
  t.date ++ "T" ++ padded 2 (t.second / 3600) ++ ":" ++ padded 2 (t.second / 60 % 60) ++ ":" ++
    padded 2 second ++ writeFraction (t.nano % 1000000000) ++ "Z"

end Instant

end MangaReader.Time

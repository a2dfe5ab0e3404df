import MangaReader.Toml.Value

/-!
# Dates and times in a TOML document

* `Moment.date`, `Moment.time`, `Moment.offset` : the parts.
* `Moment.parse` : a date, a time or both.
-/

namespace MangaReader.Toml.Moment

def digits? (count : Nat) (text : List Char) : Option (Nat × List Char) :=
  let ds := text.take count
  if ds.length = count && ds.all Char.isDigit then
    some (ds.foldl (fun n c => n * 10 + (c.toNat - 48)) 0, text.drop count)
  else none

def pair (low high : Nat) (text : List Char) : Parse Nat :=
  match digits? 2 text with
  | some (n, rest) => if low ≤ n ∧ n ≤ high then .found n rest else .absent text
  | none => .absent text

def padded (width n : Nat) : String :=
  let s := toString n
  "".pushn '0' (width - s.length) ++ s

def monthDays (year month : Nat) : Nat :=
  if month = 2 then
    if year % 4 = 0 ∧ (year % 100 ≠ 0 ∨ year % 400 = 0) then 29 else 28
  else if month ∈ [4, 6, 9, 11] then 30
  else 31

/-- A date. After the year and a dash, the rest has to follow. -/
def date (text : List Char) : Parse String :=
  match digits? 4 text with
  | some (year, '-' :: rest) =>
    (pair 1 12 rest).require.bind fun month rest =>
      (expect '-' rest).require.bind fun _ rest =>
        (pair 1 (monthDays year month) rest).require.map fun day =>
          padded 4 year ++ "-" ++ padded 2 month ++ "-" ++ padded 2 day
  | _ => .absent text

/-- The digits of a fraction, of which nine count; zeros at the end are not shown. -/
def fraction : List Char → String × List Char
  | '.' :: rest =>
    let ds := rest.takeWhile Char.isDigit
    if ds.isEmpty then ("", '.' :: rest)
    else
      let kept := ((ds.take 9).reverse.dropWhile (· = '0')).reverse
      (if kept.isEmpty then "" else "." ++ String.ofList kept, rest.dropWhile Char.isDigit)
  | rest => ("", rest)

/-- A time. After the hour and a colon, the rest has to follow. -/
def time (text : List Char) : Parse String :=
  (pair 0 23 text).bind fun hour rest =>
    (expect ':' rest).bind fun _ rest =>
      (pair 0 59 rest).require.bind fun minute rest =>
        (expect ':' rest).require.bind fun _ rest =>
          (pair 0 60 rest).require.bind fun second rest =>
            let (part, rest) := fraction rest
            .found (padded 2 hour ++ ":" ++ padded 2 minute ++ ":" ++ padded 2 second ++ part) rest

def offset : List Char → Parse String
  | c :: rest =>
    if c = 'Z' ∨ c = 'z' then .found "Z" rest
    else if c = '+' ∨ c = '-' then
      (pair 0 23 rest).require.bind fun hour rest =>
        (expect ':' rest).require.bind fun _ rest =>
          (pair 0 59 rest).require.map fun minute =>
            (if c = '-' ∧ (hour, minute) ≠ (0, 0) then "-" else "+") ++ padded 2 hour ++ ":" ++
              padded 2 minute
    else .absent (c :: rest)
  | [] => .absent []

def afterDate (shown : String) (text : List Char) : Parse String :=
  match text with
  | c :: rest =>
    if c = 'T' ∨ c = 't' ∨ c = ' ' then
      match time rest with
      | .found t rest =>
        match offset rest with
        | .found o rest => .found (shown ++ "T" ++ t ++ o) rest
        | .absent _ => .found (shown ++ "T" ++ t) rest
        | .broken rest => .broken rest
      | .absent _ => .found shown text
      | .broken rest => .broken rest
    else .found shown text
  | [] => .found shown []

/-- A date, a time or both. -/
def parse (text : List Char) : Parse String :=
  match (date text).bind afterDate with
  | .absent _ => time text
  | p => p

end MangaReader.Toml.Moment

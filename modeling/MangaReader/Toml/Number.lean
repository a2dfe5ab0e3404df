import MangaReader.Decimal.Shortest
import MangaReader.Toml.Value

/-!
# Numbers in a TOML document

* `Number.digits` : digits, between which underscores may stand.
* `Number.integer`, `Number.real` : whole numbers and numbers with a fraction or an exponent.
-/

namespace MangaReader.Toml.Number

def moreDigits (isDigit : Char → Bool) : List Char → Parse (List Char)
  | '_' :: c :: rest =>
    if isDigit c then (moreDigits isDigit rest).map (c :: ·) else .broken (c :: rest)
  | ['_'] => .broken []
  | c :: rest => if isDigit c then (moreDigits isDigit rest).map (c :: ·) else .found [] (c :: rest)
  | [] => .found [] []

def digits (isDigit : Char → Bool) : List Char → Parse (List Char)
  | c :: rest =>
    if isDigit c then (moreDigits isDigit rest).map (c :: ·) else .absent (c :: rest)
  | [] => .absent []

def sign : List Char → Bool × List Char
  | '-' :: rest => (true, rest)
  | '+' :: rest => (false, rest)
  | rest => (false, rest)

/-- Digits of which the first is a zero only if it is alone. -/
def wholeDigits : List Char → Parse (List Char)
  | '0' :: rest => .found ['0'] rest
  | rest => digits Char.isDigit rest

def value (base : Nat) (digits : List Char) : Nat :=
  digits.foldl (fun n c =>
    n * base +
      (if c.isDigit then c.toNat - 48 else if 'a' ≤ c then c.toNat - 87 else c.toNat - 55)) 0

def isHex (c : Char) : Bool := c.isDigit || ('a' ≤ c && c ≤ 'f') || ('A' ≤ c && c ≤ 'F')

def inBase (base : Nat) (isDigit : Char → Bool) (text rest : List Char) : Parse Int :=
  match digits isDigit rest with
  | .found ds rest =>
    if value base ds < 1 <<< 63 then .found (value base ds) rest else .broken text
  | .absent rest | .broken rest => .broken rest

/-- A whole number. It has to fit 64 bits with a sign. -/
def integer (text : List Char) : Parse Int :=
  match text with
  | '0' :: 'x' :: rest => inBase 16 isHex text rest
  | '0' :: 'o' :: rest => inBase 8 (fun c => '0' ≤ c && c ≤ '7') text rest
  | '0' :: 'b' :: rest => inBase 2 (fun c => c = '0' || c = '1') text rest
  | _ =>
    let (minus, rest) := sign text
    match wholeDigits rest with
    | .found ds rest =>
      let n : Int := if minus then -(value 10 ds : Int) else value 10 ds
      if -((1 <<< 63 : Nat) : Int) ≤ n ∧ n < (1 <<< 63 : Nat) then .found n rest else .broken text
    | .absent rest => .absent rest
    | .broken rest => .broken rest

/-- Numbers are shown in positional notation, whole ones without a point. -/
def layout : Decimal.Layout :=
  { positionalFrom := -400, positionalTo := 400, pointZero := false, signedExponent := false,
    nan := "NaN", infinity := "inf" }

/-- The number that a sign, digits, fraction digits and an exponent write, as it is shown; `none` if
it is too large. -/
def shown? (minus : Bool) (whole fraction : List Char) (exponent : Int) : Option String :=
  let mantissa := value 10 (whole ++ fraction)
  let exponent := exponent - fraction.length
  let x := Float.ofScientific mantissa (exponent < 0) (min exponent.natAbs 100000)
  if x.isInf && !minus then none else some (layout.float (if minus then -x else x))

def exponent : List Char → Parse Int
  | c :: rest =>
    if c = 'e' ∨ c = 'E' then
      let (minus, rest) := sign rest
      (digits Char.isDigit rest).require.map fun ds =>
        if minus then -(value 10 ds : Int) else value 10 ds
    else .absent (c :: rest)
  | [] => .absent []

/-- The fraction digits and the exponent at the start of a rest, at least one of which is there. -/
def tail : List Char → Parse (List Char × Int)
  | '.' :: rest =>
    (digits Char.isDigit rest).require.bind fun fraction rest =>
      match exponent rest with
      | .found e rest => .found (fraction, e) rest
      | .absent _ => .found (fraction, 0) rest
      | .broken rest => .broken rest
  | rest => (exponent rest).map fun e => ([], e)

def special (text : List Char) : Parse String :=
  let (minus, rest) := sign text
  if "inf".toList.isPrefixOf rest then .found (if minus then "-inf" else "inf") (rest.drop 3)
  else if "nan".toList.isPrefixOf rest then .found "NaN" (rest.drop 3)
  else .absent rest

def real (text : List Char) : Parse String :=
  let (minus, rest) := sign text
  let parts := (wholeDigits rest).bind fun whole rest => (tail rest).map fun t => (whole, t)
  match parts with
  | .found (whole, fraction, e) rest =>
    match shown? minus whole fraction e with
    | some shown => .found shown rest
    | none => .broken text
  | .absent _ => special text
  | .broken rest => .broken rest

end MangaReader.Toml.Number

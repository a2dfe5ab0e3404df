import MangaReader.Json.Cursor
import MangaReader.Decimal.Shortest

/-!
# JSON numbers

A number without point and exponent that fits 64 bits is an integer; every other one is a double.

* `Number.read` : the number at a cursor, with its value.
* `Number.skip` : the same text without its value, so that no number is out of range.
* `Number.layout` : how a double is written.
-/

namespace MangaReader.Json

/-- A number of a JSON text. Integers lie between `-2 ^ 63` and `2 ^ 64 - 1`. -/
inductive Number where
  | integer (n : Int)
  | float (x : Float)
  deriving Repr

namespace Number

/-- Doubles keep a point; exponents start below `1e-5` and from `1e16` on, and have a sign. -/
def layout : Decimal.Layout :=
  { positionalFrom := -5, positionalTo := 15, pointZero := true, signedExponent := true,
    nan := "NaN", infinity := "inf" }

def found : Number → Found
  | .integer n => .integer n
  | .float x => .float (layout.float x)

/-- Reads digits into a 64-bit word until it would overflow: the word and the digits left over. -/
def digitsInto (word : Nat) : List Char → Nat × List Char
  | [] => (word, [])
  | d :: rest =>
    let word' := word * 10 + (d.toNat - 48)
    if word' < 1 <<< 64 then digitsInto word' rest else (word, d :: rest)

def power (n : Nat) : Float := Float.ofScientific 1 false n

/-- A word times a power of ten, in steps of at most `1e308`; `none` if it is too large. -/
def scale (fuel : Nat) (x : Float) (exponent : Int) : Option Float :=
  if exponent.natAbs ≤ 308 then
    if 0 ≤ exponent then
      let y := x * power exponent.natAbs
      if y.isInf then none else some y
    else some (x / power exponent.natAbs)
  else if x == 0.0 then some x
  else if 0 ≤ exponent then none
  else match fuel with
    | 0 => some 0.0
    | fuel + 1 => scale fuel (x / power 308) (exponent + 308)

/-- The double of a sign, a word and a power of ten. -/
def ofParts (negative : Bool) (word : Nat) (exponent : Int) : Option Float :=
  (scale 4 word.toUInt64.toFloat exponent).map fun x => if negative then -x else x

/-- The digits of an exponent: its size, or the count of digits after which it leaves 31 bits. -/
def exponentDigits (value count : Nat) : List Char → Nat ⊕ Nat
  | [] => .inl value
  | d :: rest =>
    let value' := value * 10 + (d.toNat - 48)
    if value' ≤ 2147483647 then exponentDigits value' (count + 1) rest else .inr (count + 1)

def readExponent (negative : Bool) (word : Nat) (exponent : Int) (c : Cursor) :
    Except Fault (Number × Cursor) :=
  let (down, c) :=
    match c.rest with
    | '+' :: _ => (false, c.next)
    | '-' :: _ => (true, c.next)
    | _ => (false, c)
  let digits := c.rest.takeWhile Char.isDigit
  if digits.isEmpty then
    .error (c.faultAfter (if c.rest.isEmpty then .eofValue else .invalidNumber))
  else
    let after := c.advance digits.length
    match exponentDigits 0 0 digits with
    | .inl size =>
      match ofParts negative word (if down then exponent - size else exponent + size) with
      | some x => .ok (.float x, after)
      | none => .error (after.fault .numberOutOfRange)
    | .inr count =>
      if word ≠ 0 ∧ ¬ down then .error ((c.advance count).fault .numberOutOfRange)
      else .ok (.float (if negative then -0.0 else 0.0), after)

/-- What follows the digits before a point. `exponent` counts those that did not fit the word. -/
def readTail (negative : Bool) (word : Nat) (exponent : Nat) (c : Cursor) :
    Except Fault (Number × Cursor) :=
  match c.rest with
  | '.' :: _ =>
    let c := c.next
    let digits := c.rest.takeWhile Char.isDigit
    if digits.isEmpty then
      .error (c.faultAfter (if c.rest.isEmpty then .eofValue else .invalidNumber))
    else
      let (word, dropped) := digitsInto word digits
      let exponent := (exponent : Int) - ((digits.length : Int) - dropped.length)
      let c := c.advance digits.length
      match c.rest with
      | 'e' :: _ | 'E' :: _ => readExponent negative word exponent c.next
      | _ => finish word exponent c
  | 'e' :: _ | 'E' :: _ => readExponent negative word exponent c.next
  | _ =>
    if 0 < exponent then finish word exponent c
    else if negative then
      if 0 < word ∧ word ≤ 1 <<< 63 then .ok (.integer (-(word : Int)), c)
      else .ok (.float (-word.toUInt64.toFloat), c)
    else .ok (.integer word, c)
where
  /-- A double without an exponent part. -/
  finish (word : Nat) (exponent : Int) (c : Cursor) : Except Fault (Number × Cursor) :=
    match ofParts negative word exponent with
    | some x => .ok (.float x, c)
    | none => .error (c.fault .numberOutOfRange)

def read (c : Cursor) : Except Fault (Number × Cursor) :=
  let (negative, c) :=
    match c.rest with
    | '-' :: _ => (true, c.next)
    | _ => (false, c)
  match c.rest with
  | [] => .error (c.fault .eofValue)
  | '0' :: rest =>
    match rest with
    | d :: _ =>
      if d.isDigit then .error (c.next.faultAfter .invalidNumber) else readTail negative 0 0 c.next
    | [] => readTail negative 0 0 c.next
  | d :: _ =>
    if d.isDigit then
      let digits := c.rest.takeWhile Char.isDigit
      let (word, dropped) := digitsInto 0 digits
      readTail negative word dropped.length (c.advance digits.length)
    else .error (c.faultAfter .invalidNumber)

def skipDigits (c : Cursor) : Except Fault Cursor :=
  let digits := c.rest.takeWhile Char.isDigit
  if digits.isEmpty then .error (c.faultAfter .invalidNumber) else .ok (c.advance digits.length)

def skipExponent (c : Cursor) : Except Fault Cursor :=
  match c.rest with
  | 'e' :: _ | 'E' :: _ =>
    let c := c.next
    match c.rest with
    | '+' :: _ | '-' :: _ => skipDigits c.next
    | _ => skipDigits c
  | _ => .ok c

def skip (c : Cursor) : Except Fault Cursor := do
  let c :=
    match c.rest with
    | '-' :: _ => c.next
    | _ => c
  let c ←
    match c.rest with
    | '0' :: d :: _ => if d.isDigit then .error (c.next.faultAfter .invalidNumber) else .ok c.next
    | _ => skipDigits c
  let c ←
    match c.rest with
    | '.' :: _ => skipDigits c.next
    | _ => .ok c
  skipExponent c

end Number

end MangaReader.Json

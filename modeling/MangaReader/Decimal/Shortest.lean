/-!
# The fewest digits that read back

* `Dyadic` : a positive number `mantissa * 2 ^ exponent` as a double holds it.
* `Dyadic.rounds d` : whether a decimal rounds to the double, in exact arithmetic.
* `shortest x` : of the decimals that round to `x`, one with the fewest digits; of two with as many
  digits the nearer, and the even one of two equally near.
-/

namespace MangaReader.Decimal

/-- The number `digits * 10 ^ exponent`. -/
structure Scaled where
  digits : Nat
  exponent : Int
  deriving DecidableEq, Repr

/-- A positive double: `mantissa * 2 ^ exponent`. -/
structure Dyadic where
  mantissa : Nat
  exponent : Int
  deriving DecidableEq, Repr

namespace Dyadic

/-- The magnitude of a finite double that is not zero. -/
def ofBits (bits : Nat) : Dyadic :=
  let fraction := bits % (1 <<< 52)
  let biased : Nat := (bits >>> 52) % (1 <<< 11)
  if biased = 0 then ⟨fraction, -1074⟩ else ⟨fraction + (1 <<< 52), (biased : Int) - 1075⟩

/-- Whether the double below is only half as far away as the double above. -/
def closeBelow (x : Dyadic) : Bool := x.mantissa == 1 <<< 52 && x.exponent > -1074

/-- Compares `a * 2 ^ p` with `b * 10 ^ q`. -/
def compareScaled (a : Nat) (p : Int) (b : Nat) (q : Int) : Ordering :=
  compare ((a <<< p.toNat) * Nat.pow 10 (-q).toNat)
    ((b <<< (-p).toNat) * Nat.pow 10 q.toNat)

/-- Whether a decimal rounds to the double, a tie going to the even mantissa. -/
def rounds (x : Dyadic) (d : Scaled) : Bool :=
  let low := if x.closeBelow then 4 * x.mantissa - 1 else 4 * x.mantissa - 2
  let high := 4 * x.mantissa + 2
  let even := x.mantissa % 2 == 0
  let below := compareScaled low (x.exponent - 2) d.digits d.exponent
  let above := compareScaled high (x.exponent - 2) d.digits d.exponent
  (below == .lt || (even && below == .eq)) && (above == .gt || (even && above == .eq))

/-- The exponent of ten of the leading digit. -/
def magnitude (x : Dyadic) : Int :=
  let scaled := ((x.mantissa * Nat.pow 10 400) <<< x.exponent.toNat) >>> (-x.exponent).toNat
  ((Nat.repr scaled).length : Int) - 401

/-- The largest multiple of `10 ^ q` that is not above the double. -/
def floorAt (x : Dyadic) (q : Int) : Nat :=
  (x.mantissa <<< x.exponent.toNat) * Nat.pow 10 (-q).toNat /
    (Nat.pow 10 q.toNat <<< (-x.exponent).toNat)

/-- Of the two decimals next to the double on a grid, the one to print, if one rounds to it. -/
def onGrid (x : Dyadic) (q : Int) : Option Scaled :=
  let low := x.floorAt q
  let down : Scaled := ⟨low, q⟩
  let up : Scaled := ⟨low + 1, q⟩
  match x.rounds down, x.rounds up with
  | true, true =>
    match compareScaled (2 * x.mantissa) x.exponent (2 * low + 1) q with
    | .lt => some down
    | .gt => some up
    | .eq => some (if low % 2 == 0 then down else up)
  | true, false => some down
  | false, true => some up
  | false, false => none

end Dyadic

/-- The shortest decimal that rounds to a double, from grids of one digit to grids of 17. -/
def shortest (x : Dyadic) : Scaled :=
  let top := x.magnitude
  ((List.range 17).findSome? fun (n : Nat) => x.onGrid (top - (n : Int))).getD
    ⟨x.floorAt (top - 16), top - 16⟩

structure Layout where
  /-- The exponents of the leading digit that are written without an exponent part. -/
  positionalFrom : Int
  positionalTo : Int
  /-- Whether a whole number keeps a point and a zero. -/
  pointZero : Bool
  /-- Whether a positive exponent has a sign. -/
  signedExponent : Bool
  /-- The texts of what is not a number and of the infinite. -/
  nan : String
  infinity : String
  deriving DecidableEq, Repr

namespace Layout

def scaled (l : Layout) (d : Scaled) : String :=
  let digits := Nat.repr d.digits
  let lead := d.exponent + (digits.length : Int) - 1
  if l.positionalFrom ≤ lead ∧ lead ≤ l.positionalTo then
    if 0 ≤ d.exponent then
      digits ++ "".pushn '0' d.exponent.toNat ++ (if l.pointZero then ".0" else "")
    else if 0 ≤ lead then
      let whole := lead.toNat + 1
      String.ofList (digits.toList.take whole) ++ "." ++ String.ofList (digits.toList.drop whole)
    else "0." ++ "".pushn '0' (-lead - 1).toNat ++ digits
  else
    let first := String.ofList (digits.toList.take 1)
    let others := String.ofList (digits.toList.drop 1)
    first ++ (if others.isEmpty then "" else "." ++ others) ++ "e" ++
      (if lead < 0 then "-" else if l.signedExponent then "+" else "") ++ toString lead.natAbs

def float (l : Layout) (x : Float) : String :=
  if x.isNaN then l.nan
  else
    let bits := x.toBits.toNat
    let sign := if bits >>> 63 = 1 then "-" else ""
    let magnitude := bits % (1 <<< 63)
    if x.isInf then sign ++ l.infinity
    else if magnitude = 0 then sign ++ (if l.pointZero then "0.0" else "0")
    else
      let d := shortest (Dyadic.ofBits magnitude)
      sign ++ l.scaled (strip d.exponent (Nat.repr d.digits).length d.digits)
where
  /-- Moves zeros at the end of the digits into the exponent. -/
  strip (exponent : Int) : Nat → Nat → Scaled
    | 0, digits => ⟨digits, exponent⟩
    | fuel + 1, digits =>
      if digits % 10 = 0 ∧ digits ≠ 0 then strip (exponent + 1) fuel (digits / 10)
      else ⟨digits, exponent⟩

end Layout

end MangaReader.Decimal

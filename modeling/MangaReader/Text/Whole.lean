/-!
# Whole numbers as text

* `natural?` : a number that is not negative, below a bound.
* `integer?` : a number of 64 bits that may be negative.
-/

namespace MangaReader.Text

def digits? (text : List Char) : Option Nat :=
  if !text.isEmpty && text.all Char.isDigit then
    some (text.foldl (fun n c => 10 * n + (c.toNat - '0'.toNat)) 0)
  else none

/-- A number below a bound; a plus sign may stand before its digits. -/
def natural? (bound : Nat) (text : String) : Option Nat :=
  (digits? (match text.toList with
    | '+' :: rest => rest
    | rest => rest)).filter (· < bound)

/-- A number of 64 bits; a sign may stand before its digits. -/
def integer? (text : String) : Option Int :=
  match text.toList with
  | '-' :: rest => ((digits? rest).filter (· ≤ 1 <<< 63)).map fun n => -(n : Int)
  | _ => (natural? (1 <<< 63) text).map fun n => (n : Int)

end MangaReader.Text

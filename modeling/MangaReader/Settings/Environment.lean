import MangaReader.Settings.Datum
import MangaReader.Text.Ascii
import MangaReader.Text.Blank
import MangaReader.Toml.Number

/-!
# Settings in the environment

A variable whose name starts with `MANGAVIEW_`, in any case, sets what the rest of its name leads
to; two underscores lead into a table. Its value is a number, a truth value, a list, a table or a
text.

* `Environment`, `Environment.get?` : the variables.
* `Environment.datum` : what a value stands for.
* `Environment.settings` : what the variables set.
-/

namespace MangaReader

abbrev Environment := List (String × String)

namespace Environment

def get? (env : Environment) (name : String) : Option String := env.lookup name

/-! ## Values -/

def isBlank (c : Char) : Bool := c ∈ [' ', '\t', '\n', '\x0c', '\r']

def skipBlank (text : List Char) : List Char := text.dropWhile isBlank

def whole? (text : List Char) : Option Numeral :=
  let digits? (ds : List Char) : Option Nat :=
    if !ds.isEmpty && ds.all Char.isDigit then some (Toml.Number.value 10 ds) else none
  match text with
  | '-' :: ds => (digits? ds).bind fun n =>
    if n ≤ 1 <<< 127 then some (.signed (-(n : Int))) else none
  | '+' :: ds => (digits? ds).bind fun n => if n < 1 <<< 128 then some (.unsigned n) else none
  | ds => (digits? ds).bind fun n => if n < 1 <<< 128 then some (.unsigned n) else none

/-- A number with a point. A short one is held with less precision. -/
def real? (text : List Char) : Option Numeral :=
  let (minus, rest) := Toml.Number.sign text
  let wholeDigits := rest.takeWhile Char.isDigit
  match rest.dropWhile Char.isDigit with
  | '.' :: rest =>
    let fraction := rest.takeWhile Char.isDigit
    if wholeDigits.isEmpty && fraction.isEmpty then none
    else
      let exponent? := match rest.dropWhile Char.isDigit with
        | [] => some (0 : Int)
        | e :: rest =>
          let (down, ds) := Toml.Number.sign rest
          if (e = 'e' || e = 'E') && !ds.isEmpty && ds.all Char.isDigit then
            let n : Int := min (Toml.Number.value 10 ds) 100000
            some (if down then -n else n)
          else none
      exponent?.map fun exponent =>
        let mantissa := Toml.Number.value 10 (wholeDigits ++ fraction)
        let exponent : Int := exponent - (fraction.length : Int)
        let x :=
          if text.length ≤ 7 then
            (Float32.ofScientific mantissa (exponent < 0) exponent.natAbs).toFloat
          else Float.ofScientific mantissa (exponent < 0) exponent.natAbs
        .real (Toml.Number.layout.float (if minus then -x else x))
  | _ => none

def plain (text : List Char) : Datum :=
  let text := Text.trim text
  if text = "true".toList then .flag .environment true
  else if text = "false".toList then .flag .environment false
  else
    match if text.contains '.' then real? text else whole? text with
    | some n => .number .environment n
    | none => .text .environment (String.ofList text)

def quoted (fuel : Nat) (text : List Char) : Option (String × List Char) :=
  match Toml.Text.basic fuel text with
  | .found s rest => some (String.ofList s, rest)
  | _ => none

def name? (text : List Char) : Option (String × List Char) :=
  match text with
  | '"' :: rest => quoted (rest.length + 1) rest
  | _ =>
    let name := text.takeWhile Toml.Document.isBare
    if name.isEmpty then none else some (String.ofList name, text.dropWhile Toml.Document.isBare)

/-- Things between commas, up to a closing bracket. A comma may stand before that. -/
def between {α : Type} (close : Char) (one : List Char → Option (α × List Char)) :
    Nat → List Char → Option (List α × List Char)
  | 0, _ => none
  | fuel + 1, text =>
    if text.head? = some close then some ([], text.drop 1)
    else
      match one (skipBlank text) with
      | none => none
      | some (a, rest) =>
        match skipBlank rest with
        | ',' :: rest => (between close one fuel rest).map fun (as, rest) => (a :: as, rest)
        | c :: rest => if c = close then some ([a], rest) else none
        | [] => none

/-- The value at the start of a text, with so many lists and tables within each other. -/
def value : Nat → List Char → Option (Datum × List Char)
  | 0, _ => none
  | depth + 1, text =>
    match text with
    | '"' :: rest =>
      (quoted (rest.length + 1) rest).map fun (s, rest) => (.text .environment s, rest)
    | '\'' :: c :: '\'' :: rest => some (.character .environment c, rest)
    | '\'' :: _ => none
    | '[' :: rest =>
      (between ']' (value depth) (rest.length + 1) rest).map fun (items, rest) =>
        (.list .environment items, rest)
    | '\x7b' :: rest =>
      let member (text : List Char) : Option ((String × Datum) × List Char) :=
        match name? text with
        | none => none
        | some (name, rest) =>
          match skipBlank rest with
          | '=' :: rest => (value depth (skipBlank rest)).map fun (d, rest) => ((name, d), rest)
          | _ => none
      (between '\x7d' member (rest.length + 1) rest).map fun (members, rest) =>
        (.table .environment (members.foldl (fun ms m => insertNamed m.1 m.2 ms) []), rest)
    | _ =>
      let isPlain (c : Char) : Bool := !(c ∈ [',', '[', ']', '\x7b', '\x7d'])
      some (plain (text.takeWhile isPlain), text.dropWhile isPlain)

/-- What a value stands for; if it cannot be read, it is a text. -/
def datum (text : String) : Datum :=
  let chars := skipBlank text.toList
  match value (chars.length + 1) chars with
  | some (d, rest) => if (skipBlank rest).isEmpty then d else .text .environment text
  | none => .text .environment text

/-! ## Names -/

/-- What the names of the variables that set something start with. -/
def mark : String := "MANGAVIEW_"

/-- A name with a dot for every two underscores. -/
def dotted : List Char → List Char
  | '_' :: '_' :: rest => '.' :: dotted rest
  | c :: rest => c :: dotted rest
  | [] => []

/-- The path that the name of a variable leads to. -/
def path? (name : String) : Option (List String) :=
  let name := Text.trim name.toList
  if Text.sameAscii (String.ofList (name.take mark.length)) mark then
    let keys := (dotted (Text.trim (name.drop mark.length))).splitOn '.'
    let path := keys.map fun key => Text.lowerAscii (String.ofList key)
    if path.contains "" then none else some path
  else none

def nest (path : List String) (d : Datum) : Datum :=
  path.foldr (fun name d => .table .environment [(name, d)]) d

def settings (env : Environment) : Datum :=
  env.foldl (fun d p =>
    match path? p.1 with
    | some path => d.merge (nest path (datum p.2))
    | none => d) (.table .environment [])

end Environment

end MangaReader

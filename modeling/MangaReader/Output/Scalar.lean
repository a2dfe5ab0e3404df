import MangaReader.Toml.Number

/-!
# Texts in YAML

A text is written plainly if it would be read as the same text, else in quotes or, with its lines
below each other, as a block.

* `Scalar.Style`, `Scalar.style` : the ways to write a text, and the one that is taken.
* `Scalar.write` : a text as it stands in a document.
-/

namespace MangaReader.Output.Scalar

inductive Style where
  | plain
  | single
  | double
  | block
  deriving DecidableEq, Repr

/-! ## Texts that would be read as something else -/

/-- Whether a text is zeros and other digits, which write no number. -/
def isZeroed (text : List Char) : Bool :=
  match (Toml.Number.sign text).2 with
  | '0' :: c :: rest => (c :: rest).all Char.isDigit
  | _ => false

def fits (base limit : Nat) (isDigit : Char → Bool) (digits : List Char) : Bool :=
  !digits.isEmpty && digits.all isDigit && Toml.Number.value base digits ≤ limit

/-- Whether a text writes a whole number of 128 bits. -/
def isWhole (text : List Char) : Bool :=
  let (minus, rest) := Toml.Number.sign text
  let limit := if minus then 1 <<< 127 else (1 <<< 128) - 1
  match rest with
  | '0' :: 'x' :: digits => fits 16 limit Toml.Number.isHex digits
  | '0' :: 'o' :: digits => fits 8 limit (fun c => '0' ≤ c && c ≤ '7') digits
  | '0' :: 'b' :: digits => fits 2 limit (fun c => c = '0' || c = '1') digits
  | digits => !isZeroed text && fits 10 limit Char.isDigit digits

/-- Whether `n · 10^exponent` is less than all numbers that are too large for 64 bits. -/
def isFinite (n : Nat) (exponent : Int) : Bool :=
  let size : Int := (Nat.toDigits 10 n).length + exponent
  n = 0 || size ≤ 0 ||
    (size ≤ 310 && n * Nat.pow 10 exponent.toNat <
      ((1 <<< 1024) - (1 <<< 970)) * Nat.pow 10 (-exponent).toNat)

def isReal (text : List Char) : Bool :=
  let unsigned := (Toml.Number.sign text).2
  let infinite := [".inf", ".Inf", ".INF"].any (·.toList = unsigned)
  let noNumber := [".nan", ".NaN", ".NAN"].any (·.toList = text)
  let whole := unsigned.takeWhile Char.isDigit
  let rest := unsigned.dropWhile Char.isDigit
  let (fraction, rest) := match rest with
    | '.' :: rest => (rest.takeWhile Char.isDigit, rest.dropWhile Char.isDigit)
    | rest => ([], rest)
  let exponent? : Option Int := match rest with
    | [] => some 0
    | e :: rest =>
      let (down, digits) := Toml.Number.sign rest
      if (e = 'e' || e = 'E') && !digits.isEmpty && digits.all Char.isDigit then
        let n : Int := Toml.Number.value 10 digits
        some (if down then -n else n)
      else none
  infinite || noNumber ||
    (!isZeroed text && !(whole.isEmpty && fraction.isEmpty) && exponent?.any fun e =>
      isFinite (Toml.Number.value 10 (whole ++ fraction)) (e - fraction.length))

/-- Whether a text would be read as something else: nothing, a truth value or a number. -/
def isMistakable (text : List Char) : Bool :=
  ["", "null", "Null", "NULL", "~", "true", "True", "TRUE", "false", "False", "FALSE"].any
      (·.toList = text) ||
    isZeroed text || isWhole text || isReal text

/-! ## What a text is made of -/

def isBreak (c : Char) : Bool := c ∈ ['\n', '\r', '\x85', '\u2028', '\u2029']

def isBlank : Option Char → Bool
  | none => true
  | some c => c = ' ' || c = '\t' || isBreak c

def isPrintable (c : Char) : Bool :=
  c = '\n' || (' ' ≤ c && c ≤ '~') ||
    ('\xa0' ≤ c && c ≤ '\uffff' && !(c ∈ ['\ufeff', '\ufffe', '\uffff']))

def indicators : List Char := "#,[]\x7b\x7d&*!|>'\"%@\x60".toList

/-- Whether a text has a character with a meaning, the character before a part of it given. -/
def hasMeaning (before : Option Char) : List Char → Bool
  | [] => false
  | c :: rest =>
    let here :=
      if before = none then
        c ∈ indicators || (c ∈ ['?', ':', '-'] && isBlank rest.head?)
      else (c = ':' && isBlank rest.head?) || (c = '#' && isBlank before)
    here || hasMeaning (some c) rest

def hasPair (p : Char → Char → Bool) (text : List Char) : Bool :=
  (text.zip (text.drop 1)).any fun (a, b) => p a b

/-- Whether a text can be written plainly, quoted once, or as a block. -/
def allows (text : List Char) : Style → Bool
  | .plain =>
    !text.any isBreak && text.all isPrintable &&
    text.head? ≠ some ' ' && text.getLast? ≠ some ' ' &&
      !hasMeaning none text && text.take 3 ≠ "---".toList && text.take 3 ≠ "...".toList
  | .single =>
    text.all isPrintable && !hasPair (fun a b => isBreak a && b = ' ') text &&
      !hasPair (fun a b => a = ' ' && isBreak b) text
  | .block =>
    text.all isPrintable && text.getLast? ≠ some ' ' &&
      !hasPair (fun a b => a = ' ' && isBreak b) text
  | .double => true

/-- The way that a text is written, where a block may stand or not. -/
def style (blocks : Bool) (text : List Char) : Style :=
  if text.contains '\n' then
    if blocks && allows text .block then .block else .double
  else if !blocks && text.any isBreak then .double
  else if allows text .plain && !isMistakable text then .plain
  else if allows text .single then .single
  else .double

/-! ## Writing -/

def hex (width n : Nat) : List Char :=
  let digits := (Nat.toDigits 16 n).map Char.toUpper
  List.replicate (width - digits.length) '0' ++ digits

def inDouble (c : Char) : List Char :=
  match c with
  | '\x00' => "\\0".toList
  | '\x07' => "\\a".toList
  | '\x08' => "\\b".toList
  | '\t' => "\\t".toList
  | '\n' => "\\n".toList
  | '\x0b' => "\\v".toList
  | '\x0c' => "\\f".toList
  | '\r' => "\\r".toList
  | '\x1b' => "\\e".toList
  | '"' => "\\\"".toList
  | '\\' => "\\\\".toList
  | '\x85' => "\\N".toList
  | '\u2028' => "\\L".toList
  | '\u2029' => "\\P".toList
  | _ =>
    if isPrintable c then [c]
    else if c.toNat ≤ 0xff then '\\' :: 'x' :: hex 2 c.toNat
    else if c.toNat ≤ 0xffff then '\\' :: 'u' :: hex 4 c.toNat
    else '\\' :: 'U' :: hex 8 c.toNat

/-- Text between single quotes, indented after the end of a line. -/
def inSingle (indent : Nat) (broken : Bool) : List Char → List Char
  | [] => if broken then List.replicate indent ' ' else []
  | c :: rest =>
    if isBreak c then c :: inSingle indent true rest
    else
      (if broken && c ≠ ' ' then List.replicate indent ' ' else []) ++
        (if c = '\'' then ['\'', '\''] else [c]) ++ inSingle indent (broken && c = ' ') rest

def inBlock (indent : Nat) (broken : Bool) : List Char → List Char
  | [] => []
  | c :: rest =>
    if isBreak c then c :: inBlock indent true rest
    else (if broken then List.replicate indent ' ' else []) ++ c :: inBlock indent false rest

/-- What stands at the start of a block: a number if it starts with a blank, and whether lines that
end it count. -/
def blockMark (text : List Char) : List Char :=
  let leading := match text with
    | c :: _ => if c = ' ' || isBreak c then ['2'] else []
    | [] => []
  let ending := match text.reverse with
    | c :: before =>
      if !isBreak c then ['-']
      else match before with
        | [] => ['+']
        | b :: _ => if isBreak b then ['+'] else []
    | [] => ['-']
  '|' :: leading ++ ending

/-- A text as it stands in a document, where a block may stand or not; the lines of a block have an
indentation. -/
def write (blocks : Bool) (indent : Nat) (text : List Char) : List Char :=
  match style blocks text with
  | .plain => text
  | .single => '\'' :: inSingle indent false text ++ ['\'']
  | .double => '"' :: text.flatMap inDouble ++ ['"']
  | .block => blockMark text ++ '\n' :: inBlock indent true text

end MangaReader.Output.Scalar

import MangaReader.Toml.Value

/-!
# Texts in a TOML document

A basic text stands in double quotes and has escapes; a literal text stands in single quotes and has
none. Three quotes start a text that may go over several lines.

* `Text.basic`, `Text.basicLines`, `Text.literal`, `Text.literalLines` : the four kinds, after the
  opening quotes.
* `Text.parse` : a text of any kind.
* `Text.written` : how a text is written.
-/

namespace MangaReader.Toml.Text

def isBasic (c : Char) : Bool := isComment c && c ≠ '"' && c ≠ '\\'

def isLiteral (c : Char) : Bool := isComment c && c ≠ '\''

/-! ## Escapes -/

def hexDigit? (c : Char) : Option Nat :=
  if '0' ≤ c ∧ c ≤ '9' then some (c.toNat - 48)
  else if 'a' ≤ c ∧ c ≤ 'f' then some (c.toNat - 87)
  else if 'A' ≤ c ∧ c ≤ 'F' then some (c.toNat - 55)
  else none

def hex? (digits : List Char) : Option Nat :=
  digits.foldlM (fun n c => (hexDigit? c).map (n * 16 + ·)) 0

def char? (n : Nat) : Option Char :=
  if n.isValidChar then some (Char.ofNat n) else none

def numbered (count : Nat) (text : List Char) : Parse Char :=
  if text.length < count then .broken text
  else
    match (hex? (text.take count)).bind char? with
    | some c => .found c (text.drop count)
    | none => .broken text

def escape : List Char → Parse Char
  | 'b' :: rest => .found '\x08' rest
  | 't' :: rest => .found '\t' rest
  | 'n' :: rest => .found '\n' rest
  | 'f' :: rest => .found '\x0c' rest
  | 'r' :: rest => .found '\r' rest
  | '"' :: rest => .found '"' rest
  | '\\' :: rest => .found '\\' rest
  | 'u' :: rest => numbered 4 rest
  | 'U' :: rest => numbered 8 rest
  | _ :: rest => .broken rest
  | [] => .absent []

/-! ## On one line -/

/-- The rest of a basic text. `fuel` bounds its length. -/
def basic : Nat → List Char → Parse (List Char)
  | 0, text => .broken text
  | _ + 1, '"' :: rest => .found [] rest
  | fuel + 1, '\\' :: rest =>
    match escape rest with
    | .found c rest => (basic fuel rest).map (c :: ·)
    | .absent _ => .broken ('\\' :: rest)
    | .broken rest => .broken rest
  | fuel + 1, c :: rest => if isBasic c then (basic fuel rest).map (c :: ·) else .broken (c :: rest)
  | _ + 1, [] => .broken []

def literal (text : List Char) : Parse (List Char) :=
  match text.dropWhile isLiteral with
  | '\'' :: rest => .found (text.takeWhile isLiteral) rest
  | rest => .broken rest

/-! ## On several lines -/

/-- What follows a backslash that ends a line, from the end of the line on. -/
def lineBreak? (text : List Char) : Option (List Char) := newline? (skipBlank text)

def skipLines : List Char → List Char
  | ' ' :: rest | '\t' :: rest | '\n' :: rest | '\r' :: '\n' :: rest => skipLines rest
  | rest => rest

/-- Whether a text of several lines can go on with something that is no quote. -/
def goesOn (isPlain : Char → Bool) (escapes : Bool) (text : List Char) : Bool :=
  match text with
  | [] => false
  | '\\' :: rest => if escapes then !rest.isEmpty else true
  | c :: _ => isPlain c || (newline? text).isSome

/-- What three quotes end: up to two more quotes belong to the text. -/
def closing (quote : Char) : List Char → Parse (List Char)
  | a :: b :: rest =>
    if a = quote ∧ b = quote then .found [quote, quote] rest
    else if a = quote then .found [quote] (b :: rest)
    else .found [] (a :: b :: rest)
  | [a] => if a = quote then .found [quote] [] else .found [] [a]
  | [] => .found [] []

/-- The rest of a text of several lines in a kind of quotes. `fuel` bounds its length. -/
def lines (quote : Char) (isPlain : Char → Bool) (escapes : Bool) :
    Nat → List Char → Parse (List Char)
  | 0, text => .broken text
  | _ + 1, [] => .broken []
  | fuel + 1, c :: rest =>
    let go (chars : List Char) (rest : List Char) : Parse (List Char) :=
      (lines quote isPlain escapes fuel rest).map (chars ++ ·)
    if c = quote then
      if [quote, quote].isPrefixOf rest then closing quote (rest.drop 2)
      else if goesOn isPlain escapes (rest.dropWhile (· = quote)) then go [c] rest
      else .broken (c :: rest)
    else if escapes && c = '\\' then
      match lineBreak? rest with
      | some rest => go [] (skipLines rest)
      | none =>
        match escape rest with
        | .found c rest => go [c] rest
        | .absent _ => .broken (c :: rest)
        | .broken rest => .broken rest
    else if isPlain c then go [c] rest
    else
      match newline? (c :: rest) with
      | some rest => go ['\n'] rest
      | none => .broken (c :: rest)

/-- A text of several lines, after its opening quotes. A line end right after them is left out. -/
def linesAfter (quote : Char) (isPlain : Char → Bool) (escapes : Bool) (text : List Char) :
    Parse (List Char) :=
  let text := (newline? text).getD text
  lines quote isPlain escapes (text.length + 1) text

def parse : List Char → Parse (List Char)
  | '"' :: '"' :: '"' :: rest => linesAfter '"' isBasic true rest
  | '"' :: rest => basic (rest.length + 1) rest
  | '\'' :: '\'' :: '\'' :: rest => linesAfter '\'' isLiteral false rest
  | '\'' :: rest => literal rest
  | rest => .absent rest

/-! ## Writing -/

inductive Style where
  | basic
  | basicLines
  | literal
  /-- Three single quotes, on one line. -/
  | literalTriple
  | literalLines
  deriving DecidableEq, Repr

def longestRun (c : Char) (run best : Nat) : List Char → Nat
  | [] => max run best
  | d :: rest =>
    if d = c then longestRun c (run + 1) best rest else longestRun c 0 (max run best) rest

/-- How a text is put in quotes. One with double quotes or backslashes is written literally if that
is possible, one with ends of lines on several lines. -/
def style (text : List Char) : Style :=
  let several := text.contains '\n'
  let singles := longestRun '\'' 0 0 text
  let literally := text.any (fun c => c = '"' || c = '\\') &&
    text.all (fun c => isComment c || c = '\n') && singles < 3 && text.getLast? ≠ some '\''
  if literally then
    if several then .literalLines else if 0 < singles then .literalTriple else .literal
  else if several then .basicLines else .basic

def fourDigits (n : Nat) : List Char :=
  let digit (n : Nat) : Char := if n < 10 then Char.ofNat (48 + n) else Char.ofNat (55 + n)
  ['0', '0', digit (n / 16 % 16), digit (n % 16)]

/-- One character of a basic text; `several` says that it goes over several lines. -/
def char (several : Bool) (c : Char) : List Char :=
  match c with
  | '\x08' => ['\\', 'b']
  | '\t' => ['\\', 't']
  | '\n' => if several then ['\n'] else ['\\', 'n']
  | '\x0c' => ['\\', 'f']
  | '\r' => ['\\', 'r']
  | '"' => ['\\', '"']
  | '\\' => ['\\', '\\']
  | _ => if c < ' ' ∨ c = '\x7f' then '\\' :: 'u' :: fourDigits c.toNat else [c]

def inStyle (text : List Char) : Style → List Char
  | .basic => '"' :: text.flatMap (char false) ++ ['"']
  | .basicLines => '"' :: '"' :: '"' :: '\n' :: text.flatMap (char true) ++ ['"', '"', '"']
  | .literal => '\'' :: text ++ ['\'']
  | .literalTriple => '\'' :: '\'' :: '\'' :: text ++ ['\'', '\'', '\'']
  | .literalLines => '\'' :: '\'' :: '\'' :: '\n' :: text ++ ['\'', '\'', '\'']

def written (text : List Char) : List Char := inStyle text (style text)

end MangaReader.Toml.Text

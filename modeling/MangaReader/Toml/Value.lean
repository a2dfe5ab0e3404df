import MangaReader.Text.Utf8

/-!
# Values of a TOML document

* `Toml.Value` : everything that a key can stand for.
* `Parse` : what comes of reading something at the start of a text.
* `Spot` : a place in a document, and `Spot.ofRest` : the place where a rest starts.
-/

namespace MangaReader.Toml

inductive Value where
  | text (s : String)
  | integer (n : Int)
  /-- A number with a fraction, as it is shown. -/
  | real (shown : String)
  | flag (b : Bool)
  /-- A date, a time or both, as they are shown. -/
  | moment (shown : String)
  | list (items : List Value)
  | table (members : List (String × Value))
  deriving Repr

inductive Parse (α : Type) where
  | found (a : α) (rest : List Char)
  /-- There is nothing of the kind; the rest is what was looked at last. -/
  | absent (rest : List Char)
  /-- There is something of the kind, and it goes wrong where the rest starts. -/
  | broken (rest : List Char)
  deriving Repr

namespace Parse

def bind {α β : Type} (p : Parse α) (next : α → List Char → Parse β) : Parse β :=
  match p with
  | .found a rest => next a rest
  | .absent rest => .absent rest
  | .broken rest => .broken rest

def map {α β : Type} (f : α → β) (p : Parse α) : Parse β := p.bind fun a rest => .found (f a) rest

def require {α : Type} : Parse α → Parse α
  | .absent rest => .broken rest
  | p => p

end Parse

def expect (c : Char) : List Char → Parse Unit
  | d :: rest => if d = c then .found () rest else .absent (d :: rest)
  | [] => .absent []

def isBlank (c : Char) : Bool := c = ' ' || c = '\t'

def skipBlank (text : List Char) : List Char := text.dropWhile isBlank

def isComment (c : Char) : Bool := c = '\t' || ' ' ≤ c && c ≠ '\x7f'

def newline? : List Char → Option (List Char)
  | '\n' :: rest => some rest
  | '\r' :: '\n' :: rest => some rest
  | _ => none

def lineEnd (text : List Char) : Parse Unit :=
  match newline? text, text with
  | some rest, _ => .found () rest
  | none, [] => .found () []
  | none, rest => .absent rest

/-- What follows the rest of a line on which nothing but a comment may stand. -/
def trailing (text : List Char) : Parse Unit :=
  match skipBlank text with
  | '#' :: rest => lineEnd (rest.dropWhile isComment)
  | rest => lineEnd rest

/-- A place in a document: a line and a column, both counted from one. -/
structure Spot where
  line : Nat
  column : Nat
  deriving DecidableEq, Repr

namespace Spot

def message (s : Spot) : String :=
  "TOML parse error at line " ++ toString s.line ++ ", column " ++ toString s.column

/-- The place where a rest of a document starts. The end of the text counts as the place after its
last character, on the line of that. A column counts characters, or bytes if the character at the
place takes more than one. -/
def ofRest (text rest : List Char) : Spot :=
  let before := text.take (text.length - rest.length)
  match rest with
  | [] =>
    let line := before.dropLast
    ⟨line.count '\n' + 1,
      (line.reverse.takeWhile (· ≠ '\n')).length + (if text.isEmpty then 1 else 2)⟩
  | c :: _ =>
    let line := before.reverse.takeWhile (· ≠ '\n')
    ⟨before.count '\n' + 1, (if c.toNat < 128 then line.length else Utf8.size line) + 1⟩

end Spot

end MangaReader.Toml

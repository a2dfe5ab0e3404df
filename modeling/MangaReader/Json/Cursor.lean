import MangaReader.Json.Fault

/-!
# A place in a JSON text

* `Cursor` : the characters still unread and the byte offset of the first of them.
* `Cursor.skipBlank` : past the four blank characters.
* `Cursor.fault`, `Cursor.faultAfter` : a cause reported here, or one byte on.
-/

namespace MangaReader.Json

/-- The characters still unread and the byte offset of the first of them. -/
structure Cursor where
  rest : List Char
  offset : Nat
  deriving DecidableEq, Repr

namespace Cursor

def start (text : List Char) : Cursor := ⟨text, 0⟩

def advance (c : Cursor) (n : Nat) : Cursor :=
  ⟨c.rest.drop n, (c.rest.take n).foldl (fun k ch => k + ch.utf8Size) c.offset⟩

def next (c : Cursor) : Cursor :=
  match c.rest with
  | [] => c
  | ch :: rest => ⟨rest, c.offset + ch.utf8Size⟩

def isBlank (ch : Char) : Bool := ch == ' ' || ch == '\n' || ch == '\t' || ch == '\r'

def skipBlank (c : Cursor) : Cursor := go c.offset c.rest
where
  /-- Every blank is one byte. -/
  go (offset : Nat) : List Char → Cursor
    | [] => ⟨[], offset⟩
    | ch :: rest => if isBlank ch then go (offset + 1) rest else ⟨ch :: rest, offset⟩

def fault (c : Cursor) (cause : Cause) : Fault := ⟨cause, c.offset⟩

/-- A cause reported after one more byte, if there is one. -/
def faultAfter (c : Cursor) (cause : Cause) : Fault :=
  ⟨cause, if c.rest.isEmpty then c.offset else c.offset + 1⟩

end Cursor

end MangaReader.Json

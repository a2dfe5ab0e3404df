import MangaReader.Text.Utf8

/-!
# Framing of an event stream

A feed body is a text of lines. Lines up to an empty one form a block; the values of its `data`
fields, joined by line feeds, are one message.

* `Line.ofBytes` : the text of one line, given its bytes without the line feed.
* `Decoder` : the bytes of the unfinished line and the values of the unfinished block.
* `Decoder.push`, `Decoder.feed` : one byte, and a chunk of them; the messages completed by it.
-/

namespace MangaReader.Feed

namespace Line

/-- The text of a line: one carriage return at its end is part of the line ending. -/
def ofBytes (bytes : List UInt8) : List Char :=
  Utf8.decode (if bytes.getLast? = some 13 then bytes.dropLast else bytes)

/-- The value of a line whose field name is `data`, less one leading space. A line without a colon
is a field name with an empty value; a line that starts with a colon is a comment. -/
def data? (line : List Char) : Option (List Char) :=
  if line.takeWhile (· != ':') = ['d', 'a', 't', 'a'] then
    match line.dropWhile (· != ':') with
    | ':' :: ' ' :: value => some value
    | ':' :: value => some value
    | _ => some []
  else none

end Line

/-- What a decoder remembers between two chunks. -/
structure Decoder where
  /-- The bytes of the unfinished line, the latest first. -/
  unread : List UInt8 := []
  /-- The `data` values of the unfinished block, in order. -/
  values : List (List Char) := []
  deriving DecidableEq, Repr

namespace Decoder

def pending (d : Decoder) : List UInt8 := d.unread.reverse

/-- A finished line: an empty one ends the block and completes a message if it has a value. -/
def line (d : Decoder) (text : List Char) : Decoder × Option String :=
  if text.isEmpty then
    ({ d with values := [] },
      if d.values.isEmpty then none else some (String.ofList (['\n'].intercalate d.values)))
  else
    match Line.data? text with
    | some value => ({ d with values := d.values ++ [value] }, none)
    | none => (d, none)

def push (d : Decoder) (b : UInt8) : Decoder × Option String :=
  if b = 10 then { d with unread := [] }.line (Line.ofBytes d.pending)
  else ({ d with unread := b :: d.unread }, none)

/-- A chunk of the body: the decoder after it and the messages it completes, in order. -/
def feed (d : Decoder) : List UInt8 → Decoder × List String
  | [] => (d, [])
  | b :: rest =>
    let (next, message) := d.push b
    let (last, messages) := next.feed rest
    (last, message.toList ++ messages)

end Decoder

end MangaReader.Feed

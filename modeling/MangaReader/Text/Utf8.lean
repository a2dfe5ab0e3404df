/-!
# UTF-8, read leniently

* `Utf8.encode s` : the bytes of a text.
* `Utf8.decode bytes` : the text of a byte sequence. Every longest prefix of a character that the
  next byte cannot continue, and every byte that starts no character, becomes one U+FFFD.

Decoding runs a machine over the bytes, one at a time. Between characters it is in state `between`;
inside one it knows the bits read so far, the number of bytes owed and the range of the next one.
-/

namespace MangaReader.Utf8

/-- The character that stands for bytes that are no character. -/
def replacement : Char := '\uFFFD'

inductive State where
  /-- Between two characters. -/
  | between
  /-- Inside a character: its bits so far, the bytes still owed and the range of the next byte. -/
  | inside (bits : Nat) (owed : Nat) (low high : UInt8)
  deriving DecidableEq, Repr

/-- The state after the first byte of a character, and the characters decided by it. -/
def first (b : UInt8) : List Char × State :=
  if b < 0x80 then ([Char.ofNat b.toNat], .between)
  else if 0xC2 ≤ b ∧ b ≤ 0xDF then ([], .inside (b.toNat % 32) 1 0x80 0xBF)
  else if b = 0xE0 then ([], .inside 0 2 0xA0 0xBF)
  else if b = 0xED then ([], .inside 13 2 0x80 0x9F)
  else if 0xE1 ≤ b ∧ b ≤ 0xEF then ([], .inside (b.toNat % 16) 2 0x80 0xBF)
  else if b = 0xF0 then ([], .inside 0 3 0x90 0xBF)
  else if 0xF1 ≤ b ∧ b ≤ 0xF3 then ([], .inside (b.toNat % 8) 3 0x80 0xBF)
  else if b = 0xF4 then ([], .inside 4 3 0x80 0x8F)
  else ([replacement], .between)

/-- One byte: the characters it decides and the state after it. A byte that cannot continue the
character begun is read again as a first byte. -/
def State.step : State → UInt8 → List Char × State
  | .between, b => first b
  | .inside bits owed low high, b =>
    if low ≤ b ∧ b ≤ high then
      let bits := bits * 64 + b.toNat % 64
      if owed ≤ 1 then ([Char.ofNat bits], .between) else ([], .inside bits (owed - 1) 0x80 0xBF)
    else
      let (out, next) := first b
      (replacement :: out, next)

def State.decode : State → List UInt8 → List Char
  | .between, [] => []
  | .inside .., [] => [replacement]
  | s, b :: rest => (s.step b).1 ++ (s.step b).2.decode rest

def decode (bytes : List UInt8) : List Char := State.between.decode bytes

def encode (text : List Char) : List UInt8 := text.flatMap String.utf8EncodeChar

def size (text : List Char) : Nat := text.foldl (fun n c => n + c.utf8Size) 0

end MangaReader.Utf8

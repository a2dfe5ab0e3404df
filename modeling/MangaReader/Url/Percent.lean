import MangaReader.Text.Utf8

/-!
# Percent encoding

* `Percent.encode keep text` : the bytes of all other characters written as a percent sign and two
  digits; which ASCII characters are kept depends on the part of a URL.
* `Percent.decode text` : the bytes that a text stands for.
-/

namespace MangaReader.Url.Percent

def digit (n : Nat) : Char := if n < 10 then Char.ofNat (48 + n) else Char.ofNat (55 + n)

def byte (b : UInt8) : List Char := ['%', digit (b.toNat / 16), digit (b.toNat % 16)]

def char (keep : Char → Bool) (c : Char) : List Char :=
  if keep c then [c] else (String.utf8EncodeChar c).flatMap byte

def encode (keep : Char → Bool) (text : List Char) : List Char := text.flatMap (char keep)

def isPlain (c : Char) : Bool := ' ' ≤ c && c ≤ '~'

def inWhole (c : Char) : Bool := isPlain c

def inFragment (c : Char) : Bool := isPlain c && c ∉ [' ', '"', '<', '>', '\x60']

def inQuery (c : Char) : Bool := isPlain c && c ∉ [' ', '"', '#', '<', '>']

def inWebQuery (c : Char) : Bool := inQuery c && c != '\''

def inPath (c : Char) : Bool := inQuery c && c ∉ ['?', '\x60', '\x7b', '\x7d']

def inUser (c : Char) : Bool :=
  inPath c && c ∉ ['/', ':', ';', '=', '@', '[', '\\', ']', '^', '|']

def value? (c : Char) : Option Nat :=
  if '0' ≤ c ∧ c ≤ '9' then some (c.toNat - 48)
  else if 'a' ≤ c ∧ c ≤ 'f' then some (c.toNat - 87)
  else if 'A' ≤ c ∧ c ≤ 'F' then some (c.toNat - 55)
  else none

/-- The bytes that a text stands for. A percent sign without two digits stands for itself. -/
def decode : List Char → List UInt8
  | [] => []
  | '%' :: a :: b :: rest =>
    match value? a, value? b with
    | some x, some y => (x * 16 + y).toUInt8 :: decode rest
    | _, _ => String.utf8EncodeChar '%' ++ decode (a :: b :: rest)
  | c :: rest => String.utf8EncodeChar c ++ decode rest

end MangaReader.Url.Percent

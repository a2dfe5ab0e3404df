import MangaReader.Text.Utf8

/-!
# Certificate files

A certificate file holds sections between lines `-----BEGIN label-----` and `-----END label-----`;
what stands outside is passed over. Every section with the label `CERTIFICATE` must be a
certificate.

* `Certificate.decode64` : the bytes that a section writes with 64 signs.
* `Certificate.isCertificate` : whether bytes have the outline of a certificate.
* `Certificate.accepts` : whether all certificates of a file can be used.
-/

namespace MangaReader.Certificate

def sign? (c : Char) : Option Nat :=
  if 'A' ≤ c ∧ c ≤ 'Z' then some (c.toNat - 65)
  else if 'a' ≤ c ∧ c ≤ 'z' then some (c.toNat - 71)
  else if '0' ≤ c ∧ c ≤ '9' then some (c.toNat + 4)
  else if c = '+' then some 62
  else if c = '/' then some 63
  else none

/-- The bytes of a text of 64 signs: four signs stand for three bytes, and the last four may end
with one or two equals signs. -/
def decode64 : List Char → Option (List Nat)
  | [] => some []
  | [a, b, '=', '='] => do
    let (a, b) := (← sign? a, ← sign? b)
    if b % 16 = 0 then some [a * 4 + b / 16] else none
  | [a, b, c, '='] => do
    let (a, b, c) := (← sign? a, ← sign? b, ← sign? c)
    if c % 4 = 0 then some [a * 4 + b / 16, b % 16 * 16 + c / 4] else none
  | a :: b :: c :: d :: rest => do
    let (a, b, c, d) := (← sign? a, ← sign? b, ← sign? c, ← sign? d)
    let rest ← decode64 rest
    some ((a * 4 + b / 16) :: (b % 16 * 16 + c / 4) :: (c % 4 * 64 + d) :: rest)
  | _ => none

/-- The first item of a list of tagged items: its tag, its content and what follows. -/
def item? : List Nat → Option (Nat × List Nat × List Nat)
  | tag :: size :: rest =>
    if size < 128 then
      if size ≤ rest.length then some (tag, rest.take size, rest.drop size) else none
    else
      let digits := size - 128
      let size := (rest.take digits).foldl (fun n b => n * 256 + b) 0
      let rest := rest.drop digits
      if 0 < digits ∧ size ≤ rest.length then some (tag, rest.take size, rest.drop size) else none
  | _ => none

/-- Whether bytes have the outline of a certificate: one sequence of a sequence, a sequence and a
string of bits. -/
def isCertificate (bytes : List Nat) : Bool :=
  match item? bytes with
  | some (48, content, []) =>
    match item? content with
    | some (48, _, rest) =>
      match item? rest with
      | some (48, _, rest) =>
        match item? rest with
        | some (3, _, []) => true
        | _ => false
      | _ => false
    | _ => false
  | _ => false

def lines (text : List Char) : List (List Char) :=
  (text.splitOn '\n').map fun line => (line.reverse.dropWhile (·.isWhitespace)).reverse

def label? (mark : String) (line : List Char) : Option (List Char) :=
  let start := ("-----" ++ mark ++ " ").toList
  let rest := line.drop start.length
  if start.isPrefixOf line && "-----".toList.isSuffixOf rest then some (rest.take (rest.length - 5))
  else none

def acceptsSection (label content : List Char) : Bool :=
  label != "CERTIFICATE".toList ||
    (match decode64 content with
    | some bytes => isCertificate bytes
    | none => false)

/-- Whether the sections among the lines can be used. `open?` is the label and the content so far of
the section that is open; a section that starts inside another takes its place. -/
def acceptsLines (open? : Option (List Char × List Char)) : List (List Char) → Bool
  | [] => open?.isNone
  | line :: rest =>
    if "-----BEGIN ".toList.isPrefixOf line then
      match label? "BEGIN" line with
      | some label => acceptsLines (some (label, [])) rest
      | none => false
    else
      match open? with
      | none => acceptsLines none rest
      | some (label, content) =>
        if label? "END" line = some label then
          acceptsSection label content && acceptsLines none rest
        else acceptsLines (some (label, content ++ line)) rest

def accepts (bytes : List UInt8) : Bool := acceptsLines none (lines (Utf8.decode bytes))

end MangaReader.Certificate

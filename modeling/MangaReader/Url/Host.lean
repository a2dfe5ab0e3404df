import MangaReader.Url.Fault
import MangaReader.Url.Percent
import MangaReader.Url.Punycode

/-!
# Hosts

* `Host.web` : the host of a web address, in the one way it is written: a domain in lower case, an
  address of four numbers or an address of eight.
* `Host.other` : the host of any other URL.
-/

namespace MangaReader.Url.Host

/-- The parts of a text between the occurrences of a mark. -/
def parts (mark : Char) : List Char → List (List Char)
  | [] => [[]]
  | c :: rest =>
    match parts mark rest with
    | [] => [[c]]
    | first :: others => if c = mark then [] :: first :: others else (c :: first) :: others

def number? (base : Nat) (text : List Char) : Option Nat :=
  text.foldlM (fun n c => do
    let d ← Percent.value? c
    if d < base then some (n * base + d) else none) 0

/-- One of the numbers of an address: decimal, octal after a zero, hexadecimal after `0x`. -/
def ipv4Number? : List Char → Option Nat
  | [] => none
  | '0' :: x :: rest =>
    if x = 'x' ∨ x = 'X' then number? 16 rest else number? 8 (x :: rest)
  | text => number? 10 text

/-- The parts of a domain without the empty one after a dot at its end. -/
def domainParts (domain : List Char) : List (List Char) :=
  let all := parts '.' domain
  if 1 < all.length ∧ all.getLast? = some [] then all.dropLast else all

/-- Whether the last part of a domain is a number, so that the domain must be an address. -/
def endsInNumber (domain : List Char) : Bool :=
  match (domainParts domain).getLast? with
  | none | some [] => false
  | some last => last.all Char.isDigit || (ipv4Number? last).isSome

def writeIpv4 (n : Nat) : List Char :=
  ".".toList.intercalate
    ([n >>> 24, (n >>> 16) % 256, (n >>> 8) % 256, n % 256].map fun b =>
      (toString b).toList)

/-- An address of one to four numbers, of which the last fills the bytes that are left. -/
def ipv4 (domain : List Char) : Except Fault (List Char) :=
  let all := domainParts domain
  match all.mapM ipv4Number? with
  | none => .error .invalidIpv4
  | some numbers =>
    let last := numbers.getLastD 0
    let bytes := numbers.dropLast
    if 4 < all.length ∨ bytes.any (255 < ·) ∨ 1 <<< (8 * (4 - bytes.length)) ≤ last then
      .error .invalidIpv4
    else
      .ok (writeIpv4 ((bytes.mapIdx fun i b => b <<< (8 * (3 - i))).foldl (· + ·) last))

/-- Two numbers for the four decimal bytes at the end of an address. -/
def embedded? (text : List Char) : Option (List Nat) := do
  let bytes ← (parts '.' text).mapM fun p =>
    if p.isEmpty ∨ (1 < p.length ∧ p.head? = some '0') ∨ 3 < p.length then none
    else (number? 10 p).filter (· < 256)
  match bytes with
  | [a, b, c, d] => some [a * 256 + b, c * 256 + d]
  | _ => none

def pieces? (text : List Char) : Option (List Nat) :=
  if text.isEmpty then some []
  else
    let all := parts ':' text
    match all.getLast? with
    | none => none
    | some last => do
      let front ← all.dropLast.mapM piece?
      if '.' ∈ last then some (front ++ (← embedded? last)) else some (front ++ [← piece? last])
where
  /-- One number of at most four digits. -/
  piece? (text : List Char) : Option Nat :=
    if text.isEmpty ∨ 4 < text.length then none else number? 16 text

def atGap? : List Char → Option (List Char × List Char)
  | ':' :: ':' :: rest => some ([], rest)
  | c :: rest => (atGap? rest).map fun (before, after) => (c :: before, after)
  | [] => none

/-- The first longest run of zeros that is longer than one: its start and length. -/
def longestZeros (pieces : List Nat) : Nat × Nat :=
  let runs := (List.range pieces.length).map fun i =>
    (i, ((pieces.drop i).takeWhile (· = 0)).length)
  runs.foldl (fun best run => if best.2 < run.2 then run else best) (0, 1)

/-- An address of eight numbers, the longest run of zeros left out. -/
def writeIpv6 (pieces : List Nat) : List Char :=
  let text (ps : List Nat) : List Char := [':'].intercalate (ps.map (Nat.toDigits 16))
  let (start, length) := longestZeros pieces
  let inner :=
    if length < 2 then text pieces
    else text (pieces.take start) ++ [':', ':'] ++ text (pieces.drop (start + length))
  '[' :: inner ++ [']']

/-- An address of eight numbers, some of which a pair of colons may stand for. -/
def ipv6 (text : List Char) : Except Fault (List Char) :=
  let pieces : Option (List Nat) :=
    match atGap? text with
    | none => (pieces? text).filter (·.length = 8)
    | some (before, after) => do
      let front ← pieces? before
      let back ← pieces? after
      let known := front.length + back.length
      if '.' ∉ before ∧ known < 8 then some (front ++ List.replicate (8 - known) 0 ++ back)
      else none
  match pieces with
  | some pieces => .ok (writeIpv6 pieces)
  | none => .error .invalidIpv6

def isForbiddenInHost (c : Char) : Bool :=
  c ∈ ['\x00', '\t', '\n', '\r', ' ', '#', '/', ':', '<', '>', '?', '@', '[', '\\', ']', '^', '|']

def isForbidden (c : Char) : Bool := c ≤ ' ' || c = '%' || c = '\x7f' || isForbiddenInHost c

/-- A character of a domain in the form in which domains are compared. Of the mapping of UTS 46 this
follows the part for ASCII and its full-width forms, for the ideographic full stops, for characters
that show nothing and for the capitals of Latin-1, Greek and Cyrillic. All else is kept as it is:
other capitals and compatibility forms are not mapped, nothing is composed (NFC), and the rules for
text from right to left are not checked. -/
def fold (c : Char) : List Char :=
  let n := c.toNat
  if n ∈ [0xAD, 0x34F, 0x200B, 0x2060, 0x2064, 0xFEFF] ∨ (0x180B ≤ n ∧ n ≤ 0x180D) ∨
      (0xFE00 ≤ n ∧ n ≤ 0xFE0F) then []
  else if n = 0x3002 ∨ n = 0xFF0E ∨ n = 0xFF61 then ['.']
  else if 0xFF01 ≤ n ∧ n ≤ 0xFF5E then [(Char.ofNat (n - 0xFEE0)).toLower]
  else if (0xC0 ≤ n ∧ n ≤ 0xDE ∧ n ≠ 0xD7) ∨ (0x391 ≤ n ∧ n ≤ 0x3A9) ∨ (0x410 ≤ n ∧ n ≤ 0x42F) then
    [Char.ofNat (n + 32)]
  else if 0x400 ≤ n ∧ n ≤ 0x40F then [Char.ofNat (n + 80)]
  else [c.toLower]

/-- Whether a character can stand in no domain that is written out. -/
def isUnwritable (c : Char) : Bool :=
  isForbidden c || c ∈ [Utf8.replacement, '\u200c', '\u200d'] || ('\x80' ≤ c && c ≤ '\x9f')

/-- Whether a label may stand in a domain. One that is written in ASCII for another label has to be
the one way to write that. -/
def isLabel (label : List Char) : Bool :=
  match label with
  | 'x' :: 'n' :: '-' :: '-' :: rest =>
    match Punycode.decode? rest with
    | none => false
    | some plain =>
      plain.any (fun c => 128 ≤ c.toNat) && plain.flatMap fold = plain && !plain.any isUnwritable &&
        Punycode.encode plain = label
  | _ => true

def domain (text : List Char) : Except Fault (List Char) :=
  let labels := parts '.' ((Utf8.decode (Percent.decode text)).flatMap fold)
  if labels.any fun label => label.any isUnwritable || !isLabel label then .error .invalidDomainName
  else .ok (['.'].intercalate (labels.map Punycode.encode))

def bracketed (text : List Char) : Except Fault (List Char) :=
  if text.getLast? = some ']' then ipv6 text.dropLast else .error .invalidIpv6

def web : List Char → Except Fault (List Char)
  | '[' :: rest => bracketed rest
  | text => do
    let name ← domain text
    if name.isEmpty then .error .emptyHost
    else if endsInNumber name then ipv4 name
    else .ok name

def other : List Char → Except Fault (List Char)
  | '[' :: rest => bracketed rest
  | text =>
    if text.any isForbiddenInHost then .error .invalidDomainCharacter
    else .ok (Percent.encode Percent.inWhole text)

end MangaReader.Url.Host

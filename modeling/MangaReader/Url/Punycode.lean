/-!
# Domain labels in ASCII

* `Punycode.encode` : a label with characters outside ASCII, written in ASCII after RFC 3492.
* `Punycode.decode?` : the label that such a text, without the mark at its start, stands for.
-/

namespace MangaReader.Url.Punycode

def digit (n : Nat) : Char := if n < 26 then Char.ofNat (97 + n) else Char.ofNat (22 + n)

/-- The least digit that goes on, at a place and a bias. -/
def threshold (place bias : Nat) : Nat := min 26 (max 1 (place - bias))

/-- The digits of a difference. `fuel` bounds their number. -/
def digits (bias : Nat) : Nat → Nat → Nat → List Char
  | 0, _, _ => []
  | fuel + 1, place, q =>
    let t := threshold place bias
    if q < t then [digit q]
    else digit (t + (q - t) % (36 - t)) :: digits bias fuel (place + 36) ((q - t) / (36 - t))

/-- Halves a difference until it is small; the bias gained by that. -/
def shrink : Nat → Nat → Nat → Nat × Nat
  | 0, delta, k => (delta, k)
  | fuel + 1, delta, k => if 455 < delta then shrink fuel (delta / 35) (k + 36) else (delta, k)

def adapt (delta count : Nat) (first : Bool) : Nat :=
  let delta := if first then delta / 700 else delta / 2
  let (delta, k) := shrink 16 (delta + delta / count) 0
  k + 36 * delta / (delta + 38)

structure State where
  written : List Char
  delta : Nat
  bias : Nat
  count : Nat

/-- One character of the label, when the characters of a code are due. -/
def step (basic code : Nat) (s : State) (c : Char) : State :=
  if c.toNat < code then { s with delta := s.delta + 1 }
  else if c.toNat = code then
    { written := s.written ++ digits s.bias 16 36 s.delta
      delta := 0
      bias := adapt s.delta (s.count + 1) (s.count == basic)
      count := s.count + 1 }
  else s

/-- The codes of a label in order, from one on. -/
def codes (label : List Char) (basic : Nat) : Nat → List Nat → State → State
  | _, [], s => s
  | next, code :: rest, s =>
    let s := { s with delta := s.delta + (code - next) * (s.count + 1) }
    let s := label.foldl (step basic code) s
    codes label basic (code + 1) rest { s with delta := s.delta + 1 }

def encode (label : List Char) : List Char :=
  let plain := label.filter fun c => c.toNat < 128
  if plain.length = label.length then label
  else
    let foreign := ((label.filter fun c => 128 ≤ c.toNat).map Char.toNat).mergeSort.eraseDups
    let start := plain ++ (if plain.isEmpty then [] else ['-'])
    ['x', 'n', '-', '-'] ++
      (codes label plain.length 128 foreign ⟨start, 0, 72, plain.length⟩).written

def digit? (c : Char) : Option Nat :=
  if 'a' ≤ c ∧ c ≤ 'z' then some (c.toNat - 97)
  else if '0' ≤ c ∧ c ≤ '9' then some (c.toNat - 22)
  else none

/-- The difference that digits write, and the text after them. -/
def difference? (bias : Nat) : Nat → Nat → List Char → Option (Nat × List Char)
  | _, _, [] => none
  | place, weight, c :: rest => do
    let d ← digit? c
    let t := threshold place bias
    if d < t then some (d * weight, rest)
    else
      let (more, rest) ← difference? bias (place + 36) (weight * (36 - t)) rest
      some (d * weight + more, rest)

/-- Puts the characters into a label that differences write. The last one is at `position` less one,
of a `code`; `fuel` bounds the number of the characters. -/
def insertAll? : Nat → Nat → Nat → Nat → Bool → List Char → List Char → Option (List Char)
  | _, _, _, _, _, label, [] => some label
  | 0, _, _, _, _, _, _ => none
  | fuel + 1, position, code, bias, first, label, text => do
    let (delta, rest) ← difference? bias 36 1 text
    let count := label.length + 1
    let total := position + delta
    let code := code + total / count
    let place := total % count
    if code < 0x110000 ∧ (Char.ofNat code).toNat = code then
      insertAll? fuel (place + 1) code (adapt delta count first) false
        (label.take place ++ Char.ofNat code :: label.drop place) rest
    else none

def decode? (text : List Char) : Option (List Char) :=
  let rest := (text.reverse.takeWhile (· ≠ '-')).reverse
  let plain := text.take (text.length - rest.length - 1)
  insertAll? rest.length 0 128 72 true plain rest

end MangaReader.Url.Punycode

import MangaReader.Json.Cursor

/-!
# JSON string literals

* `Literal.read` : the text of a literal whose opening quote has been read.
* `Literal.skip` : past such a literal; escapes need not name characters.
* `Literal.write` : the literal of a text.
-/

namespace MangaReader.Json.Literal

def hexDigit? (c : Char) : Option Nat :=
  if '0' ≤ c ∧ c ≤ '9' then some (c.toNat - 48)
  else if 'a' ≤ c ∧ c ≤ 'f' then some (c.toNat - 87)
  else if 'A' ≤ c ∧ c ≤ 'F' then some (c.toNat - 55)
  else none

def hex4? (a b c d : Char) : Option Nat := do
  let a ← hexDigit? a
  let b ← hexDigit? b
  let c ← hexDigit? c
  let d ← hexDigit? d
  pure (((a * 16 + b) * 16 + c) * 16 + d)

/-- The fault of four bytes that are no hexadecimal digits, or that are not there. -/
def hexFault (offset : Nat) (rest : List Char) : Fault :=
  let left := (rest.take 4).foldl (fun k ch => k + ch.utf8Size) 0
  if 4 ≤ left then ⟨.invalidEscape, offset + 4⟩ else ⟨.eofString, offset + left⟩

/-- The character of a one-letter escape. -/
def simple? : Char → Option Char
  | '"' => some '"'
  | '\\' => some '\\'
  | '/' => some '/'
  | 'b' => some '\x08'
  | 'f' => some '\x0c'
  | 'n' => some '\n'
  | 'r' => some '\r'
  | 't' => some '\t'
  | _ => none

/-- The text of a literal. `acc` holds the characters read so far, the latest first. -/
def readFrom (acc : List Char) (offset : Nat) : List Char → Except Fault (List Char × Cursor)
  | [] => .error ⟨.eofString, offset⟩
  | '"' :: rest => .ok (acc.reverse, ⟨rest, offset + 1⟩)
  | '\\' :: [] => .error ⟨.eofString, offset + 1⟩
  | '\\' :: 'u' :: a :: b :: c :: d :: rest =>
    match hex4? a b c d with
    | none => .error (hexFault (offset + 2) (a :: b :: c :: d :: rest))
    | some n =>
      if n < 0xD800 ∨ 0xE000 ≤ n then readFrom (Char.ofNat n :: acc) (offset + 6) rest
      else if 0xDC00 ≤ n then .error ⟨.loneSurrogate, offset + 6⟩
      else
        match rest with
        | [] => .error ⟨.eofString, offset + 6⟩
        | '\\' :: [] => .error ⟨.eofString, offset + 7⟩
        | '\\' :: 'u' :: a' :: b' :: c' :: d' :: rest' =>
          match hex4? a' b' c' d' with
          | none => .error (hexFault (offset + 8) (a' :: b' :: c' :: d' :: rest'))
          | some m =>
            if 0xDC00 ≤ m ∧ m < 0xE000 then
              readFrom (Char.ofNat (0x10000 + (n - 0xD800) * 0x400 + (m - 0xDC00)) :: acc)
                (offset + 12) rest'
            else .error ⟨.loneSurrogate, offset + 12⟩
        | '\\' :: 'u' :: short => .error (hexFault (offset + 8) short)
        | '\\' :: _ => .error ⟨.unfinishedSurrogate, offset + 8⟩
        | _ => .error ⟨.unfinishedSurrogate, offset + 7⟩
  | '\\' :: 'u' :: short => .error (hexFault (offset + 2) short)
  | '\\' :: e :: rest =>
    match simple? e with
    | some ch => readFrom (ch :: acc) (offset + 2) rest
    | none => .error ⟨.invalidEscape, offset + 2⟩
  | ch :: rest =>
    if ch.toNat < 0x20 then .error ⟨.controlCharacter, offset + 1⟩
    else readFrom (ch :: acc) (offset + ch.utf8Size) rest

def read (c : Cursor) : Except Fault (String × Cursor) :=
  (readFrom [] c.offset c.rest).map fun (text, after) => (String.ofList text, after)

def skipFrom (offset : Nat) : List Char → Except Fault Cursor
  | [] => .error ⟨.eofString, offset⟩
  | '"' :: rest => .ok ⟨rest, offset + 1⟩
  | '\\' :: [] => .error ⟨.eofString, offset + 1⟩
  | '\\' :: 'u' :: a :: b :: c :: d :: rest =>
    match hex4? a b c d with
    | none => .error (hexFault (offset + 2) (a :: b :: c :: d :: rest))
    | some _ => skipFrom (offset + 6) rest
  | '\\' :: 'u' :: short => .error (hexFault (offset + 2) short)
  | '\\' :: e :: rest =>
    match simple? e with
    | some _ => skipFrom (offset + 2) rest
    | none => .error ⟨.invalidEscape, offset + 2⟩
  | ch :: rest =>
    if ch.toNat < 0x20 then .error ⟨.controlCharacter, offset⟩
    else skipFrom (offset + ch.utf8Size) rest

def skip (c : Cursor) : Except Fault Cursor := skipFrom c.offset c.rest

def hexChar (n : Nat) : Char := if n < 10 then Char.ofNat (48 + n) else Char.ofNat (87 + n)

def writeChar (ch : Char) : List Char :=
  match ch with
  | '"' => ['\\', '"']
  | '\\' => ['\\', '\\']
  | '\x08' => ['\\', 'b']
  | '\x0c' => ['\\', 'f']
  | '\n' => ['\\', 'n']
  | '\r' => ['\\', 'r']
  | '\t' => ['\\', 't']
  | _ =>
    if ch.toNat < 0x20 then ['\\', 'u', '0', '0', hexChar (ch.toNat / 16), hexChar (ch.toNat % 16)]
    else [ch]

def write (text : String) : List Char := '"' :: text.toList.flatMap writeChar ++ ['"']

end MangaReader.Json.Literal

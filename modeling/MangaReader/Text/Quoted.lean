import MangaReader.Text.Hidden

/-!
# Texts in quotes, for messages

* `Quoted.char` : one character of a quoted text; hidden characters are written by number.
* `Quoted.ofText` : a text in double quotes.
-/

namespace MangaReader.Text.Quoted

def hex (n : Nat) : List Char := Nat.toDigits 16 n

def char (c : Char) : List Char :=
  match c with
  | '"' => ['\\', '"']
  | '\\' => ['\\', '\\']
  | '\t' => ['\\', 't']
  | '\r' => ['\\', 'r']
  | '\n' => ['\\', 'n']
  | '\x00' => ['\\', '0']
  | _ =>
    if ' ' ≤ c ∧ c ≤ '~' then [c]
    else if isHidden c then ['\\', 'u', '\x7b'] ++ hex c.toNat ++ ['\x7d']
    else [c]

def ofText (text : String) : String :=
  String.ofList ('"' :: text.toList.flatMap char ++ ['"'])

end MangaReader.Text.Quoted

import MangaReader.Toml.Document

/-!
# Writing a TOML document

* `Section` : a header and the plain keys after it.
* `Section.written`, `Section.document` : how sections are written.
-/

namespace MangaReader.Toml

structure Section where
  /-- The path in the header; the section of the document itself has none. -/
  path : List String
  pairs : List (String × Value)

namespace Section

def isLiteralKey (c : Char) : Bool := Text.isLiteral c && c.toNat < 256

def key (name : String) : List Char :=
  let text := name.toList
  if !text.isEmpty && text.all Document.isBare then text
  else if text.any (fun c => c = '"' || c = '\\') && text.all isLiteralKey then
    Text.inStyle text .literal
  else Text.inStyle text .basic

def value : Value → List Char
  | .text s => Text.written s.toList
  | .integer n => (toString n).toList
  | .real shown | .moment shown => shown.toList
  | .flag b => (if b then "true" else "false").toList
  | .list _ => ['[', ']']
  | .table _ => ['\x7b', '\x7d']

def line (p : String × Value) : List Char := key p.1 ++ " = ".toList ++ value p.2 ++ ['\n']

def head (path : List String) : List Char :=
  if path.isEmpty then [] else '[' :: ['.'].intercalate (path.map key) ++ [']', '\n']

def written (s : Section) : List Char := head s.path ++ s.pairs.flatMap line

/-- How sections are written: with a blank line between them. -/
def document (sections : List Section) : String :=
  String.ofList (['\n'].intercalate (sections.map written))

end Section

end MangaReader.Toml

import MangaReader.Text.Quoted

/-!
# Outlines

A nested value with the names of what it is made of, one part a line.

* `Outline` : words, texts, optional values, records and tables.
* `Outline.text` : an outline, four blanks a level.
-/

namespace MangaReader.Output

/-- A nested value with the names of what it is made of. -/
inductive Outline where
  | word (w : String)
  /-- A value within a name. -/
  | inside (name : String) (o : Outline)
  /-- A record of named fields. -/
  | record (name : String) (fields : List (String × Outline))

namespace Outline

def quoted (s : String) : Outline := .word (Text.Quoted.ofText s)

/-- A path in quotes; a single quote is marked too. -/
def path (s : String) : Outline :=
  .word (String.ofList ((Text.Quoted.ofText s).toList.flatMap fun c =>
    if c = '\'' then ['\\', '\''] else [c]))

def number (n : Nat) : Outline := .word (toString n)

def flag (b : Bool) : Outline := .word (toString b)

def optional {α : Type} (one : α → Outline) : Option α → Outline
  | none => .word "None"
  | some a => .inside "Some" (one a)

def indent (level : Nat) : String := String.ofList (List.replicate (4 * level) ' ')

mutual

def textAt (level : Nat) : Outline → String
  | .word w => w
  | .inside name o =>
    name ++ "(\n" ++ indent (level + 1) ++ textAt (level + 1) o ++ ",\n" ++ indent level ++ ")"
  | .record name [] => name ++ (if name.isEmpty then "" else " ") ++ "\x7b\x7d"
  | .record name fields =>
    name ++ (if name.isEmpty then "" else " ") ++ "\x7b\n" ++ fieldsAt (level + 1) fields ++
      indent level ++ "\x7d"

def fieldsAt (level : Nat) : List (String × Outline) → String
  | [] => ""
  | (name, o) :: rest =>
    indent level ++ name ++ ": " ++ textAt level o ++ ",\n" ++ fieldsAt level rest

end

def text (o : Outline) : String := textAt 0 o

end Outline

end MangaReader.Output

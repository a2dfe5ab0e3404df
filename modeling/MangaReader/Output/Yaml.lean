import MangaReader.Json.Print
import MangaReader.Output.Scalar
import MangaReader.Text.Utf8

/-!
# Values in YAML

* `Yaml.inline` : a value, one member or item a line.
* `Yaml.document` : a value as a document.
-/

namespace MangaReader.Output.Yaml

open Json (Value)

/-- What comes below some text, at an indentation. A text may end its line already. -/
def below (indent : Nat) (above rest : List Char) : List Char :=
  (if above.getLast? = some '\n' then above else above ++ ['\n']) ++
    List.replicate indent ' ' ++ rest

def stacked (indent : Nat) : List (List Char) → List Char
  | [] => []
  | first :: rest => rest.foldl (below indent) first

/-- Whether a name is short enough, and of one line, to stand before a colon. -/
def isSimple (name : List Char) : Bool :=
  !name.any Scalar.isBreak && Utf8.size name ≤ 128

/-- Where the value of a member stands. -/
inductive Place where
  /-- After the colon. -/
  | after
  /-- On the next line, at the indentation of the name. -/
  | level
  /-- On the next line, further in. -/
  | inside
  /-- On the next line, after a colon that stands there. -/
  | separate
  deriving DecidableEq, Repr

def placeOf (name : List Char) : Value → Place
  | .array (_ :: _) => if isSimple name then .level else .separate
  | .object (_ :: _) => if isSimple name then .inside else .separate
  | _ => if isSimple name then .after else .separate

def Place.indent (place : Place) (indent : Nat) : Nat :=
  if place = .level then indent else indent + 2

def Place.member (place : Place) (indent : Nat) (name value : List Char) : List Char :=
  match place with
  | .after => Scalar.write false (indent + 2) name ++ ':' :: ' ' :: value
  | .level => below indent (Scalar.write false (indent + 2) name ++ [':']) value
  | .inside => below (indent + 2) (Scalar.write false (indent + 2) name ++ [':']) value
  | .separate =>
    below indent ('?' :: ' ' :: Scalar.write true (indent + 2) name) (':' :: ' ' :: value)

mutual

def inline (indent : Nat) : Value → List Char
  | .null => "null".toList
  | .bool b => (toString b).toList
  | .number n => Value.numberText n
  | .string s => Scalar.write true indent s.toList
  | .array [] => ['[', ']']
  | .array (v :: rest) =>
    stacked indent (('-' :: ' ' :: inline (indent + 2) v) :: items indent rest)
  | .object [] => ['\x7b', '\x7d']
  | .object ((name, v) :: rest) =>
    let place := placeOf name.toList v
    stacked indent
      (place.member indent name.toList (inline (place.indent indent) v) :: members indent rest)

def items (indent : Nat) : List Value → List (List Char)
  | [] => []
  | v :: rest => ('-' :: ' ' :: inline (indent + 2) v) :: items indent rest

def members (indent : Nat) : List (String × Value) → List (List Char)
  | [] => []
  | (name, v) :: rest =>
    let place := placeOf name.toList v
    place.member indent name.toList (inline (place.indent indent) v) :: members indent rest

end

def document (v : Value) : String := String.ofList (below 0 (inline 0 v) [])

end MangaReader.Output.Yaml

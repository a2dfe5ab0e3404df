import MangaReader.Json.Value

/-!
# JSON values as text

* `Value.compact` : without blanks.
* `Value.pretty` : one item or member a line, indented by two spaces a level.
-/

namespace MangaReader.Json.Value

def numberText : Number → List Char
  | .integer n => (toString n).toList
  | .float x => (Number.layout.float x).toList

mutual

def compactText : Value → List Char
  | .null => ['n', 'u', 'l', 'l']
  | .bool true => ['t', 'r', 'u', 'e']
  | .bool false => ['f', 'a', 'l', 's', 'e']
  | .number n => numberText n
  | .string s => Literal.write s
  | .array [] => ['[', ']']
  | .array (v :: rest) => '[' :: compactText v ++ compactItems rest ++ [']']
  | .object [] => ['\x7b', '\x7d']
  | .object ((name, v) :: rest) =>
    '\x7b' :: Literal.write name ++ ':' :: compactText v ++ compactMembers rest ++ ['\x7d']

def compactItems : List Value → List Char
  | [] => []
  | v :: rest => ',' :: compactText v ++ compactItems rest

def compactMembers : List (String × Value) → List Char
  | [] => []
  | (name, v) :: rest => ',' :: Literal.write name ++ ':' :: compactText v ++ compactMembers rest

end

def compact (v : Value) : String := String.ofList v.compactText

def newLine (level : Nat) : List Char := '\n' :: List.replicate (2 * level) ' '

mutual

/-- The text of a value that stands at a level, one item or member a line. -/
def prettyText (level : Nat) : Value → List Char
  | .array (v :: rest) =>
    '[' :: newLine (level + 1) ++ prettyText (level + 1) v ++ prettyItems (level + 1) rest ++
      newLine level ++ [']']
  | .object ((name, v) :: rest) =>
    '\x7b' :: newLine (level + 1) ++ Literal.write name ++ ':' :: ' ' :: prettyText (level + 1) v ++
      prettyMembers (level + 1) rest ++ newLine level ++ ['\x7d']
  | v => compactText v

def prettyItems (level : Nat) : List Value → List Char
  | [] => []
  | v :: rest => ',' :: newLine level ++ prettyText level v ++ prettyItems level rest

def prettyMembers (level : Nat) : List (String × Value) → List Char
  | [] => []
  | (name, v) :: rest =>
    ',' :: newLine level ++ Literal.write name ++ ':' :: ' ' :: prettyText level v ++
      prettyMembers level rest

end

def pretty (v : Value) : String := String.ofList (v.prettyText 0)

end MangaReader.Json.Value

import MangaReader.Json.Tree
import MangaReader.Text.Quoted

/-!
# JSON values

* `Value` : a value of any form; an object keeps every member, in text order.
* `Value.ofTree` : the value of a tree whose nesting stays below a limit.
* `Value.parse` : the value of a text.
* `Value.get?` : the member of an object; the last one of a name counts.
-/

namespace MangaReader.Json

inductive Value where
  | null
  | bool (b : Bool)
  | number (n : Number)
  | string (s : String)
  | array (items : List Value)
  | object (members : List (String × Value))
  deriving Repr

/-- The number of brackets that may be open at a time, and one more. -/
def nestingLimit : Nat := 128

namespace Value

mutual

/-- The value of a tree inside an allowance of nested brackets. -/
def ofTree (depth : Nat) : Tree → Except Fault Value
  | .null _ => .ok .null
  | .bool b _ => .ok (.bool b)
  | .number value _ => value.map .number
  | .string value _ => value.map .string
  | .array start items ending =>
    if depth ≤ 1 then .error ⟨.tooDeep, start + 1⟩
    else (itemsOf (depth - 1) ending items).map .array
  | .object start members ending =>
    if depth ≤ 1 then .error ⟨.tooDeep, start + 1⟩
    else (membersOf (depth - 1) ending members).map .object
  | .broken b => .error b.read

def itemsOf (depth : Nat) (ending : Ending) : List (Nat × Tree × Nat) → Except Fault (List Value)
  | [] =>
    match ending.listBreak? with
    | some b => .error b.read
    | none => .ok []
  | (_, tree, _) :: rest => do
    let value ← ofTree depth tree
    let values ← itemsOf depth ending rest
    .ok (value :: values)

def membersOf (depth : Nat) (ending : Ending) :
    List (Name × Tree × Nat) → Except Fault (List (String × Value))
  | [] =>
    match ending.objectBreak? with
    | some b => .error b.read
    | none => .ok []
  | (name, tree, _) :: rest => do
    let name ← name.read
    let value ← ofTree depth tree
    let values ← membersOf depth ending rest
    .ok ((name, value) :: values)

end

def parse (text : String) : Except Error Value :=
  (Document.ofText text.toList).finish text.toList (ofTree nestingLimit)

/-- The last value of a name. -/
def get? (members : List (String × Value)) (name : String) : Option Value :=
  (members.reverse.find? (·.1 = name)).map (·.2)

def found : Value → Found
  | .null => .null
  | .bool b => .bool b
  | .number n => n.found
  | .string s => .string (Text.Quoted.ofText s)
  | .array _ => .array
  | .object _ => .object

def unexpected {α : Type} (v : Value) (expected : String) : Except Cause α :=
  .error (.invalidType v.found expected)

def asSize : Value → Except Cause Nat
  | .number (.integer n) =>
    if n < 0 then .error (.invalidValue (.integer n) "usize") else .ok n.toNat
  | v => v.unexpected "usize"

def asText : Value → Except Cause String
  | .string s => .ok s
  | v => v.unexpected "a string"

end Value

end MangaReader.Json

import MangaReader.Json.Value

/-!
# Forms of JSON values

A form says how data of one type stands in a JSON text: how it is read from a tree and what value it
is written as. A record form lists its fields once, in declaration order, for both directions.

Reading goes through a tree in text order and stops at the first mistake. A record is an object of
its fields in any order, unknown members being passed over, or an array of its fields in declaration
order.

* `Flaw`, `Form` : a mistake of a reading, and a form.
* `Form.integer`, `Form.size`, `Form.text`, `Form.flag`, `Form.optional`, `Form.list`,
  `Form.dictionary` : the plain forms.
* `Field`, `Shape`, `Shape.form` : records.
* `Form.parse` : the data of a text.
-/

namespace MangaReader.Json

/-- A mistake met by a reading. What is wrong with a value as a whole has no place of its own: it is
reported where the record that holds it is left. -/
inductive Flaw where
  | placed (f : Fault)
  | unplaced (cause : Cause)
  deriving DecidableEq, Repr

def Flaw.place (offset : Nat) : Flaw → Fault
  | .placed f => f
  | .unplaced cause => ⟨cause, offset⟩

structure Form (α : Type) where
  read : Tree → Except Flaw α
  write : α → Value

namespace Tree

mutual

/-- The first mistake that passing over a tree meets. -/
def skipFault? : Tree → Option Fault
  | .array _ items ending => itemsFault? ending items
  | .object _ members ending => membersFault? ending members
  | .broken b => some b.skip
  | _ => none

def itemsFault? (ending : Ending) : List (Nat × Tree × Nat) → Option Fault
  | [] => ending.listBreak?.map (·.skip)
  | (_, tree, _) :: rest =>
    match skipFault? tree with
    | some f => some f
    | none => itemsFault? ending rest

def membersFault? (ending : Ending) : List (Name × Tree × Nat) → Option Fault
  | [] => ending.objectBreak?.map (·.skip)
  | (_, tree, _) :: rest =>
    match skipFault? tree with
    | some f => some f
    | none => membersFault? ending rest

end

/-- The fault of a tree of another form than the one named. A leaf is read first. -/
def unexpected {α : Type} (expected : String) : Tree → Except Flaw α
  | .null stop => .error (.placed ⟨.invalidType .null expected, stop⟩)
  | .bool b stop => .error (.placed ⟨.invalidType (.bool b) expected, stop⟩)
  | .number (.ok n) stop => .error (.placed ⟨.invalidType n.found expected, stop⟩)
  | .number (.error f) _ => .error (.placed f)
  | .string (.ok s) stop =>
    .error (.placed ⟨.invalidType (.string (Text.Quoted.ofText s)) expected, stop⟩)
  | .string (.error f) _ => .error (.placed f)
  | .array start _ _ => .error (.placed ⟨.invalidType .array expected, start⟩)
  | .object start _ _ => .error (.placed ⟨.invalidType .object expected, start⟩)
  | .broken b => .error (.placed b.read)

end Tree

namespace Ending

def leave : Ending → Nat
  | .closed n | .noComma n | .textEnd n | .commaClosed n | .commaEnd n | .noName n => n
  | .inside => 0

/-- The fault of an array whose items are all read but that does not end there. -/
def surplus? : Ending → Option Fault
  | .closed _ | .inside => none
  | .noComma n | .noName n => some ⟨.trailingCharacters, n + 1⟩
  | .textEnd n => some ⟨.eofList, n⟩
  | .commaClosed n => some ⟨.trailingComma, n + 1⟩
  | .commaEnd n => some ⟨.trailingCharacters, n⟩

end Ending

def leaveItem (rest : List (Nat × Tree × Nat)) (ending : Ending) : Nat :=
  match rest with
  | (start, _) :: _ => start
  | [] => ending.leave

/-- Where an object is left when the member before `rest` is refused; `next` is the offset of the
first token after it. -/
def leaveMember (next : Nat) (rest : List (Name × Tree × Nat)) (ending : Ending) : Nat :=
  match rest, ending with
  | [], .closed stop => stop
  | _, _ => next

namespace Form

/-- A whole number of 64 bits. -/
def integer : Form Int where
  read
    | .number (.ok (.integer n)) stop =>
      if n < 1 <<< 63 then .ok n else .error (.placed ⟨.invalidValue (.integer n) "i64", stop⟩)
    | t => t.unexpected "i64"
  write n := .number (.integer n)

/-- A whole number of 64 bits that is not negative. -/
def size : Form Nat where
  read
    | .number (.ok (.integer n)) stop =>
      if n < 0 then .error (.placed ⟨.invalidValue (.integer n) "usize", stop⟩) else .ok n.toNat
    | t => t.unexpected "usize"
  write n := .number (.integer n)

def text : Form String where
  read
    | .string (.ok s) _ => .ok s
    | t => t.unexpected "a string"
  write := .string

def flag : Form Bool where
  read
    | .bool b _ => .ok b
    | t => t.unexpected "a boolean"
  write := .bool

def optional {α : Type} (form : Form α) : Form (Option α) where
  read
    | .null _ => .ok none
    | t => (form.read t).map some
  write
    | none => .null
    | some a => form.write a

def readItems {α : Type} (form : Form α) (ending : Ending) :
    List (Nat × Tree × Nat) → Except Flaw (List α)
  | [] =>
    match ending.listBreak? with
    | some b => .error (.placed b.read)
    | none => .ok []
  | (_, tree, _) :: rest =>
    match form.read tree with
    | .error flaw => .error (.placed (flaw.place (leaveItem rest ending)))
    | .ok a => (readItems form ending rest).map (a :: ·)

def list {α : Type} (form : Form α) : Form (List α) where
  read
    | .array _ items ending => form.readItems ending items
    | t => t.unexpected "a sequence"
  write items := .array (items.map form.write)

/-- Reads the members of an object. `acc` holds the pairs read so far. -/
def readMembers {α : Type} (form : Form α) (ending : Ending) (acc : List (String × α)) :
    List (Name × Tree × Nat) → Except Flaw (List (String × α))
  | [] =>
    match ending.objectBreak? with
    | some b => .error (.placed b.read)
    | none => .ok acc
  | (name, tree, next) :: rest =>
    match name.read with
    | .error f => .error (.placed f)
    | .ok key =>
      match form.read tree with
      | .error flaw => .error (.placed (flaw.place (leaveMember next rest ending)))
      | .ok a =>
        if acc.any (·.1 = key) then
          readMembers form ending (acc.map fun p => if p.1 = key then (key, a) else p) rest
        else readMembers form ending (acc ++ [(key, a)]) rest

/-- Data under names: a repeated name keeps its first place and its last data. -/
def dictionary {α : Type} (form : Form α) : Form (List (String × α)) where
  read
    | .object _ members ending => form.readMembers ending [] members
    | t => t.unexpected "a map"
  write pairs := .object (pairs.map fun (name, a) => (name, form.write a))

end Form

/-- What it means that a record lacks a field. -/
inductive Absence where
  /-- The record is refused. -/
  | refused
  /-- An object may lack it, an array may not. -/
  | inObject
  /-- Both may lack it. -/
  | anywhere
  deriving DecidableEq, Repr

structure Field (α : Type) where
  name : String
  absence : Absence
  Datum : Type
  form : Form Datum
  get : α → Datum
  set : Datum → α → α

/-- A record type: its name, the record before any field is read, and the fields in order. -/
structure Shape (α : Type) where
  name : String
  blank : α
  fields : List (Field α)

namespace Shape

def expected {α : Type} (s : Shape α) : String :=
  "struct " ++ s.name ++ " with " ++ toString s.fields.length ++
    (if s.fields.length = 1 then " element" else " elements")

/-- Reads the items of an array into the fields, in order; `index` items are read already. -/
def readItems {α : Type} (s : Shape α) (ending : Ending) (index : Nat) :
    List (Field α) → List (Nat × Tree × Nat) → α → Except Flaw α
  | [], [], a =>
    match ending.surplus? with
    | some f => .error (.placed f)
    | none => .ok a
  | [], (start, _, _) :: _, _ => .error (.placed ⟨.trailingCharacters, start + 1⟩)
  | f :: fields, [], a =>
    match ending.listBreak? with
    | some b => .error (.placed b.read)
    | none =>
      if f.absence = .anywhere then readItems s ending (index + 1) fields [] a
      else .error (.placed ⟨.invalidLength index s.expected, ending.stop⟩)
  | f :: fields, (_, tree, _) :: rest, a =>
    match f.form.read tree with
    | .error flaw => .error (.placed (flaw.place (leaveItem rest ending)))
    | .ok d => readItems s ending (index + 1) fields rest (f.set d a)

/-- Reads the members of an object into the fields they name; `seen` are the fields read already. -/
def readMembers {α : Type} (s : Shape α) (ending : Ending) (seen : List String) :
    List (Name × Tree × Nat) → α → Except Flaw α
  | [], a =>
    match ending.objectBreak? with
    | some b => .error (.placed b.read)
    | none =>
      match s.fields.find? fun f => f.absence = .refused ∧ f.name ∉ seen with
      | some f => .error (.placed ⟨.missingField f.name, ending.stop⟩)
      | none => .ok a
  | (name, tree, next) :: rest, a =>
    match name.read with
    | .error f => .error (.placed f)
    | .ok key =>
      match s.fields.find? (·.name = key) with
      | none =>
        match tree.skipFault? with
        | some f => .error (.placed f)
        | none => readMembers s ending seen rest a
      | some f =>
        if key ∈ seen then .error (.placed ⟨.duplicateField key, name.next⟩)
        else
          match f.form.read tree with
          | .error flaw => .error (.placed (flaw.place (leaveMember next rest ending)))
          | .ok d => readMembers s ending (key :: seen) rest (f.set d a)

def form {α : Type} (s : Shape α) : Form α where
  read
    | .array _ items ending => s.readItems ending 0 s.fields items s.blank
    | .object _ members ending => s.readMembers ending [] members s.blank
    | t => t.unexpected ("struct " ++ s.name)
  write a := .object (s.fields.map fun f => (f.name, f.form.write (f.get a)))

end Shape

def Form.parse {α : Type} (form : Form α) (text : String) : Except Error α :=
  (Document.ofText text.toList).finish text.toList fun tree =>
    match form.read tree with
    | .ok a => .ok a
    | .error flaw => .error (flaw.place 0)

end MangaReader.Json

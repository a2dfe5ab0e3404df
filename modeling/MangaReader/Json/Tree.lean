import MangaReader.Json.Literal
import MangaReader.Json.Number

/-!
# A JSON text as a tree

A text is read to a tree that keeps where things stand, whether it is well formed or not: a text
that is broken off gives the tree of its sound part, and the break is its last leaf. A reader of the
tree that goes through it in text order meets the first mistake of the text first, whether that is a
break or a value of the wrong form.

Parts that no one wants are passed over with fewer checks than parts that are read. A mistake that
is reported differently in the two cases is kept for both.

* `Tree`, `Name`, `Ending` : the tree.
* `Tree.read` : the tree at a cursor.
* `Document.ofText` : the tree of a whole text and what follows it.
-/

namespace MangaReader.Json

/-- A mistake as a reader and as a passer-by report it. -/
structure Break where
  read : Fault
  skip : Fault
  deriving DecidableEq, Repr

def Break.same (f : Fault) : Break := ⟨f, f⟩

inductive Ending where
  /-- The closing bracket; the offset after it. -/
  | closed (stop : Nat)
  /-- Another character where a comma or the closing bracket should stand. -/
  | noComma (start : Nat)
  /-- The text ends where a comma or the closing bracket should stand. -/
  | textEnd (start : Nat)
  /-- The closing bracket after a comma. -/
  | commaClosed (start : Nat)
  /-- The text ends after a comma. -/
  | commaEnd (start : Nat)
  /-- Another character where the quote of a name should stand. -/
  | noName (start : Nat)
  /-- The last value is broken off. -/
  | inside
  deriving DecidableEq, Repr

namespace Ending

def listBreak? : Ending → Option Break
  | .closed _ => none
  | .noComma n => some (.same ⟨.expectedListCommaOrEnd, n + 1⟩)
  | .textEnd n => some (.same ⟨.eofList, n⟩)
  | .commaClosed n => some ⟨⟨.trailingComma, n + 1⟩, ⟨.expectedValue, n + 1⟩⟩
  | .commaEnd n => some (.same ⟨.eofValue, n⟩)
  | .noName n => some (.same ⟨.keyMustBeString, n + 1⟩)
  | .inside => none

def objectBreak? : Ending → Option Break
  | .closed _ => none
  | .noComma n => some (.same ⟨.expectedObjectCommaOrEnd, n + 1⟩)
  | .textEnd n => some (.same ⟨.eofObject, n⟩)
  | .commaClosed n => some ⟨⟨.trailingComma, n + 1⟩, ⟨.keyMustBeString, n + 1⟩⟩
  | .commaEnd n => some ⟨⟨.eofValue, n⟩, ⟨.eofObject, n⟩⟩
  | .noName n => some (.same ⟨.keyMustBeString, n + 1⟩)
  | .inside => none

/-- The offset after the closing bracket; 0 if there is none. -/
def stop : Ending → Nat
  | .closed n => n
  | _ => 0

end Ending

/-- The name of a member, and the offset of the first token after it. -/
structure Name where
  read : Except Fault String
  next : Nat

/-- A JSON text. A leaf keeps the offset after it, an array and an object the offset before it. The
value of a number or a string may be refused though its text has the right form. -/
inductive Tree where
  | null (stop : Nat)
  | bool (b : Bool) (stop : Nat)
  | number (value : Except Fault Number) (stop : Nat)
  | string (value : Except Fault String) (stop : Nat)
  /-- The items, each with its offset and that of the first token after it. -/
  | array (start : Nat) (items : List (Nat × Tree × Nat)) (ending : Ending)
  /-- The members, each value with the offset of the first token after it. -/
  | object (start : Nat) (members : List (Name × Tree × Nat)) (ending : Ending)
  /-- The text is no value from here on. -/
  | broken (b : Break)

namespace Tree

def word (c : Cursor) : List Char → Except Fault Cursor
  | [] => .ok c
  | w :: ws =>
    match c.rest with
    | [] => .error (c.fault .eofValue)
    | ch :: _ => if ch = w then word c.next ws else .error (c.faultAfter .expectedIdent)

/-- A leaf that is the same for readers and passers-by. -/
def leaf (make : Nat → Tree) : Except Fault Cursor → Tree × Option Cursor
  | .ok after => (make after.offset, some after)
  | .error f => (.broken (.same f), none)

def readString (c : Cursor) : Tree × Option Cursor :=
  let value := (Literal.read c.next).map (·.1)
  match Literal.skip c.next, value with
  | .ok after, _ => (.string value after.offset, some after)
  | .error f, .error g => (.broken ⟨g, f⟩, none)
  | .error f, .ok _ => (.broken (.same f), none)

def readNumber (c : Cursor) : Tree × Option Cursor :=
  let value := (Number.read c).map (·.1)
  match Number.skip c, value with
  | .ok after, _ => (.number value after.offset, some after)
  | .error f, .error g => (.broken ⟨g, f⟩, none)
  | .error f, .ok _ => (.broken (.same f), none)

/-- The items from a cursor on, the last ones first; the cursor stands at a token. `first` says that
no item has been read. -/
def readItems (read : Cursor → Tree × Option Cursor) :
    Nat → Bool → Cursor → List (Nat × Tree × Nat) × Ending × Option Cursor
  | 0, _, c => ([], .textEnd c.offset, none)
  | fuel + 1, first, c =>
    match c.rest with
    | [] => ([], .textEnd c.offset, none)
    | ']' :: _ => ([], .closed (c.offset + 1), some c.next)
    | ch :: _ =>
      if first then item fuel c
      else if ch = ',' then
        let c := c.next.skipBlank
        match c.rest with
        | [] => ([], .commaEnd c.offset, none)
        | ']' :: _ => ([], .commaClosed c.offset, none)
        | _ => item fuel c
      else ([], .noComma c.offset, none)
  termination_by fuel => 2 * fuel
where
  /-- One item and those after it. -/
  item (fuel : Nat) (c : Cursor) : List (Nat × Tree × Nat) × Ending × Option Cursor :=
    match read c with
    | (value, none) => ([(c.offset, value, 0)], .inside, none)
    | (value, some after) =>
      let after := after.skipBlank
      let (items, ending, last) := readItems read fuel false after
      ((c.offset, value, after.offset) :: items, ending, last)
  termination_by 2 * fuel + 1

def readMembers (read : Cursor → Tree × Option Cursor) :
    Nat → Bool → Cursor → List (Name × Tree × Nat) × Ending × Option Cursor
  | 0, _, c => ([], .textEnd c.offset, none)
  | fuel + 1, first, c =>
    match c.rest with
    | [] => ([], .textEnd c.offset, none)
    | '\x7d' :: _ => ([], .closed (c.offset + 1), some c.next)
    | ch :: _ =>
      if first then member fuel c
      else if ch = ',' then
        let c := c.next.skipBlank
        match c.rest with
        | [] => ([], .commaEnd c.offset, none)
        | '\x7d' :: _ => ([], .commaClosed c.offset, none)
        | _ => member fuel c
      else ([], .noComma c.offset, none)
  termination_by fuel => 2 * fuel
where
  /-- One member and those after it. A name that is broken off, or that no colon follows, has a
  broken value. -/
  member (fuel : Nat) (c : Cursor) : List (Name × Tree × Nat) × Ending × Option Cursor :=
    match c.rest with
    | '"' :: _ =>
      match readString c with
      | (.string name _, some after) =>
        let colon := after.skipBlank
        match colon.rest with
        | ':' :: _ =>
          match read colon.next.skipBlank with
          | (value, none) => ([(⟨name, colon.offset⟩, value, 0)], .inside, none)
          | (value, some after) =>
            let after := after.skipBlank
            let (members, ending, last) := readMembers read fuel false after
            ((⟨name, colon.offset⟩, value, after.offset) :: members, ending, last)
        | [] =>
          ([(⟨name, colon.offset⟩, .broken (.same (colon.fault .eofObject)), 0)], .inside, none)
        | _ =>
          ([(⟨name, colon.offset⟩, .broken (.same (colon.faultAfter .expectedColon)), 0)],
            .inside, none)
      | (value, _) =>
        match value with
        | .broken b => ([(⟨.error b.read, 0⟩, value, 0)], .inside, none)
        | _ => ([], .noName c.offset, none)
    | _ => ([], .noName c.offset, none)
  termination_by 2 * fuel + 1

/-- The tree at a cursor that stands at a token, and the cursor after it if it is not broken off.
`fuel` bounds the nesting and the number of items; the number of characters left is enough. -/
def read : Nat → Cursor → Tree × Option Cursor
  | 0, c => (.broken (.same (c.fault .eofValue)), none)
  | fuel + 1, c =>
    match c.rest with
    | [] => (.broken (.same (c.fault .eofValue)), none)
    | 'n' :: _ => leaf .null (word c.next ['u', 'l', 'l'])
    | 't' :: _ => leaf (.bool true) (word c.next ['r', 'u', 'e'])
    | 'f' :: _ => leaf (.bool false) (word c.next ['a', 'l', 's', 'e'])
    | '"' :: _ => readString c
    | '[' :: _ =>
      let (items, ending, after) := readItems (read fuel) (fuel + 1) true c.next.skipBlank
      (.array c.offset items ending, after)
    | '\x7b' :: _ =>
      let (members, ending, after) := readMembers (read fuel) (fuel + 1) true c.next.skipBlank
      (.object c.offset members ending, after)
    | ch :: _ =>
      if ch = '-' ∨ ch.isDigit then readNumber c
      else (.broken (.same (c.faultAfter .expectedValue)), none)

end Tree

/-- A whole text: its tree, and the offset of the first token after it, if there is one. -/
structure Document where
  tree : Tree
  extra : Option Nat

namespace Document

def ofText (text : List Char) : Document :=
  match Tree.read (text.length + 1) (Cursor.start text).skipBlank with
  | (tree, none) => ⟨tree, none⟩
  | (tree, some after) =>
    let after := after.skipBlank
    ⟨tree, if after.rest.isEmpty then none else some after.offset⟩

/-- What a reading of the tree says of the whole text: nothing may follow the tree. -/
def finish {α : Type} (d : Document) (text : List Char) (read : Tree → Except Fault α) :
    Except Error α :=
  match read d.tree, d.extra with
  | .error f, _ => .error (f.locate text)
  | .ok _, some n => .error ((⟨.trailingCharacters, n + 1⟩ : Fault).locate text)
  | .ok a, none => .ok a

end Document

end MangaReader.Json

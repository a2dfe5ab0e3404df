import MangaReader.Backend.Failure
import MangaReader.Json.Form
import MangaReader.Json.Print

/-!
# Page events

A message of a page feed is a JSON text. The empty object marks the end of the chapter; every other
message describes a page.

* `PageDescriptor`, `PageEvent` : a page of a chapter, and a message of a feed.
* `PageDescriptor.ofValue` : the page that a JSON value describes.
* `PageEvent.parse` : the event of a message.
-/

namespace MangaReader.Feed

open Json

structure PageDescriptor where
  /-- The place of the page, from 0. -/
  index : Nat := 0
  /-- The number of pages of the chapter. -/
  total : Nat := 0
  /-- Where the image is stored. -/
  path : String := ""
  deriving DecidableEq, Repr

inductive PageEvent where
  | page (p : PageDescriptor)
  /-- The end of the chapter. -/
  | terminal
  deriving DecidableEq, Repr

namespace PageDescriptor

def shape : Shape PageDescriptor where
  name := "PageDescriptor"
  blank := {}
  fields :=
    [⟨"idx", .refused, Nat, .size, index, fun d p => { p with index := d }⟩,
      ⟨"total", .refused, Nat, .size, total, fun d p => { p with total := d }⟩,
      ⟨"pic_path", .refused, String, .text, path, fun d p => { p with path := d }⟩]

/-- A member that must be there, once all members that are there have the right form. -/
def required {α : Type} (name : String) : Option α → Except Cause α
  | some a => .ok a
  | none => .error (.missingField name)

/-- The page that the members of an object describe. Forms are checked in the order of the names,
and only then whether a member is missing. -/
def ofMembers (members : List (String × Value)) : Except Cause PageDescriptor := do
  let index ← (Value.get? members "idx").mapM Value.asSize
  let path ← (Value.get? members "pic_path").mapM Value.asText
  let total ← (Value.get? members "total").mapM Value.asSize
  let index ← required "idx" index
  let total ← required "total" total
  let path ← required "pic_path" path
  .ok ⟨index, total, path⟩

def ofItems (items : List Value) : Except Cause PageDescriptor := do
  let index ← item 0 Value.asSize
  let total ← item 1 Value.asSize
  let path ← item 2 Value.asText
  if 3 < items.length then .error (.invalidLength items.length "fewer elements in array")
  else .ok ⟨index, total, path⟩
where
  /-- The item at a place. -/
  item {α : Type} (i : Nat) (as : Value → Except Cause α) : Except Cause α :=
    match items[i]? with
    | some v => as v
    | none => .error (.invalidLength i shape.expected)

def ofValue : Value → Except Cause PageDescriptor
  | .object members => ofMembers members
  | .array items => ofItems items
  | v => v.unexpected ("struct " ++ shape.name)

def text (p : PageDescriptor) : String := (shape.form.write p).compact

end PageDescriptor

namespace PageEvent

def ofValue : Value → Except Cause PageEvent
  | .object [] => .ok .terminal
  | v => (PageDescriptor.ofValue v).map .page

def parse (data : String) : Except Backend.Failure PageEvent :=
  match Value.parse data with
  | .error e => .error (.malformedEvent e.message data)
  | .ok v =>
    match ofValue v with
    | .error cause => .error (.malformedEvent cause.message data)
    | .ok event => .ok event

def isTerminal : PageEvent → Bool
  | .terminal => true
  | .page _ => false

end PageEvent

end MangaReader.Feed

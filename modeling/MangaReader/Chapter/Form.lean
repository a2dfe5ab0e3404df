import MangaReader.Chapter.Index
import MangaReader.Json.Form
import MangaReader.Json.Print

/-!
# Chapter indices as JSON

* `ChapterKind.form`, `Chapter.shape`, `ChapterIndex.shape` : how they stand in a text.
* `ChapterIndex.text` : the compact text of an index.
-/

namespace MangaReader

open Json

namespace ChapterKind

def ofExactName? (text : String) : Option ChapterKind := all.find? (·.name = text)

def form : Form ChapterKind where
  read
    | .string (.ok text) stop =>
      match ofExactName? text with
      | some kind => .ok kind
      | none => .error (.placed ⟨.unknownVariant text (all.map name), stop⟩)
    | tree => tree.unexpected "enum ChapterKind"
  write kind := .string kind.name

end ChapterKind

def Chapter.shape : Shape Chapter where
  name := "Chapter"
  blank := ⟨0, "", .chapter, 0⟩
  fields :=
    [⟨"id", .refused, Int, .integer, id, fun d r => { r with id := d }⟩,
      ⟨"title", .refused, String, .text, title, fun d r => { r with title := d }⟩,
      ⟨"kind", .refused, ChapterKind, ChapterKind.form, kind, fun d r => { r with kind := d }⟩,
      ⟨"position", .refused, Nat, .size, position, fun d r => { r with position := d }⟩]

namespace ChapterIndex

/-- The groups that an index has, in the order of their tabs. -/
def entries (x : ChapterIndex) : List (String × List Chapter) :=
  ChapterKind.all.filterMap fun kind => (x.group? kind).map fun chapters => (kind.name, chapters)

/-- The index of groups under their exact names; the last group of a name counts. -/
def ofEntries : ChapterIndex → List (String × List Chapter) → Except Cause ChapterIndex
  | x, [] => .ok x
  | x, (name, chapters) :: rest =>
    match ChapterKind.ofExactName? name with
    | some kind => ofEntries (x.put kind chapters) rest
    | none => .error (.unknownVariant name (ChapterKind.all.map ChapterKind.name))

def groupsForm : Form ChapterIndex where
  read tree :=
    match (Form.dictionary (.list Chapter.shape.form)).read tree with
    | .error flaw => .error flaw
    | .ok entries =>
      match ofEntries {} entries with
      | .ok x => .ok x
      | .error cause => .error (.unplaced cause)
  write x := (Form.dictionary (.list Chapter.shape.form)).write x.entries

def shape : Shape ChapterIndex where
  name := "ChapterIndex"
  blank := {}
  fields := [⟨"groups", .refused, ChapterIndex, groupsForm, id, fun d _ => d⟩]

def text (x : ChapterIndex) : String := (shape.form.write x).compact

end ChapterIndex

end MangaReader

import MangaReader.Text.Ascii

/-!
# Chapters and their index

The chapters of a series come in three groups. A chapter is known by its id; its place is its group
and its position there.

* `ChapterKind`, `Chapter`, `Cursor`, `Direction` : groups, chapters, places and steps.
* `ChapterIndex` : the chapters of a series.
* `ChapterIndex.ofGroups` : the index of groups of ids and titles; the last group of a kind counts.
* `ChapterIndex.resolve`, `find`, `adjacent` : the chapter at a place, of an id, beside a place.
-/

namespace MangaReader

inductive ChapterKind where
  | chapter
  | volume
  | misc
  deriving DecidableEq, Repr

namespace ChapterKind

def all : List ChapterKind := [.chapter, .volume, .misc]

def name : ChapterKind → String
  | .chapter => "Chapter"
  | .volume => "Volume"
  | .misc => "Misc"

/-- The group of a name, whose ASCII letters may be of any case. -/
def ofName? (text : String) : Option ChapterKind := all.find? fun k => Text.sameAscii k.name text

end ChapterKind

/-- A place in an index: a group and a position in it. -/
structure Cursor where
  group : ChapterKind
  position : Nat
  deriving DecidableEq, Repr

structure Chapter where
  id : Int
  title : String
  kind : ChapterKind
  position : Nat
  deriving DecidableEq, Repr

def Chapter.cursor (c : Chapter) : Cursor := ⟨c.kind, c.position⟩

inductive Direction where
  | next
  | previous
  deriving DecidableEq, Repr

def Direction.opposite : Direction → Direction
  | .next => .previous
  | .previous => .next

/-- The place a step away, if positions reach that far. -/
def Cursor.step? (c : Cursor) : Direction → Option Cursor
  | .next => if c.position + 1 < 1 <<< 64 then some ⟨c.group, c.position + 1⟩ else none
  | .previous => if c.position = 0 then none else some ⟨c.group, c.position - 1⟩

/-- The chapters of a series. A group may be missing or empty. -/
structure ChapterIndex where
  chapters : Option (List Chapter) := none
  volumes : Option (List Chapter) := none
  extras : Option (List Chapter) := none
  deriving DecidableEq, Repr

namespace ChapterIndex

def group? (x : ChapterIndex) : ChapterKind → Option (List Chapter)
  | .chapter => x.chapters
  | .volume => x.volumes
  | .misc => x.extras

def group (x : ChapterIndex) (kind : ChapterKind) : List Chapter := (x.group? kind).getD []

def put (x : ChapterIndex) (kind : ChapterKind) (chapters : List Chapter) : ChapterIndex :=
  match kind with
  | .chapter => { x with chapters := some chapters }
  | .volume => { x with volumes := some chapters }
  | .misc => { x with extras := some chapters }

/-- The chapters of a group, given their ids and titles in order. -/
def numbered (kind : ChapterKind) (entries : List (Int × String)) : List Chapter :=
  entries.mapIdx fun position (id, title) => ⟨id, title, kind, position⟩

def ofGroups (groups : List (ChapterKind × List (Int × String))) : ChapterIndex :=
  groups.foldl (fun x (kind, entries) => x.put kind (numbered kind entries)) {}

def tabs (x : ChapterIndex) : List (ChapterKind × List Chapter) :=
  ChapterKind.all.map fun kind => (kind, x.group kind)

/-- All chapters, tab by tab. -/
def toList (x : ChapterIndex) : List Chapter := x.tabs.flatMap (·.2)

def size (x : ChapterIndex) : Nat := x.toList.length

def isEmpty (x : ChapterIndex) : Bool := x.toList.isEmpty

def resolve (x : ChapterIndex) (c : Cursor) : Option Chapter := (x.group c.group)[c.position]?

/-- The first chapter of an id. -/
def find (x : ChapterIndex) (id : Int) : Option Chapter := x.toList.find? (·.id = id)

def adjacent (x : ChapterIndex) (c : Cursor) (d : Direction) : Option Chapter :=
  (c.step? d).bind x.resolve

end ChapterIndex

end MangaReader

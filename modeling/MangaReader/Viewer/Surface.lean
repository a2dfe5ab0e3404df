import MangaReader.Chapter.Index

/-!
# What is on show

* `Surface` : the chapter list and the page slots of the open chapter.
* `Surface.list`, `clear`, `allocate`, `place` : what can be done to it.
* `Surface.rendered`, `filled`, `isFilled` : the pages in their slots.
-/

namespace MangaReader

/-- A tab of the chapter list: a group and the titles of its chapters. -/
abbrev Tab := ChapterKind × List String

/-- The chapter list and the page slots of the open chapter. -/
structure Surface where
  /-- The slots in order; an empty one waits for its page. -/
  slots : List (Option String) := []
  tabs : List Tab := []
  activeTab : Option ChapterKind := none
  /-- The number of pages placed so far, in this chapter and all before. -/
  placements : Nat := 0
  deriving DecidableEq, Repr

namespace Surface

def tabsOf (index : ChapterIndex) : List Tab :=
  index.tabs.map fun (kind, chapters) => (kind, chapters.map (·.title))

def list (s : Surface) (index : ChapterIndex) (active : ChapterKind) : Surface :=
  { s with tabs := tabsOf index, activeTab := some active }

def clear (s : Surface) : Surface := { s with slots := [] }

def allocate (s : Surface) (total : Nat) : Surface := { s with slots := List.replicate total none }

/-- Puts a page into a slot; there is none beyond the last. -/
def place (s : Surface) (index : Nat) (url : String) : Surface :=
  if index < s.slots.length then
    { s with slots := s.slots.set index (some url), placements := s.placements + 1 }
  else s

/-- The pages in their slots, in order. -/
def rendered (s : Surface) : List String := s.slots.filterMap id

def filled (s : Surface) : Nat := s.rendered.length

/-- Whether there are slots and every one is filled. -/
def isFilled (s : Surface) : Bool := !s.slots.isEmpty && s.slots.all Option.isSome

end Surface

end MangaReader

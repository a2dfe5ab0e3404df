import MangaReader.Feed.PageEvent
import MangaReader.Library.AssetPaths
import MangaReader.Reading.Error
import MangaReader.Viewer.Surface

/-!
# Showing one chapter at a time

A viewer holds the chapter index, a place in it and at most one session. Opening a chapter opens a
session; the pages of its feed go into the slots of the surface by their own numbers, so that the
order of their arrival does not matter. An event of any other session changes nothing.

* `Session`, `Ticket`, `Outcome`, `Rejection` : sessions and what comes of page events.
* `Viewer.replaceIndex`, `setTab` : the index and the chapter list.
* `Viewer.select`, `navigate` : opening a chapter.
* `Viewer.apply`, `fail`, `close` : page events and the ends of sessions.
-/

namespace MangaReader

open Feed

def pageLimit : Nat := 10000

/-- The chapter being shown, and how far its feed has come. -/
structure Session where
  id : Nat
  chapter : Chapter
  /-- The number of slots, once a page has said it. -/
  allocated : Option Nat := none
  /-- The number of pages placed. -/
  received : Nat := 0
  complete : Bool := false
  deriving DecidableEq, Repr

/-- The proof that a session was opened. -/
structure Ticket where
  session : Nat
  chapter : Chapter
  deriving DecidableEq, Repr

def Ticket.shown (t : Ticket) : String := "#" ++ toString t.session

inductive ViewerState where
  | idle
  | loading (session : Nat) (chapterId : Int)
  deriving DecidableEq, Repr

/-- What comes of a page event that is not refused. -/
inductive Outcome where
  | placed (index total : Nat)
  | complete (pages : Nat)
  /-- The session of the event is not open. -/
  | stale
  deriving DecidableEq, Repr

inductive Rejection where
  | noPages
  | tooManyPages (total : Nat)
  | outsideSlots (index slots : Nat)
  deriving DecidableEq, Repr

def Rejection.message : Rejection → String
  | .noPages => "page total is zero"
  | .tooManyPages total =>
    "page total " ++ toString total ++ " exceeds limit of " ++ toString pageLimit
  | .outsideSlots index slots =>
    "page index " ++ toString index ++ " outside " ++ toString slots ++ " slots"

/-- Why there is no chapter at a place of a group with some number of chapters. -/
def selectionReason (chapters : Nat) : String :=
  if chapters = 0 then "group has no chapters" else "group has " ++ toString chapters ++ " chapters"

/-- The index, a place in it, the open session and what is on show. -/
structure Viewer where
  surface : Surface := {}
  assets : AssetPaths := {}
  index : ChapterIndex := {}
  activeTab : ChapterKind := .chapter
  cursor : Option Cursor := none
  session : Option Session := none
  /-- The number of sessions opened so far. -/
  generation : Nat := 0
  deriving DecidableEq, Repr

namespace Viewer

def state (v : Viewer) : ViewerState :=
  match v.session with
  | some s => if s.complete then .idle else .loading s.id s.chapter.id
  | none => .idle

def current (v : Viewer) : Option Chapter := v.cursor.bind v.index.resolve

/-- The session of an id, if it is open and incomplete. -/
def openSession? (v : Viewer) (session : Nat) : Option Session :=
  v.session.filter fun s => s.id = session && !s.complete

/-- Takes a new index. The place follows its chapter. -/
def replaceIndex (v : Viewer) (index : ChapterIndex) : Viewer :=
  let cursor := (v.current.bind fun c => index.find c.id).map Chapter.cursor
  { v with index, cursor, surface := v.surface.list index v.activeTab }

def setTab (v : Viewer) (tab : ChapterKind) : Viewer :=
  { v with activeTab := tab, surface := v.surface.list v.index tab }

/-- Closes the open session. Its id, if it was incomplete. -/
def close (v : Viewer) : Viewer × Option Nat :=
  match v.session with
  | none => (v, none)
  | some s => ({ v with session := none }, if s.complete then none else some s.id)

/-- Opens a session for a chapter in place of the open one. -/
def start (v : Viewer) (chapter : Chapter) : Viewer × Ticket :=
  let id := v.generation + 1
  ({ v with
      surface := v.surface.clear
      cursor := some chapter.cursor
      session := some { id, chapter }
      generation := id },
    ⟨id, chapter⟩)

def select (v : Viewer) (place : Cursor) : Viewer × Except ReadError Ticket :=
  match v.index.resolve place with
  | some chapter =>
    let (v, ticket) := v.start chapter
    (v, .ok ticket)
  | none =>
    (v, .error (.invalidSelection place (selectionReason (v.index.group place.group).length)))

/-- Opens the chapter a step away, unless a chapter is being loaded or there is none. -/
def navigate (v : Viewer) (d : Direction) : Viewer × Option Ticket :=
  match v.state, v.cursor.bind fun c => v.index.adjacent c d with
  | .idle, some chapter =>
    let (v, ticket) := v.start chapter
    (v, some ticket)
  | _, _ => (v, none)

/-- Puts a page of the open session into its slot. The first page says how many slots there are. -/
def place (v : Viewer) (s : Session) (page : PageDescriptor) : Viewer × Except Rejection Outcome :=
  match s.allocated with
  | some total => fill v s total
  | none =>
    if page.total = 0 then (v, .error .noPages)
    else if pageLimit < page.total then (v, .error (.tooManyPages page.total))
    else fill { v with surface := v.surface.allocate page.total } s page.total
where
  /-- Fills a slot out of a number of them. -/
  fill (v : Viewer) (s : Session) (total : Nat) : Viewer × Except Rejection Outcome :=
    if page.index < total then
      ({ v with
          surface := v.surface.place page.index (v.assets.servedPath page.path)
          session := some { s with allocated := some total, received := s.received + 1 } },
        .ok (.placed page.index total))
    else (v, .error (.outsideSlots page.index total))

/-- Applies a page event of a session. A page that is refused closes the session. -/
def apply (v : Viewer) (session : Nat) (event : PageEvent) : Viewer × Except ReadError Outcome :=
  match v.openSession? session with
  | none => (v, .ok .stale)
  | some s =>
    match event with
    | .terminal =>
      ({ v with session := some { s with complete := true } },
        .ok (.complete (s.allocated.getD 0)))
    | .page page =>
      match v.place s page with
      | (v, .ok outcome) => (v, .ok outcome)
      | (v, .error why) => ({ v with session := none }, .error (.stream why.message))

/-- Closes a session whose feed has failed; whether it was open and incomplete. -/
def fail (v : Viewer) (session : Nat) : Viewer × Bool :=
  match v.openSession? session with
  | some _ => ({ v with session := none }, true)
  | none => (v, false)

end Viewer

end MangaReader

import MangaReader.Library.Library
import MangaReader.Reading.Event
import MangaReader.Reading.Settings
import MangaReader.Viewer.Viewer

/-!
# Readers

A reader shows the chapters of one series. A call opens a chapter in the viewer; a feed task then
brings its pages, and a history task records it. The tasks run beside the calls, each one step at a
time, in any order; a call that opens or closes a chapter stops the feed task of the chapter before
and waits for its end.

* `FeedTask`, `HistoryTask`, `Pending`, `Reader` : the tasks, the rest of a call, and the state.
* `Reader.call`, `Reader.proceed` : the first step of a call, and the others.
* `Reader.stepFeed`, `Reader.expire`, `Reader.stepHistory` : the steps of the tasks.
* `Reader.step`, `Reader.run` : one step of any kind, and a list of them.
-/

namespace MangaReader

open Backend Feed

inductive FeedStage where
  /-- Nothing was sent. -/
  | waiting
  /-- The end of the answer to the request is being waited for. -/
  | unanswered
  /-- The next page event is being waited for. -/
  | reading (feed : PageFeed)
  /-- A page event has arrived; the viewer does not know it. -/
  | received (event : PageEvent) (feed : PageFeed)
  /-- A page is in its slot; the listeners do not know it. -/
  | placed (index total : Nat) (feed : PageFeed)
  /-- The feed has failed; the viewer does not know it. -/
  | broken (error : ReadError)
  /-- The chapter is complete, with a number of pages; the listeners do not know it. -/
  | completed (pages : Nat)
  /-- The session is closed for an error; the listeners do not know it. -/
  | failed (error : ReadError)
  | ended
  deriving DecidableEq, Repr

structure FeedTask where
  session : Nat
  chapter : Chapter
  stage : FeedStage := .waiting
  cancelled : Bool := false
  deriving DecidableEq, Repr

inductive HistoryStage where
  /-- The chapter was not recorded. -/
  | recording
  /-- The chapter was recorded. -/
  | refreshing
  deriving DecidableEq, Repr

structure HistoryTask where
  chapter : Int
  stage : HistoryStage := .recording
  deriving DecidableEq, Repr

/-- The rest of a call. -/
inductive Pending where
  /-- An index has arrived; the viewer does not have it. -/
  | loading (index : ChapterIndex)
  /-- The viewer has an index of some size; the listeners do not know it. -/
  | loaded (chapters : Nat)
  /-- A chapter is open in the viewer; the feed task before it is to end. -/
  | opening (ticket : Ticket)
  /-- The viewer is closed; the feed task is to end, and the reader may be shut down. -/
  | closing (shutdown : Bool)
  deriving DecidableEq, Repr

/-- A reader with its tasks, and the backend that it reads from. -/
structure Reader where
  settings : ReaderSettings
  library : Library
  backend : Backend
  viewer : Viewer
  /-- Whether a chapter is being loaded, as the listeners see it. -/
  published : ViewerState := .idle
  feed : Option FeedTask := none
  history : List HistoryTask := []
  pending : Option Pending := none
  /-- Whether the reader is shut down, which cancels all tasks. -/
  down : Bool := false
  /-- What the listeners were told, in order. -/
  events : List ReaderEvent := []
  deriving DecidableEq, Repr

namespace Reader

inductive Call where
  | loadIndex
  | setTab (tab : ChapterKind)
  | select (place : Cursor)
  | navigate (d : Direction)
  | close
  | shutdown
  deriving DecidableEq, Repr

inductive Answer where
  | done
  | index (x : ChapterIndex)
  | opened (ticket : Ticket)
  /-- No chapter was opened, and that is no error. -/
  | stayed
  | refused (e : ReadError)
  deriving DecidableEq, Repr

def ofLibrary (settings : ReaderSettings) (library : Library) (backend : Backend) : Reader where
  settings := settings
  library := library
  backend := backend
  viewer := { assets := library.assets }

def connect (files : Files) (settings : ReaderSettings) (backend : Backend) :
    Except ReadError Reader :=
  (Library.connect files settings.access settings.assets settings.server).map
    (ofLibrary settings · backend)

def tell (r : Reader) (e : ReaderEvent) : Reader := { r with events := r.events ++ [e] }

/-- The reader with another viewer, whose state the listeners see. -/
def publish (r : Reader) (v : Viewer) : Reader := { r with viewer := v, published := v.state }

def exchange {α : Type} (r : Reader) (e : Exchange ReadError α) : Except ReadError α × Reader :=
  let (result, backend) := e r.backend
  (result, { r with backend })

/-! ## Calls -/

/-- Goes on with a chapter that the viewer has just opened. -/
def opening (r : Reader) (v : Viewer) (ticket : Ticket) : Reader × Answer :=
  ({ r.publish v with pending := some (.opening ticket) }, .opened ticket)

def call (r : Reader) : Call → Reader × Answer
  | .loadIndex =>
    match r.exchange (r.library.chapters r.settings.manga) with
    | (.ok index, r) => ({ r with pending := some (.loading index) }, .index index)
    | (.error e, r) => (r, .refused e)
  | .setTab tab => ({ r with viewer := r.viewer.setTab tab }, .done)
  | .select place =>
    match r.viewer.select place with
    | (v, .ok ticket) => r.opening v ticket
    | (_, .error e) => (r, .refused e)
  | .navigate d =>
    match r.viewer.navigate d with
    | (v, some ticket) => r.opening v ticket
    | (_, none) => (r, .stayed)
  | .close => ({ r.publish r.viewer.close.1 with pending := some (.closing false) }, .done)
  | .shutdown => ({ r.publish r.viewer.close.1 with pending := some (.closing true) }, .done)

/-- Starts the tasks of a chapter and tells the listeners of it. -/
def start (r : Reader) (ticket : Ticket) : Reader :=
  { r.tell (.sessionOpened ticket.session ticket.chapter) with
    feed := some { session := ticket.session, chapter := ticket.chapter }
    history :=
      if r.settings.recordHistory then r.history ++ [{ chapter := ticket.chapter.id }]
      else r.history
    pending := none }

/-- Does what a call does after the feed task before it has ended. While that runs, it is told to
end. -/
def afterFeed (r : Reader) (next : Reader → Reader) : Reader :=
  match r.feed with
  | none => next r
  | some task =>
    if task.stage = .ended then next { r with feed := none }
    else { r with feed := some { task with cancelled := true } }

/-- The next step of the call that is not done. -/
def proceed (r : Reader) : Reader :=
  match r.pending with
  | none => r
  | some (.loading index) =>
    { r with viewer := r.viewer.replaceIndex index, pending := some (.loaded index.size) }
  | some (.loaded chapters) => { r.tell (.indexLoaded chapters) with pending := none }
  | some (.opening ticket) => r.afterFeed (·.start ticket)
  | some (.closing shutdown) =>
    r.afterFeed fun r => { r with pending := none, down := r.down || shutdown }

/-! ## Tasks -/

def setStage (r : Reader) (task : FeedTask) (stage : FeedStage) : Reader :=
  { r with feed := some { task with stage } }

def streamError (f : Failure) : ReadError := .stream f.message

def earlyEnd : ReadError := .stream "feed ended before the end-of-chapter marker"

/-- The error of a feed whose next event does not come in time. The time said is at most the
greatest number of 64 bits. -/
def late (settings : ReaderSettings) : ReadError :=
  .streamTimeout (min settings.streamTimeout ((1 <<< 64) - 1))

def openFeed (r : Reader) (task : FeedTask) : Reader :=
  let (opening, backend) := r.library.client.openFeed task.chapter.id r.backend
  { r with backend }.setStage task
    (match opening with
    | .opened feed => .reading feed
    | .failed f => .broken (streamError f)
    | .blocked => .unanswered)

def pull (r : Reader) (task : FeedTask) (feed : PageFeed) : Reader :=
  match feed.next with
  | (.event e, feed) => r.setStage task (.received e feed)
  | (.failed f, _) => r.setStage task (.broken (streamError f))
  | (.over, _) => r.setStage task (.broken earlyEnd)
  | (.blocked, feed) => r.setStage task (.reading feed)

def apply (r : Reader) (task : FeedTask) (event : PageEvent) (feed : PageFeed) : Reader :=
  let (v, outcome) := r.viewer.apply task.session event
  (r.publish v).setStage task
    (match outcome with
    | .ok (.placed index total) => .placed index total feed
    | .ok (.complete pages) => .completed pages
    | .ok .stale => .ended
    | .error e => .failed e)

def fail (r : Reader) (task : FeedTask) (error : ReadError) : Reader :=
  match r.viewer.fail task.session with
  | (v, true) => (r.publish v).setStage task (.failed error)
  | (_, false) => r.setStage task .ended

/-- The next step of the feed task. A task that is cancelled ends when it waits next. -/
def stepFeed (r : Reader) : Reader :=
  match r.feed with
  | none => r
  | some task =>
    let unlessCancelled (next : Reader) : Reader :=
      if task.cancelled || r.down then r.setStage task .ended else next
    match task.stage with
    | .waiting => unlessCancelled (r.openFeed task)
    | .unanswered => unlessCancelled r
    | .reading feed => unlessCancelled (r.pull task feed)
    | .received event feed => unlessCancelled (r.apply task event feed)
    | .placed index total feed =>
      (r.tell (.pageRendered task.session index total)).setStage task (.reading feed)
    | .broken error => unlessCancelled (r.fail task error)
    | .completed pages =>
      (r.tell (.chapterComplete task.session task.chapter.id pages)).setStage task .ended
    | .failed error =>
      (r.tell (.streamFailed task.session task.chapter.id error)).setStage task .ended
    | .ended => r

/-- Lets the time of a feed task run out that waits for what does not come. -/
def expire (r : Reader) : Reader :=
  match r.feed with
  | none => r
  | some task =>
    if task.cancelled || r.down then r
    else
      match task.stage with
      | .unanswered => r.setStage task (.broken (late r.settings))
      | .reading feed =>
        if feed.next.1 = .blocked then r.setStage task (.broken (late r.settings)) else r
      | _ => r

/-- The reader with a history task at another stage, or without it. -/
def setHistory (r : Reader) (i : Nat) : Option HistoryTask → Reader
  | some task => { r with history := r.history.set i task }
  | none => { r with history := r.history.eraseIdx i }

/-- The next step of a history task. What fails there is told to nobody. -/
def stepHistory (r : Reader) (i : Nat) : Reader :=
  match r.history[i]? with
  | none => r
  | some task =>
    match task.stage with
    | .recording =>
      if r.down then r.setHistory i none
      else
        match r.exchange (r.library.recordReading r.settings.manga task.chapter) with
        | (.ok _, r) =>
          (r.tell (.historyRecorded task.chapter)).setHistory i
            (some { task with stage := .refreshing })
        | (.error _, r) => r.setHistory i none
    | .refreshing =>
      match r.exchange (r.library.lastRead r.settings.manga) with
      | (.ok last, r) => (r.tell (.lastRead last)).setHistory i none
      | (.error _, r) => r.setHistory i none

/-! ## Runs -/

inductive Step where
  | call (c : Call)
  | proceed
  | feed
  | expire
  | history (i : Nat)
  deriving DecidableEq, Repr

/-- One step, and the answer of a call. A call has to wait until the one before is done. -/
def step (r : Reader) : Step → Reader × Option Answer
  | .call c =>
    if r.pending.isSome then (r, none)
    else
      let (r, answer) := r.call c
      (r, some answer)
  | .proceed => (r.proceed, none)
  | .feed => (r.stepFeed, none)
  | .expire => (r.expire, none)
  | .history i => (r.stepHistory i, none)

def run (r : Reader) : List Step → Reader × List Answer
  | [] => (r, [])
  | s :: rest =>
    let (next, answer) := r.step s
    let (last, answers) := next.run rest
    (last, answer.toList ++ answers)

end Reader

end MangaReader

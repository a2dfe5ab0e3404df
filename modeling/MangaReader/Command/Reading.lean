import MangaReader.Command.Request
import MangaReader.Command.Series
import MangaReader.Output.Color
import MangaReader.Reading.Schedule

/-!
# Reading chapters

* `Reader.await` : lets a reader run until a chapter is complete or has failed.
* `Command.pagesReport` : the pages of a chapter as a result.
* `Command.read` : shows the pages of a chapter and of chapters after it.
-/

namespace MangaReader

/-- How the session of a ticket has ended, if it has. -/
def Reader.ending (r : Reader) (t : Ticket) : Option (Except CommandError Unit) :=
  r.events.findSome? fun e =>
    match e with
    | .chapterComplete session _ _ => if session = t.session then some (.ok ()) else none
    | .streamFailed session _ error =>
      if session = t.session then
        some (.error
          (if error.isTimeout then .timeout t.chapter.title error.message
          else .stream t.chapter.title error.message))
      else none
    | _ => none

/-- Lets a reader run until the session of a ticket has ended. What moves without a limit of time
running out moves first. -/
def Reader.await (r : Reader) (t : Ticket) : Reader × Except CommandError Unit :=
  let r := r.settle
  match r.ending t with
  | some result => (r, result)
  | none =>
    let r := r.expire.settle
    (r, (r.ending t).getD (.error (.internal "reader event channel closed")))

namespace Command

open Output Json

def pagesReport (colored : Bool) (chapter : Chapter) (pages : List String) : Report where
  value := .object
    [("chapter", Chapter.shape.form.write chapter), ("pages", .array (pages.map .string))]
  table := "\n".intercalate
    ((Color.accent colored chapter.title ++ " " ++
        Color.muted colored ("(" ++ toString pages.length ++ " pages)")) ::
      pages.zipIdx.map fun (url, i) =>
        let number := toString (i + 1)
        String.ofList (List.replicate (4 - number.length) ' ') ++ number ++ "  " ++ url)
  plain := "\n".intercalate pages

/-- Shows the chapter of a ticket and so many chapters after it, each when it is complete. -/
def readFrom (o : Options) (r : Reader) (t : Ticket) (follow : Nat) : Action Reader := do
  let (r, result) := r.await t
  match result with
  | .error e =>
    modify fun s => { s with backend := r.backend }
    Action.refuse e
  | .ok () =>
    Action.report o (pagesReport o.colored t.chapter r.viewer.surface.rendered)
    match follow with
    | 0 => return r
    | follow + 1 =>
      match r.perform (.navigate .next) with
      | (r, .opened next) => readFrom o r next follow
      | (r, _) =>
        Action.say o (t.chapter.title ++ " is the last chapter")
        return r

/-- The reader of a series with its index loaded. -/
def readerOf (o : Options) (q : ReadingRequest) : Action Reader := do
  let m ← Action.machine
  let settings ← Action.check id (o.readerSettings m q.manga)
  let settings :=
    { settings with recordHistory := settings.recordHistory && !q.withoutHistory }
  let r ← Action.check .ofRead (Reader.connect m.files settings (← get).backend)
  let (r, answer) := r.perform .loadIndex
  modify fun s => { s with backend := r.backend }
  match answer with
  | .refused e => Action.refuse (.ofSeries q.manga e)
  | _ => return (r.perform (.setTab q.group)).1

def read (o : Options) (q : ReadingRequest) : Action Unit := do
  let r ← readerOf o q
  match r.perform (.select ⟨q.group, q.position⟩) with
  | (r, .opened t) =>
    let r ← readFrom o r t q.follow
    modify fun s => { s with backend := r.backend }
  | (_, .refused e) => Action.refuse (.ofRead e)
  | _ => return ()

end Command

end MangaReader

import MangaReader.Viewer.Viewer

/-!
# Runs of a viewer

* `Viewer.Op`, `Viewer.Answer` : what can be asked of a viewer, and what it answers.
* `Viewer.step`, `Viewer.run` : one operation, and a list of them.
-/

namespace MangaReader.Viewer

open Feed

inductive Op where
  | replaceIndex (index : ChapterIndex)
  | setTab (tab : ChapterKind)
  | select (place : Cursor)
  | navigate (d : Direction)
  | event (session : Nat) (e : PageEvent)
  | fail (session : Nat)
  | close
  deriving DecidableEq, Repr

inductive Answer where
  | done
  | opened (ticket : Ticket)
  /-- No chapter was opened, and that is no error. -/
  | stayed
  | refused (e : ReadError)
  | outcome (o : Outcome)
  | failed (wasOpen : Bool)
  | closed (session : Option Nat)
  deriving DecidableEq, Repr

def Answer.ofExcept {α : Type} (ok : α → Answer) : Except ReadError α → Answer
  | .ok a => ok a
  | .error e => .refused e

def step (v : Viewer) : Op → Viewer × Answer
  | .replaceIndex index => (v.replaceIndex index, .done)
  | .setTab tab => (v.setTab tab, .done)
  | .select place => ((v.select place).1, .ofExcept .opened (v.select place).2)
  | .navigate d => ((v.navigate d).1, ((v.navigate d).2.map Answer.opened).getD .stayed)
  | .event session e => ((v.apply session e).1, .ofExcept .outcome (v.apply session e).2)
  | .fail session => ((v.fail session).1, .failed (v.fail session).2)
  | .close => (v.close.1, .closed v.close.2)

def run (v : Viewer) : List Op → Viewer × List Answer
  | [] => (v, [])
  | op :: ops =>
    let (next, answer) := v.step op
    let (last, answers) := next.run ops
    (last, answer :: answers)

end MangaReader.Viewer

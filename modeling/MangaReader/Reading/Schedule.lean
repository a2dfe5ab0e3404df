import MangaReader.Reading.Reader

/-!
# Running the tasks of a reader

* `Reader.advance`, `Reader.finish` : bring a call to its end.
* `Reader.settle` : lets the tasks run until none can move without a limit of time passing.
* `Reader.waitIdle` : lets the tasks run until no chapter is being loaded.
* `Reader.perform` : a whole call.
-/

namespace MangaReader.Reader

open Feed

def stepFeeds (r : Reader) : Nat → Reader
  | 0 => r
  | n + 1 => r.stepFeed.stepFeeds n

/-- Does the next step of a call; if that waits for the end of the feed task, lets the task end
first. A task that is cancelled ends within two steps: it may have to tell of a page. -/
def advance (r : Reader) : Reader :=
  match r.proceed.pending with
  | some (.opening _) | some (.closing _) => (r.proceed.stepFeeds 2).proceed
  | _ => r.proceed

/-- Brings a call to its end, which takes at most two steps. -/
def finish (r : Reader) : Reader := r.advance.advance

/-- A number of steps within which a feed task that can move comes to its end: every message takes
three, and no message is shorter than a byte. -/
def feedSteps (r : Reader) : Nat :=
  match r.feed with
  | some ⟨_, _, .reading feed, _⟩ | some ⟨_, _, .received _ feed, _⟩
  | some ⟨_, _, .placed _ _ feed, _⟩ => 3 * (feed.body.bytes.length + feed.waiting.length) + 8
  | some _ => 4
  | none => 0

def stepHistories (r : Reader) : Nat → Reader
  | 0 => r
  | n + 1 => (r.stepHistory 0).stepHistories n

/-- Lets the tasks run until none can move without a limit of time passing. -/
def settle (r : Reader) : Reader :=
  let r := r.stepFeed
  let r := r.stepFeeds r.feedSteps
  r.stepHistories (2 * r.history.length)

/-- Lets the tasks run until no chapter is being loaded; whether it comes to that. -/
def waitIdle (r : Reader) : Reader × Bool :=
  let r := if r.published = .idle then r else r.settle
  let r := if r.published = .idle then r else r.expire.settle
  (r, r.published = .idle)

def perform (r : Reader) (c : Call) : Reader × Answer :=
  let (r, answer) := r.call c
  (r.finish, answer)

end MangaReader.Reader

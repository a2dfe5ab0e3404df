import MangaReader.Library.Series

/-!
# Going on with a show

* `Resume`, `EpisodeList.resume` : the episode to play after the one watched last.
-/

namespace MangaReader

inductive Resume where
  /-- With an episode, if the show has any. -/
  | play (episode : Option Episode)
  /-- Not at all, as the last episode is watched; its title. -/
  | finished (title : String)
  deriving DecidableEq, Repr

/-- How a show goes on after what was watched last. It starts anew if nothing was, or if that is not
among the episodes. -/
def EpisodeList.resume (x : EpisodeList) (last : Option Reference) : Resume :=
  match (last.bind (·.id)).bind x.find with
  | none => .play (x.get? 0)
  | some current =>
    match x.after current.id with
    | some next => .play (some next)
    | none => .finished current.title

end MangaReader

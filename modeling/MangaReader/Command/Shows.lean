import MangaReader.Command.Request
import MangaReader.Command.Series
import MangaReader.Library.Resume
import MangaReader.Output.Color

/-!
# Commands on shows

* `episodes`, `lastWatched` : what there is of a show, and what of it has been watched.
* `watch` : where the video of an episode is served.
-/

namespace MangaReader.Command

open Output Time

def dateText (t : Option Instant) : String := orMissing (t.map Instant.date)

def episodesReport (x : EpisodeList) : Report :=
  .ofList Episode.shape.form.write ["#", "ID", "Title", "Updated"]
    (fun e => [toString e.position, toString e.id, e.title, dateText e.lastUpdate])
    (fun e => toString e.id) x.episodes

def episodes (o : Options) (anime : Int) : Action Unit := do
  let library ← Action.library o anime
  let found ← Action.ask (.ofShow anime) (library.episodes anime)
  if found.episodes.isEmpty then Action.say o ("No episodes for anime " ++ toString anime)
  else Action.report o (episodesReport found)

def videoReport (colored : Bool) (v : Video) : Report where
  value := Video.shape.form.write v
  table := "\n".intercalate
    [Color.accent colored v.episode.title ++ " " ++
        Color.muted colored ("(episode " ++ toString v.episode.position ++ ")"),
      "ID:     " ++ toString v.episode.id,
      "Video:  " ++ v.url]
  plain := v.url

def outOfRange (anime : Int) (position size : Nat) : CommandError :=
  .invalidSelection
    ("Episode " ++ toString position ++ " is out of range: anime " ++ toString anime ++ " has " ++
      toString size ++ " episodes")
    ("episodes " ++ toString anime)

/-- How the show goes on: with the episode that is asked for, or the one after the last watched. -/
def choose (library : Library) (r : WatchingRequest) (x : EpisodeList) : Action Resume :=
  if r.next then
    return x.resume (← Action.ask (.ofShow r.anime) (library.lastWatched r.anime))
  else return .play (x.get? r.position)

/-- Makes a change to the history, of which a failure does not matter. -/
def attempt {α : Type} (e : Exchange ReadError α) : Action Unit := modify fun s =>
  { s with backend := (e s.backend).2 }

/-- Shows where the video of an episode is served, and records the episode as watched. -/
def watch (o : Options) (r : WatchingRequest) : Action Unit := do
  let m ← Action.machine
  let settings ← Action.check id (o.readerSettings m r.anime)
  let recorded := settings.recordHistory && !r.withoutHistory
  let library ← Action.check .ofRead
    (Library.connect m.files settings.access settings.assets settings.server)
  let found ← Action.ask (.ofShow r.anime) (library.episodes r.anime)
  match ← choose library r found with
  | .finished title => Action.say o (title ++ " is the last episode")
  | .play none => Action.refuse (outOfRange r.anime r.position found.size)
  | .play (some episode) =>
    if recorded then attempt (library.addToAnimeHistory r.anime)
    let video ← Action.ask (.ofShow r.anime) (library.episodeVideo episode)
    if recorded then attempt (library.recordWatching r.anime episode.id)
    Action.report o (videoReport o.colored video)

def lastWatched (o : Options) (anime : Int) : Action Unit := do
  let library ← Action.library o anime
  match ← Action.ask (.ofShow anime) (library.lastWatched anime) with
  | none => Action.say o ("Nothing watched yet in anime " ++ toString anime)
  | some episode => Action.report o (referenceReport Reference.episodeShape episode)

end MangaReader.Command

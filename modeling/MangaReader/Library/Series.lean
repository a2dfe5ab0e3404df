import MangaReader.Text.Ascii
import MangaReader.Time.Instant

/-!
# Series, shows and episodes

What is shown of a series besides its chapters, and of a show besides its videos.

* `Reference` : a chapter or an episode named by another record; `Reference.label` is how it is
  shown.
* `SeriesHeader`, `SeriesSummary`, `SearchResult`, `Site` : series, and where they are searched.
* `Episode`, `EpisodeList`, `Video`, `ShowSummary` : shows.
-/

namespace MangaReader

open Time

/-- A chapter or an episode named by another record. -/
structure Reference where
  id : Option Int := none
  title : Option String := none
  deriving DecidableEq, Repr

/-- How a reference is shown: by its title, else by its id. -/
def Reference.label (r : Reference) : String :=
  match r.title, r.id with
  | some title, _ => title
  | none, some id => "#" ++ toString id
  | none, none => "-"

structure SeriesHeader where
  mangaId : Option Int := none
  /-- Where the thumbnail is served. -/
  thumbnail : Option String := none
  lastUpdate : Option Instant := none
  finished : Option Bool := none
  latestChapter : Option Reference := none
  deriving DecidableEq, Repr

def SeriesHeader.lastUpdateDate (h : SeriesHeader) : Option String := h.lastUpdate.map Instant.date

structure SeriesSummary where
  id : Option Int := none
  name : String := ""
  url : Option String := none
  thumbnail : Option String := none
  lastUpdate : Option Instant := none
  finished : Option Bool := none
  isFavourite : Bool := false
  lastReadChapter : Option Reference := none
  latestChapter : Option Reference := none
  deriving DecidableEq, Repr

structure SearchResult where
  id : Option Int := none
  name : String := ""
  url : Option String := none
  deriving DecidableEq, Repr

inductive Site where
  | manhuaren
  | copymanga
  | mangabat
  deriving DecidableEq, Repr

namespace Site

def all : List Site := [.manhuaren, .copymanga, .mangabat]

def name : Site → String
  | .manhuaren => "manhuaren"
  | .copymanga => "copymanga"
  | .mangabat => "mangabat"

/-- The site of a name, whose ASCII letters may be of any case. -/
def ofName? (text : String) : Option Site := all.find? fun s => Text.sameAscii s.name text

end Site

structure Episode where
  id : Int
  title : String
  position : Nat
  lastUpdate : Option Instant
  deriving DecidableEq, Repr

structure EpisodeList where
  episodes : List Episode
  deriving DecidableEq, Repr

namespace EpisodeList

def ofEntries (entries : List (Int × String × Option Instant)) : EpisodeList :=
  ⟨entries.mapIdx fun position (id, title, lastUpdate) => ⟨id, title, position, lastUpdate⟩⟩

def size (x : EpisodeList) : Nat := x.episodes.length

def get? (x : EpisodeList) (position : Nat) : Option Episode := x.episodes[position]?

/-- The first episode of an id. -/
def find (x : EpisodeList) (id : Int) : Option Episode := x.episodes.find? (·.id = id)

/-- The episode after the first one of an id. -/
def after (x : EpisodeList) (id : Int) : Option Episode :=
  (x.find id).bind fun e => x.get? (e.position + 1)

end EpisodeList

structure Video where
  episode : Episode
  url : String
  deriving DecidableEq, Repr

structure ShowSummary where
  id : Option Int := none
  name : String := ""
  url : Option String := none
  episodes : Option String := none
  year : Option String := none
  season : Option String := none
  lastWatched : Option Reference := none
  latestEpisode : Option Reference := none
  lastAdded : Option Instant := none
  deriving DecidableEq, Repr

end MangaReader

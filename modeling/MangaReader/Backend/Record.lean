import MangaReader.Time.Form

/-!
# The records of the backend

The backend answers with JSON texts. A record is strict where the reader depends on a field (the id
and the title of a chapter, the name of a series) and lenient elsewhere: most fields may be absent
or null.

* `ChapterRecord`, `ChapterRef`, `MetaRecord`, `MangaRecord`, `SearchHit` : chapters and series.
* `EpisodeRecord`, `EpisodeRef`, `VideoRecord`, `AnimeRecord` : episodes and shows.
* `HistoryAck`, `AnimeHistoryAck`, `RemovalAck` : what is answered to a change of the history.
* `ChapterGroups` : chapters under the names of their groups.

Each has a `shape`, which says how it stands in a text.
-/

namespace MangaReader.Backend

open Json Time

structure ChapterRecord where
  id : Int := 0
  title : String := ""
  deriving DecidableEq, Repr

def ChapterRecord.shape : Shape ChapterRecord where
  name := "ChapterRecord"
  blank := {}
  fields :=
    [⟨"id", .refused, Int, .integer, id, fun d r => { r with id := d }⟩,
      ⟨"title", .refused, String, .text, title, fun d r => { r with title := d }⟩]

/-- Chapters under the names of their groups, in the order of the answer. -/
abbrev ChapterGroups := List (String × List ChapterRecord)

def ChapterGroups.form : Form ChapterGroups := .dictionary (.list ChapterRecord.shape.form)

/-- A chapter named by another record. -/
structure ChapterRef where
  id : Option Int := none
  title : Option String := none
  deriving DecidableEq, Repr

def ChapterRef.shape : Shape ChapterRef where
  name := "ChapterRef"
  blank := {}
  fields :=
    [⟨"id", .anywhere, Option Int, .optional .integer, id, fun d r => { r with id := d }⟩,
      ⟨"title", .anywhere, Option String, .optional .text, title, fun d r => { r with title := d }⟩]

/-- What is shown above the chapters of a series. -/
structure MetaRecord where
  mangaId : Option Int := none
  lastUpdate : Option Instant := none
  finished : Option Bool := none
  thumbnail : Option String := none
  latestChapter : Option ChapterRef := none
  deriving DecidableEq, Repr

def MetaRecord.shape : Shape MetaRecord where
  name := "MetaRecord"
  blank := {}
  fields :=
    [⟨"manga_id", .anywhere, Option Int, .optional .integer, mangaId,
        fun d r => { r with mangaId := d }⟩,
      ⟨"last_update", .anywhere, Option Instant, Instant.lenient, lastUpdate,
        fun d r => { r with lastUpdate := d }⟩,
      ⟨"finished", .anywhere, Option Bool, .optional .flag, finished,
        fun d r => { r with finished := d }⟩,
      ⟨"thum_img", .anywhere, Option String, .optional .text, thumbnail,
        fun d r => { r with thumbnail := d }⟩,
      ⟨"latest_chapter", .anywhere, Option ChapterRef, .optional ChapterRef.shape.form,
        latestChapter, fun d r => { r with latestChapter := d }⟩]

structure MangaRecord where
  id : Option Int := none
  name : String := ""
  url : Option String := none
  lastUpdate : Option Instant := none
  finished : Option Bool := none
  thumbnail : Option String := none
  isFavourite : Bool := false
  lastReadChapter : Option ChapterRef := none
  latestChapter : Option ChapterRef := none
  lastAdded : Option Instant := none
  deriving DecidableEq, Repr

def MangaRecord.shape : Shape MangaRecord where
  name := "MangaRecord"
  blank := {}
  fields :=
    [⟨"id", .anywhere, Option Int, .optional .integer, id, fun d r => { r with id := d }⟩,
      ⟨"name", .refused, String, .text, name, fun d r => { r with name := d }⟩,
      ⟨"url", .anywhere, Option String, .optional .text, url, fun d r => { r with url := d }⟩,
      ⟨"last_update", .anywhere, Option Instant, Instant.lenient, lastUpdate,
        fun d r => { r with lastUpdate := d }⟩,
      ⟨"finished", .anywhere, Option Bool, .optional .flag, finished,
        fun d r => { r with finished := d }⟩,
      ⟨"thum_img", .anywhere, Option String, .optional .text, thumbnail,
        fun d r => { r with thumbnail := d }⟩,
      ⟨"is_fav", .anywhere, Bool, .flag, isFavourite, fun d r => { r with isFavourite := d }⟩,
      ⟨"last_read_chapter", .anywhere, Option ChapterRef, .optional ChapterRef.shape.form,
        lastReadChapter, fun d r => { r with lastReadChapter := d }⟩,
      ⟨"latest_chapter", .anywhere, Option ChapterRef, .optional ChapterRef.shape.form,
        latestChapter, fun d r => { r with latestChapter := d }⟩,
      ⟨"last_added", .anywhere, Option Instant, Instant.lenient, lastAdded,
        fun d r => { r with lastAdded := d }⟩]

structure SearchHit where
  id : Option Int := none
  name : String := ""
  url : Option String := none
  deriving DecidableEq, Repr

def SearchHit.shape : Shape SearchHit where
  name := "SearchHit"
  blank := {}
  fields :=
    [⟨"id", .anywhere, Option Int, .optional .integer, id, fun d r => { r with id := d }⟩,
      ⟨"name", .refused, String, .text, name, fun d r => { r with name := d }⟩,
      ⟨"url", .anywhere, Option String, .optional .text, url, fun d r => { r with url := d }⟩]

structure EpisodeRecord where
  id : Int := 0
  title : String := ""
  lastUpdate : Option Instant := none
  deriving DecidableEq, Repr

def EpisodeRecord.shape : Shape EpisodeRecord where
  name := "EpisodeRecord"
  blank := {}
  fields :=
    [⟨"id", .refused, Int, .integer, id, fun d r => { r with id := d }⟩,
      ⟨"title", .refused, String, .text, title, fun d r => { r with title := d }⟩,
      ⟨"last_update", .anywhere, Option Instant, Instant.lenient, lastUpdate,
        fun d r => { r with lastUpdate := d }⟩]

structure EpisodeRef where
  id : Option Int := none
  title : Option String := none
  deriving DecidableEq, Repr

def EpisodeRef.shape : Shape EpisodeRef where
  name := "EpisodeRef"
  blank := {}
  fields :=
    [⟨"id", .anywhere, Option Int, .optional .integer, id, fun d r => { r with id := d }⟩,
      ⟨"title", .anywhere, Option String, .optional .text, title, fun d r => { r with title := d }⟩]

structure VideoRecord where
  path : String := ""
  deriving DecidableEq, Repr

def VideoRecord.shape : Shape VideoRecord where
  name := "EpisodeVideo"
  blank := {}
  fields := [⟨"vid_path", .refused, String, .text, path, fun d r => { r with path := d }⟩]

structure AnimeRecord where
  id : Option Int := none
  name : String := ""
  url : Option String := none
  episodes : Option String := none
  year : Option String := none
  season : Option String := none
  latestEpisode : Option EpisodeRef := none
  lastWatchedEpisode : Option EpisodeRef := none
  lastAdded : Option Instant := none
  deriving DecidableEq, Repr

def AnimeRecord.shape : Shape AnimeRecord where
  name := "AnimeRecord"
  blank := {}
  fields :=
    [⟨"id", .anywhere, Option Int, .optional .integer, id, fun d r => { r with id := d }⟩,
      ⟨"name", .refused, String, .text, name, fun d r => { r with name := d }⟩,
      ⟨"url", .anywhere, Option String, .optional .text, url, fun d r => { r with url := d }⟩,
      ⟨"eps", .anywhere, Option String, .optional .text, episodes,
        fun d r => { r with episodes := d }⟩,
      ⟨"year", .anywhere, Option String, .optional .text, year, fun d r => { r with year := d }⟩,
      ⟨"season", .anywhere, Option String, .optional .text, season,
        fun d r => { r with season := d }⟩,
      ⟨"latest_episode", .anywhere, Option EpisodeRef, .optional EpisodeRef.shape.form,
        latestEpisode, fun d r => { r with latestEpisode := d }⟩,
      ⟨"last_read_episode", .anywhere, Option EpisodeRef, .optional EpisodeRef.shape.form,
        lastWatchedEpisode, fun d r => { r with lastWatchedEpisode := d }⟩,
      ⟨"last_added", .anywhere, Option Instant, Instant.lenient, lastAdded,
        fun d r => { r with lastAdded := d }⟩]

structure HistoryAck where
  mangaId : Option Int := none
  chapterId : Option Int := none
  deriving DecidableEq, Repr

def HistoryAck.shape : Shape HistoryAck where
  name := "HistoryAck"
  blank := {}
  fields :=
    [⟨"manga_id", .anywhere, Option Int, .optional .integer, mangaId,
        fun d r => { r with mangaId := d }⟩,
      ⟨"chapter_id", .anywhere, Option Int, .optional .integer, chapterId,
        fun d r => { r with chapterId := d }⟩]

structure AnimeHistoryAck where
  animeId : Option Int := none
  episodeId : Option Int := none
  deriving DecidableEq, Repr

def AnimeHistoryAck.shape : Shape AnimeHistoryAck where
  name := "AnimeHistoryAck"
  blank := {}
  fields :=
    [⟨"anime_id", .anywhere, Option Int, .optional .integer, animeId,
        fun d r => { r with animeId := d }⟩,
      ⟨"episode_id", .anywhere, Option Int, .optional .integer, episodeId,
        fun d r => { r with episodeId := d }⟩]

structure RemovalAck where
  success : Bool := false
  deriving DecidableEq, Repr

def RemovalAck.shape : Shape RemovalAck where
  name := "DeleteAck"
  blank := {}
  fields := [⟨"success", .anywhere, Bool, .flag, success, fun d r => { r with success := d }⟩]

end MangaReader.Backend

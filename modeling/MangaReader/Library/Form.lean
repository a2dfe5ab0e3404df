import MangaReader.Library.Series
import MangaReader.Time.Form

/-!
# Series and shows as JSON

The `shape` of each type says how it stands in a text.
-/

namespace MangaReader

open Json Time

def Reference.shapeNamed (name : String) : Shape Reference where
  name := name
  blank := {}
  fields :=
    [⟨"id", .inObject, Option Int, .optional .integer, id, fun d r => { r with id := d }⟩,
      ⟨"title", .inObject, Option String, .optional .text, title, fun d r => { r with title := d }⟩]

def Reference.chapterShape : Shape Reference := Reference.shapeNamed "ChapterSummary"

def Reference.episodeShape : Shape Reference := Reference.shapeNamed "EpisodeSummary"

def SeriesHeader.shape : Shape SeriesHeader where
  name := "MangaMeta"
  blank := {}
  fields :=
    [⟨"manga_id", .inObject, Option Int, .optional .integer, mangaId,
        fun d r => { r with mangaId := d }⟩,
      ⟨"thumbnail", .inObject, Option String, .optional .text, thumbnail,
        fun d r => { r with thumbnail := d }⟩,
      ⟨"last_update", .inObject, Option Instant, .optional Instant.plain, lastUpdate,
        fun d r => { r with lastUpdate := d }⟩,
      ⟨"finished", .inObject, Option Bool, .optional .flag, finished,
        fun d r => { r with finished := d }⟩,
      ⟨"latest_chapter", .inObject, Option Reference, .optional Reference.chapterShape.form,
        latestChapter, fun d r => { r with latestChapter := d }⟩]

def SeriesSummary.shape : Shape SeriesSummary where
  name := "MangaSummary"
  blank := {}
  fields :=
    [⟨"id", .inObject, Option Int, .optional .integer, id, fun d r => { r with id := d }⟩,
      ⟨"name", .refused, String, .text, name, fun d r => { r with name := d }⟩,
      ⟨"url", .inObject, Option String, .optional .text, url, fun d r => { r with url := d }⟩,
      ⟨"thumbnail", .inObject, Option String, .optional .text, thumbnail,
        fun d r => { r with thumbnail := d }⟩,
      ⟨"last_update", .inObject, Option Instant, .optional Instant.plain, lastUpdate,
        fun d r => { r with lastUpdate := d }⟩,
      ⟨"finished", .inObject, Option Bool, .optional .flag, finished,
        fun d r => { r with finished := d }⟩,
      ⟨"is_fav", .refused, Bool, .flag, isFavourite, fun d r => { r with isFavourite := d }⟩,
      ⟨"last_read_chapter", .inObject, Option Reference, .optional Reference.chapterShape.form,
        lastReadChapter, fun d r => { r with lastReadChapter := d }⟩,
      ⟨"latest_chapter", .inObject, Option Reference, .optional Reference.chapterShape.form,
        latestChapter, fun d r => { r with latestChapter := d }⟩]

def SearchResult.shape : Shape SearchResult where
  name := "SearchResult"
  blank := {}
  fields :=
    [⟨"id", .inObject, Option Int, .optional .integer, id, fun d r => { r with id := d }⟩,
      ⟨"name", .refused, String, .text, name, fun d r => { r with name := d }⟩,
      ⟨"url", .inObject, Option String, .optional .text, url, fun d r => { r with url := d }⟩]

def Site.form : Form Site where
  read
    | .string (.ok text) stop =>
      match all.find? (·.name = text) with
      | some site => .ok site
      | none => .error (.placed ⟨.unknownVariant text (all.map name), stop⟩)
    | tree => tree.unexpected "enum Site"
  write site := .string site.name

def Episode.shape : Shape Episode where
  name := "Episode"
  blank := ⟨0, "", 0, none⟩
  fields :=
    [⟨"id", .refused, Int, .integer, id, fun d r => { r with id := d }⟩,
      ⟨"title", .refused, String, .text, title, fun d r => { r with title := d }⟩,
      ⟨"position", .refused, Nat, .size, position, fun d r => { r with position := d }⟩,
      ⟨"last_update", .inObject, Option Instant, .optional Instant.plain, lastUpdate,
        fun d r => { r with lastUpdate := d }⟩]

def EpisodeList.form : Form EpisodeList where
  read tree := ((Form.list Episode.shape.form).read tree).map EpisodeList.mk
  write x := (Form.list Episode.shape.form).write x.episodes

def Video.shape : Shape Video where
  name := "EpisodeVideo"
  blank := ⟨⟨0, "", 0, none⟩, ""⟩
  fields :=
    [⟨"episode", .refused, Episode, Episode.shape.form, episode,
        fun d r => { r with episode := d }⟩,
      ⟨"video_url", .refused, String, .text, url, fun d r => { r with url := d }⟩]

def ShowSummary.shape : Shape ShowSummary where
  name := "AnimeSummary"
  blank := {}
  fields :=
    [⟨"id", .inObject, Option Int, .optional .integer, id, fun d r => { r with id := d }⟩,
      ⟨"name", .refused, String, .text, name, fun d r => { r with name := d }⟩,
      ⟨"url", .inObject, Option String, .optional .text, url, fun d r => { r with url := d }⟩,
      ⟨"eps", .inObject, Option String, .optional .text, episodes,
        fun d r => { r with episodes := d }⟩,
      ⟨"year", .inObject, Option String, .optional .text, year, fun d r => { r with year := d }⟩,
      ⟨"season", .inObject, Option String, .optional .text, season,
        fun d r => { r with season := d }⟩,
      ⟨"last_watched", .inObject, Option Reference, .optional Reference.episodeShape.form,
        lastWatched, fun d r => { r with lastWatched := d }⟩,
      ⟨"latest_episode", .inObject, Option Reference, .optional Reference.episodeShape.form,
        latestEpisode, fun d r => { r with latestEpisode := d }⟩,
      ⟨"last_added", .inObject, Option Instant, .optional Instant.plain, lastAdded,
        fun d r => { r with lastAdded := d }⟩]

end MangaReader

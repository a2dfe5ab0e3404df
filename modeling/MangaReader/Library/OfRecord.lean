import MangaReader.Backend.Record
import MangaReader.Library.AssetPaths
import MangaReader.Library.Series
import MangaReader.Reading.Error
import MangaReader.Text.Quoted

/-!
# From records of the backend to what is shown

* `ChapterIndex.ofGroups?` : the index of chapter groups under their names.
* `SeriesHeader.ofRecord`, `SeriesSummary.ofRecord`, … : what a record says.
-/

namespace MangaReader

open Backend

namespace ChapterIndex

/-- The kinds of named groups. `seen` holds the kinds of the groups before. -/
def kinds (seen : List ChapterKind) :
    ChapterGroups → Except ReadError (List (ChapterKind × List (Int × String)))
  | [] => .ok []
  | (name, records) :: rest =>
    match ChapterKind.ofName? name with
    | none => .error (.fetch ("unknown chapter group " ++ Text.Quoted.ofText name) none)
    | some kind =>
      if kind ∈ seen then .error (.fetch ("chapter group " ++ kind.name ++ " listed twice") none)
      else
        (kinds (kind :: seen) rest).map fun groups =>
          (kind, records.map fun r => (r.id, r.title)) :: groups

/-- The index of chapter groups under their names. Names are those of the three groups, and no group
may be named twice. -/
def ofGroups? (groups : ChapterGroups) : Except ReadError ChapterIndex :=
  (kinds [] groups).map ofGroups

end ChapterIndex

def Reference.ofChapter (r : ChapterRef) : Reference := ⟨r.id, r.title⟩

def Reference.ofEpisode (r : EpisodeRef) : Reference := ⟨r.id, r.title⟩

def SeriesHeader.ofRecord (assets : AssetPaths) (r : MetaRecord) : SeriesHeader where
  mangaId := r.mangaId
  thumbnail := r.thumbnail.map assets.servedPath
  lastUpdate := r.lastUpdate
  finished := r.finished
  latestChapter := r.latestChapter.map .ofChapter

def SeriesSummary.ofRecord (assets : AssetPaths) (r : MangaRecord) : SeriesSummary where
  id := r.id
  name := r.name
  url := r.url
  thumbnail := r.thumbnail.map assets.servedPath
  lastUpdate := r.lastUpdate
  finished := r.finished
  isFavourite := r.isFavourite
  lastReadChapter := r.lastReadChapter.map .ofChapter
  latestChapter := r.latestChapter.map .ofChapter

def SearchResult.ofRecord (r : SearchHit) : SearchResult := ⟨r.id, r.name, r.url⟩

def EpisodeList.ofRecords (records : List EpisodeRecord) : EpisodeList :=
  ofEntries (records.map fun r => (r.id, r.title, r.lastUpdate))

def ShowSummary.ofRecord (r : AnimeRecord) : ShowSummary where
  id := r.id
  name := r.name
  url := r.url
  episodes := r.episodes
  year := r.year
  season := r.season
  lastWatched := r.lastWatchedEpisode.map .ofEpisode
  latestEpisode := r.latestEpisode.map .ofEpisode
  lastAdded := r.lastAdded

def Video.ofRecord (assets : AssetPaths) (episode : Episode) (r : VideoRecord) : Video :=
  ⟨episode, assets.servedPath r.path⟩

end MangaReader

import MangaReader.Backend.Client
import MangaReader.Library.OfRecord

/-!
# The library of a backend

A library reads series, shows and histories from a backend and gives them as they are shown.

* `Library`, and one function for everything that is read or changed.
-/

namespace MangaReader

open Backend

structure Library where
  client : Client
  assets : AssetPaths := {}
  deriving DecidableEq, Repr

namespace Library

def connect (files : Files) (access : Access) (assets : AssetPaths) (server : Url) :
    Except ReadError Library :=
  match Client.connect files access server with
  | .ok client => .ok ⟨client, assets⟩
  | .error f => .error (.ofFailure f)

/-- Makes a call and gives what is shown of its result. -/
def fetch {α β : Type} (library : Library) (call : Call α) (view : α → β) : Exchange ReadError β :=
  fun backend =>
    let (result, backend) := library.client.perform call backend
    (match result with
      | .ok a => .ok (view a)
      | .error f => .error (.ofFailure f),
      backend)

/-! ## Series -/

def chapters (library : Library) (manga : Int) : Exchange ReadError ChapterIndex := do
  let groups ← library.fetch (.chapters manga) id
  ChapterIndex.ofGroups? groups

def header (library : Library) (manga : Int) : Exchange ReadError SeriesHeader :=
  library.fetch (.header manga) (.ofRecord library.assets)

def manga (library : Library) (manga : Int) : Exchange ReadError SeriesSummary :=
  library.fetch (.manga manga) (.ofRecord library.assets)

def lastRead (library : Library) (manga : Int) : Exchange ReadError (Option Reference) :=
  library.fetch (.manga manga) fun r => (SeriesSummary.ofRecord library.assets r).lastReadChapter

def search (library : Library) (keyword : String) (site : Site) :
    Exchange ReadError (List SearchResult) :=
  library.fetch (.search keyword site.name) (·.map .ofRecord)

def history (library : Library) : Exchange ReadError (List SeriesSummary) :=
  library.fetch .history (·.map (.ofRecord library.assets))

def addToHistory (library : Library) (manga : Int) : Exchange ReadError Unit :=
  library.fetch (.addHistory manga) fun _ => ()

/-- Removes a series from the reading history; says whether it was there. -/
def removeFromHistory (library : Library) (manga : Int) : Exchange ReadError Bool :=
  library.fetch (.removeHistory manga) (·.success)

def recordReading (library : Library) (manga chapter : Int) : Exchange ReadError Unit :=
  library.fetch (.updateHistory manga chapter) fun _ => ()

/-! ## Shows -/

def episodes (library : Library) (anime : Int) : Exchange ReadError EpisodeList :=
  library.fetch (.episodes anime) .ofRecords

def episodeVideo (library : Library) (episode : Episode) : Exchange ReadError Video :=
  library.fetch (.episode episode.id) (.ofRecord library.assets episode)

def anime (library : Library) (anime : Int) : Exchange ReadError ShowSummary :=
  library.fetch (.anime anime) .ofRecord

def lastWatched (library : Library) (anime : Int) : Exchange ReadError (Option Reference) :=
  library.fetch (.anime anime) fun r => (ShowSummary.ofRecord r).lastWatched

def animeHistory (library : Library) : Exchange ReadError (List ShowSummary) :=
  library.fetch .animeHistory (·.map .ofRecord)

def addToAnimeHistory (library : Library) (anime : Int) : Exchange ReadError Unit :=
  library.fetch (.addAnimeHistory anime) fun _ => ()

/-- Removes a show from the watching history; says whether it was there. -/
def removeFromAnimeHistory (library : Library) (anime : Int) : Exchange ReadError Bool :=
  library.fetch (.removeAnimeHistory anime) (·.success)

def recordWatching (library : Library) (anime episode : Int) : Exchange ReadError Unit :=
  library.fetch (.updateAnimeHistory anime episode) fun _ => ()

end Library

end MangaReader

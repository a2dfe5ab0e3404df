import MangaReader.Url.Form

/-!
# What a backend is asked for

* `Endpoint` : everything that a backend can be asked for.
* `Endpoint.path`, `Endpoint.query` : where it is found below the address of the backend.
* `Endpoint.url` : its URL.
-/

namespace MangaReader.Backend

inductive Endpoint where
  | chapters (manga : Int)
  | header (manga : Int)
  | manga (manga : Int)
  | search (keyword : String) (site : String)
  | pages (chapter : Int)
  | episodes (anime : Int)
  | episode (episode : Int)
  | anime (anime : Int)
  | history
  | animeHistory
  deriving DecidableEq, Repr

namespace Endpoint

def path : Endpoint → List String
  | .chapters _ => ["api", "chapters"]
  | .header _ => ["api", "meta"]
  | .manga _ => ["api", "manga"]
  | .search .. => ["api", "search"]
  | .pages _ => ["api", "pages"]
  | .episodes _ => ["api", "episodes"]
  | .episode _ => ["api", "episode"]
  | .anime _ => ["api", "anime"]
  | .history => ["user", "history"]
  | .animeHistory => ["user", "a_history"]

def query : Endpoint → List (String × String)
  | .chapters n | .header n | .manga n => [("manga_id", toString n)]
  | .search keyword site => [("keyword", keyword), ("site", site)]
  | .pages n => [("chapter_id", toString n)]
  | .episodes n | .anime n => [("anime_id", toString n)]
  | .episode n => [("episode_id", toString n)]
  | .history | .animeHistory => []

/-- The URL of an endpoint of the backend at an address, which ends with a slash. -/
def url (endpoint : Endpoint) (base : Url) : Except Url.Fault Url :=
  (base.resolve endpoint.path).map (·.withPairs endpoint.query)

end Endpoint

end MangaReader.Backend

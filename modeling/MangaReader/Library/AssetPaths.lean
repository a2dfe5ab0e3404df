import MangaReader.Text.Replace

/-!
# Where images and videos are served

The backend names the files of pages by where it stores them; they are served under another prefix.

* `AssetPaths` : the two prefixes.
* `AssetPaths.servedPath` : where a stored file is served.
-/

namespace MangaReader

/-- The prefix under which files are stored and the one under which they are served. -/
structure AssetPaths where
  storage : String := "/downloaded"
  served : String := "/static"
  deriving DecidableEq, Repr

namespace AssetPaths

/-- A path with the leftmost storage prefix replaced. -/
def servedPath (a : AssetPaths) (path : String) : String :=
  if a.storage.isEmpty then path
  else String.ofList (Text.replaceFirst a.storage.toList a.served.toList path.toList)

end AssetPaths

end MangaReader

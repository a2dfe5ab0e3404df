import MangaReader.Backend.Client
import MangaReader.Library.AssetPaths

/-!
# Settings of a reader

* `ReaderSettings` : which series is read, from where and how.
-/

namespace MangaReader

structure ReaderSettings where
  server : Url
  manga : Int
  access : Access := {}
  /-- The milliseconds within which every page event is wanted. -/
  streamTimeout : Nat := 60000
  assets : AssetPaths := {}
  /-- Whether opened chapters go into the reading history. -/
  recordHistory : Bool := true
  deriving DecidableEq, Repr

end MangaReader

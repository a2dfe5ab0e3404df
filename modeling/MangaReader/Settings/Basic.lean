import MangaReader.Library.Series
import MangaReader.Settings.Named

/-!
# Settings

* `Defaults`, `Profile`, `Settings` : what a user can set.
* `Settings.profileName`, `Settings.profile` : the profile that is meant.
-/

namespace MangaReader

/-- What holds for every profile that does not say otherwise. -/
structure Defaults where
  output : String := "table"
  color : String := "auto"
  insecure : Bool := false
  /-- The seconds within which an answer is wanted. -/
  timeout : Nat := 30
  /-- The seconds within which every page event is wanted. -/
  streamTimeout : Nat := 60
  deriving DecidableEq, Repr

structure Profile where
  server : String := ""
  site : Site := .manhuaren
  publicPath : Option String := none
  storagePath : Option String := none
  cookie : Option String := none
  /-- The environment variable that holds the cookie. -/
  cookieVariable : Option String := none
  caFile : Option String := none
  insecure : Option Bool := none
  timeout : Option Nat := none
  streamTimeout : Option Nat := none
  recordHistory : Option Bool := none
  deriving DecidableEq, Repr

structure Settings where
  defaultProfile : Option String := some "default"
  defaults : Defaults := {}
  profiles : Named Profile := .empty

namespace Settings

/-- The name of the profile that is meant: the one given, else the default one. -/
def profileName (s : Settings) (given : Option String) : String :=
  (given.or s.defaultProfile).getD "default"

def available (s : Settings) : String :=
  if s.profiles.names.isEmpty then "(none)" else ", ".intercalate s.profiles.names

end Settings

end MangaReader

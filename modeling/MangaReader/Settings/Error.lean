import MangaReader.Settings.OfDatum

/-!
# Failures of the settings

* `LoadError` : why settings cannot be read from their sources.
* `SettingsError` : every way in which reading, using or keeping settings fails.
* `LoadError.message`, `SettingsError.message` : the words for one.
-/

namespace MangaReader

inductive LoadError where
  /-- A file is no TOML document. -/
  | malformed (spot : Toml.Spot)
  /-- A file, under the name that is shown of it, is no text. -/
  | notText (shown : String)
  | misfit (m : Misfit)
  deriving DecidableEq, Repr

def LoadError.message : LoadError → String
  | .malformed spot => spot.message
  | .notText shown => "stream did not contain valid UTF-8\n in " ++ Misfit.place (.file shown)
  | .misfit m => m.message

inductive SettingsError where
  | invalid (field reason : String)
  | unknownProfile (name : String)
  /-- The settings cannot be written as a file. -/
  | unwritable (reason : String)
  /-- The settings cannot be read from their sources. -/
  | unreadable (e : LoadError)
  | keyring (reason : String)
  /-- The file system refuses to make a directory or to write a file. It never does here, so nothing
  fails in this way. -/
  | file (reason : String)
  deriving DecidableEq, Repr

def SettingsError.message : SettingsError → String
  | .invalid field reason => "invalid " ++ field ++ ": " ++ reason
  | .unknownProfile name => "profile '" ++ name ++ "' not found"
  | .unwritable reason => "failed to serialize config: " ++ reason
  | .unreadable e => "config loading failed: " ++ e.message
  | .keyring reason => "keyring error: " ++ reason
  | .file reason => "IO error: " ++ reason

end MangaReader

import MangaReader.Reading.Error
import MangaReader.Settings.Error

/-!
# Failures of a command

* `CommandError` : every way in which a command fails, with what its message needs.
* `CommandError.message`, `help`, `code`, `exit` : what is said of a failure, and the exit status.
* `CommandError.ofRead`, `ofSettings` : failures of reading and of the settings.
-/

namespace MangaReader

inductive CommandError where
  | unreachable (url reason : String)
  | notFound (resource identifier listCommand : String)
  | invalidSelection (message listCommand : String)
  | stream (chapter message : String)
  | timeout (chapter message : String)
  | api (status : Option Nat) (message : String)
  | validation (field reason : String)
  | profileNotFound (name available : String)
  /-- No backend is named; where the settings would be. -/
  | noSettings (path : String)
  | settings (e : SettingsError)
  /-- A question has to be answered, and no one is there to answer it. -/
  | confirmation (action : String)
  | internal (message : String)
  | file (message : String)
  deriving DecidableEq, Repr

namespace CommandError

def message : CommandError → String
  | .unreachable url _ => "Could not connect to reader backend at " ++ url
  | .notFound resource identifier _ => resource ++ " '" ++ identifier ++ "' not found"
  | .invalidSelection message _ => message
  | .stream chapter message => "Chapter " ++ chapter ++ " failed to load: " ++ message
  | .timeout chapter message => "Chapter " ++ chapter ++ " stalled: " ++ message
  | .api _ message => "API error: " ++ message
  | .validation field reason => "Invalid value for " ++ field ++ ": " ++ reason
  | .profileNotFound name _ => "Profile '" ++ name ++ "' not found in configuration"
  | .noSettings _ => "No backend configured"
  | .settings e => e.message
  | .confirmation action => "Destructive operation '" ++ action ++ "' requires confirmation"
  | .internal message => "Internal error: " ++ message
  | .file message => message

def help : CommandError → Option String
  | .unreachable url reason =>
    some ("Check that the backend is running and reachable.\nURL: " ++ url ++
      "\nReason: " ++ reason)
  | .notFound _ _ listCommand =>
    some ("Run: mangaview " ++ listCommand ++ " to see what is available")
  | .invalidSelection _ listCommand =>
    some ("Run: mangaview " ++ listCommand ++ " to see what can be opened")
  | .timeout .. =>
    some "Increase the wait with --stream-timeout or check backend responsiveness."
  | .api status _ =>
    some ("HTTP status: " ++
      (match status with
      | some n => "Some(" ++ toString n ++ ")"
      | none => "None"))
  | .profileNotFound _ available =>
    some ("Available profiles: " ++ available ++ "\nCreate one with: mangaview config init")
  | .noSettings path =>
    some ("Create a profile with: mangaview config init\nOr pass --server <URL>.\n" ++
      "Expected config at: " ++ path)
  | .confirmation _ => some "Use --yes (-y) to skip confirmation in non-interactive contexts."
  | _ => none

def code : CommandError → Option String
  | .unreachable .. => some "mangaview::connection_failed"
  | .notFound .. => some "mangaview::not_found"
  | .invalidSelection .. => some "mangaview::invalid_selection"
  | .stream .. => some "mangaview::stream"
  | .timeout .. => some "mangaview::timeout"
  | .api .. => some "mangaview::api_error"
  | .validation .. => some "mangaview::validation"
  | .profileNotFound .. => some "mangaview::profile_not_found"
  | .noSettings _ => some "mangaview::no_config"
  | .settings _ => some "mangaview::config"
  | .confirmation _ => some "mangaview::confirmation_required"
  | .internal _ => some "mangaview::internal"
  | .file _ => none

def exit : CommandError → Nat
  | .unreachable .. => 7
  | .notFound .. => 4
  | .timeout .. => 8
  | .invalidSelection .. | .validation .. | .confirmation _ => 2
  | _ => 1

def ofRead : ReadError → CommandError
  | .unreachable url reason => .unreachable url reason
  | .fetch message status => .api status message
  | .invalidSelection place reason =>
    .invalidSelection (ReadError.invalidSelection place reason).message "chapters <MANGA_ID>"
  | .stream message => .stream "(current)" message
  | .streamTimeout ms => .timeout "(current)" (ReadError.streamTimeout ms).message
  | .config message => .validation "config" message
  | .internal message => .internal message

def ofSettings : SettingsError → CommandError
  | .invalid field reason => .validation field reason
  | .unknownProfile name => .profileNotFound name "(none)"
  | .file reason => .file reason
  | e => .settings e

/-- A failure to read what belongs to an id, of a resource that a command lists. -/
def ofLookup (resource listCommand : String) (id : Int) (e : ReadError) : CommandError :=
  if e.isNotFound then .notFound resource (toString id) listCommand else ofRead e

def ofSeries : Int → ReadError → CommandError := ofLookup "manga" "history list"

def ofShow : Int → ReadError → CommandError := ofLookup "anime" "history list --anime"

end CommandError

end MangaReader

import MangaReader.Settings.Error
import MangaReader.Settings.Machine
import MangaReader.Toml.Section

/-!
# Loading and saving settings

* `Settings.ofLayers`, `Settings.loadFrom` : settings from the built-in ones, a file and the
  environment, of which a later one wins.
* `Settings.written`, `Settings.saveTo` : settings as a file.
-/

namespace MangaReader

/-- The text that bytes write, if they write one. -/
def textOfBytes? (bytes : List UInt8) : Option String := String.fromUTF8? ⟨bytes.toArray⟩

namespace Settings

/-! ## Loading -/

def builtin : Datum :=
  let text (s : String) : Datum := .text .builtin s
  let number (n : Nat) : Datum := .number .builtin (.unsigned n)
  let d : Defaults := {}
  .table .builtin
    [("default_profile", text "default"),
      ("defaults", .table .builtin
        [("color", text d.color), ("insecure", .flag .builtin d.insecure),
          ("output", text d.output), ("stream_timeout", number d.streamTimeout),
          ("timeout", number d.timeout)]),
      ("profiles", .table .builtin [])]

/-- What the bytes of a file hold, under the name that is shown of it. -/
def fileDatum (shown : String) (bytes : List UInt8) : Except LoadError Datum :=
  match textOfBytes? bytes with
  | none => .error (.notText shown)
  | some text =>
    match Toml.Document.parse text with
    | .error spot => .error (.malformed spot)
    | .ok members => .ok (Datum.ofToml (.file shown) (.table members))

/-- The settings of a file's bytes, if there is a file, and of an environment. -/
def ofLayers (shown : String) (bytes : Option (List UInt8)) (environment : Environment) :
    Except SettingsError Settings := do
  let file ← match bytes with
    | none => .ok builtin
    | some bytes =>
      match fileDatum shown bytes with
      | .ok d => .ok (builtin.merge d)
      | .error e => .error (.unreadable e)
  match Settings.ofDatum (file.merge environment.settings) with
  | .ok s => .ok s
  | .error m => .error (.unreadable (.misfit m))

/-- The settings of a file and the environment. A file that does not exist sets nothing. -/
def loadFrom (m : Machine) (path : String) : Except SettingsError Settings :=
  ofLayers (m.shown path) (m.files.read? path) m.environment

def load (m : Machine) : Except SettingsError Settings := loadFrom m m.settingsPath

/-- The settings of the user, or the built-in ones if those cannot be read. -/
def loadOrDefault (m : Machine) : Settings :=
  match load m with
  | .ok s => s
  | .error _ => {}

/-! ## Saving -/

open Toml

def pair? {α : Type} (name : String) (value : α → Value) (a : Option α) : List (String × Value) :=
  (a.map fun a => (name, value a)).toList

def count (n : Nat) : Value := .integer n

def defaultPairs (d : Defaults) : List (String × Value) :=
  [("output", .text d.output), ("color", .text d.color), ("insecure", .flag d.insecure),
    ("timeout", count d.timeout), ("stream_timeout", count d.streamTimeout)]

def profilePairs (p : Profile) : List (String × Value) :=
  [("server", .text p.server), ("site", .text p.site.name)] ++
    pair? "public_prefix" .text p.publicPath ++ pair? "storage_prefix" .text p.storagePath ++
    pair? "session_cookie" .text p.cookie ++ pair? "session_cookie_env" .text p.cookieVariable ++
    pair? "ca_cert" .text p.caFile ++ pair? "insecure" .flag p.insecure ++
    pair? "timeout" count p.timeout ++ pair? "stream_timeout" count p.streamTimeout ++
    pair? "record_history" .flag p.recordHistory

def sections (s : Settings) : List Section :=
  (s.defaultProfile.map fun name => Section.mk [] [("default_profile", .text name)]).toList ++
    [⟨["defaults"], defaultPairs s.defaults⟩] ++
    (if s.profiles.entries.isEmpty then [⟨["profiles"], []⟩]
      else s.profiles.entries.map fun p => ⟨["profiles", p.1], profilePairs p.2⟩)

def timeouts (s : Settings) : List Nat :=
  [s.defaults.timeout, s.defaults.streamTimeout] ++
    s.profiles.entries.flatMap fun p => p.2.timeout.toList ++ p.2.streamTimeout.toList

/-- The settings as a file; `none` if a time is too large for one. -/
def written? (s : Settings) : Option String :=
  if s.timeouts.all (· < 1 <<< 63) then some (Section.document s.sections) else none

/-- Keeps settings in a file. The directories above it and the file itself can always be written:
a file system that refuses is not modelled, so `SettingsError.file` does not come from here. -/
def saveTo (s : Settings) (files : Files) (path : String) : Except SettingsError Files :=
  match s.written? with
  | some text => .ok (files.write path text.toUTF8.toList)
  | none => .error (.unwritable "out-of-range value for u64 type")

end Settings

end MangaReader

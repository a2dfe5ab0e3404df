import MangaReader.Settings.Effective
import MangaReader.Text.Whole

/-!
# Changing settings by key

* `SettingKey`, `SettingKey.ofName?` : what can be set on a profile.
* `Profile.assign` : a profile with a value under a key.
* `Settings.assign` : settings with a value under a key of one profile.
-/

namespace MangaReader

inductive SettingKey where
  | server
  | site
  | publicPath
  | storagePath
  | cookie
  | cookieVariable
  | caFile
  | insecure
  | recordHistory
  | timeout
  | streamTimeout
  deriving DecidableEq, Repr

namespace SettingKey

def all : List SettingKey :=
  [.server, .site, .publicPath, .storagePath, .cookie, .cookieVariable, .caFile, .insecure,
    .recordHistory, .timeout, .streamTimeout]

def name : SettingKey → String
  | .server => "server"
  | .site => "site"
  | .publicPath => "public_prefix"
  | .storagePath => "storage_prefix"
  | .cookie => "session_cookie"
  | .cookieVariable => "session_cookie_env"
  | .caFile => "ca_cert"
  | .insecure => "insecure"
  | .recordHistory => "record_history"
  | .timeout => "timeout"
  | .streamTimeout => "stream_timeout"

/-- The other name of a key, with hyphens for underscores. -/
def hyphenated (k : SettingKey) : String := k.name.map fun c => if c = '_' then '-' else c

def ofName? (name : String) : Option SettingKey :=
  all.find? fun k => k.name = name || k.hyphenated = name

end SettingKey

namespace Profile

/-- The value that a text stands for under a key, or what it has to be. -/
def readUnder {α : Type} (key : SettingKey) (wanted : String) (value : Option α) :
    Except SettingsError α :=
  match value with
  | some a => .ok a
  | none => .error (.invalid key.name ("must be " ++ wanted))

def flag? (value : String) : Option Bool :=
  if value = "true" then some true else if value = "false" then some false else none

def assign (p : Profile) (key : SettingKey) (value : String) : Except SettingsError Profile :=
  let flag := readUnder key "'true' or 'false'" (flag? value)
  let seconds := readUnder key "a number (seconds)" (Text.natural? (1 <<< 64) value)
  match key with
  | .server => .ok { p with server := value }
  | .site =>
    (readUnder key "manhuaren, copymanga or mangabat" (Site.ofName? value)).map fun site =>
      { p with site }
  | .publicPath => .ok { p with publicPath := some value }
  | .storagePath => .ok { p with storagePath := some value }
  | .cookie => .ok { p with cookie := some value }
  | .cookieVariable => .ok { p with cookieVariable := some value }
  | .caFile => .ok { p with caFile := some value }
  | .insecure => flag.map fun b => { p with insecure := some b }
  | .recordHistory => flag.map fun b => { p with recordHistory := some b }
  | .timeout => seconds.map fun n => { p with timeout := some n }
  | .streamTimeout => seconds.map fun n => { p with streamTimeout := some n }

/-- A profile whose backend, if it names one, can be asked. -/
def checked (p : Profile) : Except SettingsError Profile :=
  if p.server.isEmpty then .ok p else p.address.map fun _ => p

end Profile

/-- Settings with a value under a key of one profile, which is blank before if it is missing. -/
def Settings.assign (s : Settings) (name : String) (key : SettingKey) (value : String) :
    Except SettingsError Settings := do
  let p ← ((s.profiles.get? name).getD {}).assign key value
  let p ← p.checked
  return { s with profiles := s.profiles.insert name p }

end MangaReader

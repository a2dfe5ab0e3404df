import MangaReader.Reading.Settings
import MangaReader.Settings.Error
import MangaReader.Settings.Machine
import MangaReader.Url.Parse

/-!
# Settings in effect

What is set for a profile, and where it says nothing for all profiles, gives the settings of a
reader.

* `Settings.profile?` : the profile that is meant.
* `Profile.address` : where its backend is.
* `Profile.cookieOn`, `Machine.keepCookie` : the session cookie, from the environment, the keyring
  or the profile itself.
* `Profile.readerSettings` : the settings of a reader.
-/

namespace MangaReader

def Settings.profile? (s : Settings) (given : Option String) :
    Except SettingsError (String × Profile) :=
  match s.profiles.get? (s.profileName given) with
  | some p => .ok (s.profileName given, p)
  | none => .error (.unknownProfile (s.profileName given))

namespace Profile

/-- Where the backend is: an address that can be asked over HTTP. -/
def address (p : Profile) : Except SettingsError Url :=
  match Url.parse p.server with
  | .error _ => .error (.invalid "server" ("invalid URL: " ++ p.server))
  | .ok url =>
    if url.isWeb then .ok url
    else .error (.invalid "server" ("unsupported scheme '" ++ url.scheme ++ "'"))

/-- The variable that holds the cookie of a profile that names none. -/
def cookieVariableOfAll : String := "MANGAVIEW_SESSION_COOKIE"

/-- The session cookie on a machine: the environment's, else the keyring's, else the profile's. -/
def cookieOn (p : Profile) (m : Machine) (name : String) : Option String :=
  ((m.environment.get? (p.cookieVariable.getD cookieVariableOfAll)).or
    (m.keyring.get? name)).or p.cookie

def trust (p : Profile) (d : Defaults) : Trust :=
  if p.insecure.getD d.insecure then .insecure
  else match p.caFile with
    | some path => .customCa path
    | none => .system

def assets (p : Profile) : AssetPaths :=
  let builtin : AssetPaths := {}
  ⟨p.storagePath.getD builtin.storage, p.publicPath.getD builtin.served⟩

def readerSettings (p : Profile) (m : Machine) (name : String) (d : Defaults) (manga : Int) :
    Except SettingsError ReaderSettings := do
  let server ← p.address
  return {
    server, manga
    access := {
      trust := p.trust d
      timeout := 1000 * p.timeout.getD d.timeout
      cookie := p.cookieOn m name }
    streamTimeout := 1000 * p.streamTimeout.getD d.streamTimeout
    assets := p.assets
    recordHistory := p.recordHistory.getD true }

end Profile

def Machine.keepCookie (m : Machine) (name cookie : String) : Except SettingsError Machine :=
  match m.keyring.set? name cookie with
  | some keyring => .ok { m with keyring }
  | none => .error (.keyring "Couldn't access platform secure storage: no keyring")

end MangaReader

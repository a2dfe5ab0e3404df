import MangaReader.Command.Request
import MangaReader.Command.Session
import MangaReader.Settings.Key
import MangaReader.Settings.Shown

/-!
# Commands on the settings

* `configure` : shows the settings, or changes and keeps them.
-/

namespace MangaReader.Command

open Command.Action

def save (s : Settings) : Action Unit := do
  let m ← machine
  let files ← check .ofSettings (s.saveTo m.files m.settingsPath)
  modify fun session => { session with machine := { m with files } }

def unasked (reason : String) : CommandError :=
  .validation "interactive" ("prompt failed: " ++ reason)

def missingProfile (s : Settings) (name : String) : CommandError :=
  .profileNotFound name s.available

def unknownKey (key : String) : CommandError :=
  .validation key
    ("unknown config key '" ++ key ++ "'. Valid keys: " ++
      ", ".intercalate (SettingKey.all.map SettingKey.name))

def assign (o : Options) (name value : String) : Action Unit := do
  let s ← settings
  match SettingKey.ofName? name with
  | none => refuse (unknownKey name)
  | some key =>
    save (← check .ofSettings (s.assign (o.profileName s) key value))
    note ("✓ Set " ++ name ++ " on profile '" ++ o.profileName s ++ "'")

/-- Lists the profiles, of which the default one is marked. -/
def listProfiles : Action Unit := do
  let s ← settings
  if s.profiles.names.isEmpty then note "No profiles configured. Run: mangaview config init"
  else
    s.profiles.names.forM fun name =>
      print (name ++ if name = s.profileName none then " *" else "")

def use (name : String) : Action Unit := do
  let s ← settings
  if (s.profiles.get? name).isNone then refuse (missingProfile s name)
  else
    save { s with defaultProfile := some name }
    note ("✓ Default profile set to '" ++ name ++ "'")

/-- Keeps the cookie of a profile in the keyring. The cookie would be asked for, which needs a
terminal. -/
def keepCookie (o : Options) : Action Unit := do
  let s ← settings
  if (s.profiles.get? (o.profileName s)).isNone then refuse (missingProfile s (o.profileName s))
  else refuse (unasked "No such device or address (os error 6)")

/-- Creates settings by asking for them, which needs a terminal. -/
def create : Action Unit := do
  note "mangaview configuration wizard"
  note ("   Config path: " ++ (← machine).settingsPath ++ "\n")
  refuse (unasked "IO error: not a terminal")

def configure (o : Options) : SettingsRequest → Action Unit
  | .create => create
  | .view => do report o (← settings).report
  | .assign key value => assign o key value
  | .profiles => listProfiles
  | .use name => use name
  | .keepCookie => keepCookie o

end MangaReader.Command

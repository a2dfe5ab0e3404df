import MangaReader.Files
import MangaReader.Settings.Environment

/-!
# The machine that a program runs on

* `Keyring` : the secrets that the system keeps.
* `Machine` : the files, the environment and the keyring that a program finds.
* `Machine.settingsPath` : where the settings are kept.
-/

namespace MangaReader

/-- The secrets that the system keeps, under the names of profiles; `none` if it keeps none. -/
structure Keyring where
  secrets : Option (List (String × String)) := some []
  deriving DecidableEq, Repr

namespace Keyring

def get? (k : Keyring) (name : String) : Option String := k.secrets.bind (·.lookup name)

/-- Keeps a secret under a name; `none` if the system keeps no secrets. -/
def set? (k : Keyring) (name secret : String) : Option Keyring :=
  k.secrets.map fun secrets => ⟨some ((name, secret) :: secrets.filter (·.1 ≠ name))⟩

end Keyring

structure Machine where
  files : Files := {}
  environment : Environment := []
  keyring : Keyring := {}
  deriving DecidableEq, Repr

namespace Machine

def joined (directory name : String) : String :=
  if directory.endsWith "/" then directory ++ name else directory ++ "/" ++ name

def settingsRoot (m : Machine) : String :=
  match (m.environment.get? "XDG_CONFIG_HOME").filter (·.startsWith "/") with
  | some directory => directory
  | none => joined ((m.environment.get? "HOME").getD ".") ".config"

def settingsPath (m : Machine) : String := joined (joined m.settingsRoot "mangaview") "config.toml"

/-- A path as it is shown: within the working directory, without that. -/
def shown (m : Machine) (path : String) : String :=
  let path := m.files.locate path
  let directory := joined m.files.workingDirectory ""
  if path.startsWith directory then String.ofList (path.toList.drop directory.length) else path

end Machine

end MangaReader

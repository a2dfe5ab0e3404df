import MangaReader.Command.Configure
import MangaReader.Command.History
import MangaReader.Command.Reading

/-!
# Running a command line

* `Ending` : why a command line comes to no good end.
* `perform` : what is done for a request.
* `run` : runs a command line.
-/

namespace MangaReader.Command

open Arguments

/-- Why a command line comes to no good end. -/
inductive Ending where
  | misused (f : UsageFault)
  | failed (e : CommandError)
  deriving DecidableEq, Repr

def Ending.exit : Ending → Nat
  | .misused f => f.exit
  | .failed e => e.exit

def Ending.message : Ending → String
  | .misused .version => "mangaview 0.1.0"
  | .misused _ => "Usage: mangaview [OPTIONS] <COMMAND>"
  | .failed e => "Error: " ++ e.message ++ (e.help.map ("\n  help: " ++ ·)).getD ""

def perform (o : Options) : Request → Action Unit
  | .chapters manga group => chapters o manga group
  | .read q => read o q
  | .header manga => header o manga
  | .lastRead manga => lastRead o manga
  | .episodes anime => episodes o anime
  | .watch q => watch o q
  | .lastWatched anime => lastWatched o anime
  | .history medium q => history o medium q
  | .search keyword site limit => search o keyword site limit
  | .settings q => configure o q
  | .completions => return ()

/-- Runs a command line: how it ends, and what it leaves. -/
def run (words : List String) (s : Session) : Except Ending Unit × Session :=
  match Line.read programGrammar s.machine.environment words with
  | .error f => (.error (.misused f), s)
  | .ok line =>
    let (result, s) := perform (.ofLine line) (.ofLine line) s
    (result.mapError .failed, s)

end MangaReader.Command

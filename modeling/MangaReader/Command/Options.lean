import MangaReader.Arguments.Line
import MangaReader.Command.Error
import MangaReader.Output.Report
import MangaReader.Settings.Effective
import MangaReader.Settings.Store

/-!
# Options of all commands

* `Coloring`, `Options` : what every command can be told.
* `Options.ofLine` : the options of a command line.
* `Options.readerSettings` : the settings in effect on a machine.
-/

namespace MangaReader.Command

open Arguments Output

inductive Coloring where
  | auto
  | always
  | never
  deriving DecidableEq, Repr

structure Options where
  profile : Option String := none
  server : Option String := none
  cookie : Option String := none
  output : OutputForm := .table
  color : Coloring := .auto
  quiet : Bool := false
  yes : Bool := false
  insecure : Bool := false
  /-- Seconds. -/
  timeout : Option Nat := none
  /-- Seconds. -/
  streamTimeout : Option Nat := none
  deriving DecidableEq, Repr

namespace Options

def outputOf : Option String → OutputForm
  | some "json" => .json
  | some "json-compact" => .compactJson
  | some "yaml" => .yaml
  | some "plain" => .plain
  | _ => .table

def colorOf : Option String → Coloring
  | some "always" => .always
  | some "never" => .never
  | _ => .auto

def ofLine (line : Line) : Options where
  profile := line.get? "profile"
  server := line.get? "server"
  cookie := line.get? "session-cookie"
  output := outputOf (line.get? "output")
  color := colorOf (line.get? "color")
  quiet := line.isTrue "quiet"
  yes := line.isTrue "yes"
  insecure := line.isTrue "insecure"
  timeout := line.natural? "timeout"
  streamTimeout := line.natural? "stream-timeout"

/-- Whether results are colored. Without a terminal they are only if that is asked for. -/
def colored (o : Options) : Bool := o.color = .always

def profileName (o : Options) (s : Settings) : String := s.profileName o.profile

/-- The profile that is meant: one that is set, or a blank one if only the backend is given. -/
def profileIn (o : Options) (m : Machine) (s : Settings) : Except CommandError Profile :=
  match s.profiles.get? (o.profileName s), o.server with
  | some p, _ => .ok p
  | none, some _ => .ok {}
  | none, none =>
    if o.profile.isSome then .error (.profileNotFound (o.profileName s) s.available)
    else .error (.noSettings m.settingsPath)

/-- Settings of a reader with the options laid over them. -/
def overlay (o : Options) (r : ReaderSettings) : ReaderSettings :=
  { r with
    access := { r.access with
      trust := if o.insecure then .insecure else r.access.trust
      timeout := (o.timeout.map (1000 * ·)).getD r.access.timeout
      cookie := o.cookie.or r.access.cookie }
    streamTimeout := (o.streamTimeout.map (1000 * ·)).getD r.streamTimeout }

/-- The settings of a reader of a series, under given settings of the user. -/
def readerSettingsUnder (o : Options) (m : Machine) (s : Settings) (manga : Int) :
    Except CommandError ReaderSettings := do
  let p ← o.profileIn m s
  let p := { p with server := o.server.getD p.server }
  match p.readerSettings m (o.profileName s) s.defaults manga with
  | .ok r => .ok (o.overlay r)
  | .error e => .error (.ofSettings e)

def readerSettings (o : Options) (m : Machine) (manga : Int) : Except CommandError ReaderSettings :=
  o.readerSettingsUnder m (Settings.loadOrDefault m) manga

end Options

end MangaReader.Command

import MangaReader.Backend.Script
import MangaReader.Command.Options
import MangaReader.Library.Library

/-!
# What a command does

A command changes the machine that it runs on and asks a backend, and it writes results and notes.

* `Session` : the machine, the backend and what has been written.
* `Action` : what a command does, which may fail; what was done before stays done.
* `Action.report`, `Action.say`, `Action.ask`, `Action.library` : single actions.
-/

namespace MangaReader.Command

open Output

structure Session where
  machine : Machine := {}
  backend : Backend := {}
  /-- The results written. -/
  output : String := ""
  /-- The notes written beside the results. -/
  notes : String := ""
  deriving DecidableEq, Repr

/-- What a command does, which may fail. -/
abbrev Action (α : Type) : Type := ExceptT CommandError (StateM Session) α

namespace Action

def refuse {α : Type} (e : CommandError) : Action α := throw e

/-- Goes on unless something has failed. -/
def check {ε α : Type} (error : ε → CommandError) : Except ε α → Action α
  | .ok a => return a
  | .error e => refuse (error e)

def print (line : String) : Action Unit :=
  modify fun s => { s with output := s.output ++ line ++ "\n" }

def note (line : String) : Action Unit :=
  modify fun s => { s with notes := s.notes ++ line ++ "\n" }

/-- Writes a line of notes, unless the command is to be quiet. -/
def say (o : Options) (line : String) : Action Unit := if o.quiet then return () else note line

/-- Writes a result, unless it is empty or the command is to be quiet. -/
def report (o : Options) (r : Report) : Action Unit :=
  let text := r.text o.output
  if o.quiet || text.isEmpty then return () else print text

def machine : Action Machine := return (← get).machine

def settings : Action Settings := return Settings.loadOrDefault (← machine)

def ask {α : Type} (error : ReadError → CommandError) (e : Exchange ReadError α) : Action α := do
  let s ← get
  let (result, backend) := e s.backend
  set { s with backend }
  check error result

/-- The library that the options lead to; a reader of it would read a series. -/
def library (o : Options) (manga : Int) : Action Library := do
  let m ← machine
  let r ← check id (o.readerSettings m manga)
  check .ofRead (Library.connect m.files r.access r.assets r.server)

end Action

end MangaReader.Command

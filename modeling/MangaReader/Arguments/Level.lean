import MangaReader.Arguments.Grammar
import MangaReader.Settings.Environment

/-!
# What one command of a command line is given

The words after a command, up to the name of a command below it, fill a level: they name parameters
and give values.

* `Level` : a command with what it has been given so far.
* `Level.settle` : takes a value that is complete.
* `Level.long`, `Level.cluster`, `Level.place` : a word that names parameters or is given by its
  place.
* `Level.finish` : the level at the end of the line.
-/

namespace MangaReader.Arguments

/-- Where a value comes from; the command line is the stronger one. -/
inductive Origin where
  | environment
  | line
  deriving DecidableEq, Repr

structure Given where
  name : String
  origin : Origin
  value : String
  deriving DecidableEq, Repr

/-- A parameter that has been named, and the value for it, if that has come. -/
structure Unsettled where
  name : String
  kind : Kind
  value : Option String
  deriving DecidableEq, Repr

structure Level where
  grammar : Grammar
  /-- All parameters that the command takes. -/
  parameters : List Parameter
  /-- The positional values that are still to come. -/
  positionals : List Positional
  given : List Given := []
  unsettled : Option Unsettled := none

namespace Level

/-- A command that has been given nothing. It takes the shared parameters of the command above,
those apart that it has parameters of its own for. -/
def enter (inherited : List Parameter) (g : Grammar) : Level where
  grammar := g
  parameters := g.parameters ++ g.shared ++
    inherited.filter fun p => !(g.parameters ++ g.shared).any (·.long = p.long)
  positionals := g.positionals

def inherited (l : Level) : List Parameter := l.parameters.filter fun p =>
  !l.grammar.parameters.any (·.long = p.long)

def has (l : Level) (name : String) : Bool := l.given.any (·.name = name)

def add (l : Level) (name value : String) : Level :=
  { l with given := l.given ++ [⟨name, .line, value⟩] }

/-- Takes a value of the command line. A parameter takes one alone. -/
def take (l : Level) (name : String) (kind : Kind) (value : String) : Except UsageFault Level :=
  if l.has name then .error .conflict
  else match kind.fault? value with
    | some fault => .error fault
    | none => .ok (l.add name value)

def settle (l : Level) : Except UsageFault Level :=
  match l.unsettled with
  | none => .ok l
  | some ⟨_, _, none⟩ => .error .invalidValue
  | some ⟨name, kind, some value⟩ => { l with unsettled := none }.take name kind value

/-- Whether the next word is a value if it names no parameter. -/
def isWaiting (l : Level) : Bool :=
  match l.unsettled with
  | some ⟨_, _, none⟩ => true
  | _ => false

def fill (l : Level) (word : String) : Level :=
  { l with unsettled := l.unsettled.map fun u => { u with value := some word } }

def name (l : Level) (p : Parameter) (attached : Option String) : Except UsageFault Level := do
  match p.effect, attached with
  | .value kind, some value => (← l.settle).take p.long kind value
  | .value kind, none => return { (← l.settle) with unsettled := some ⟨p.long, kind, none⟩ }
  | _, some _ => .error .surplusValue
  | .mark again, none =>
    let l ← l.settle
    if again && l.has p.long then return l else l.take p.long .truth "true"
  | .help, none => let _ ← l.settle; .error .help
  | .version, none => let _ ← l.settle; .error .version

def long (l : Level) (word : List Char) : Except UsageFault Level :=
  match l.parameters.find? (·.long.toList = word.takeWhile (· ≠ '=')) with
  | none => .error .unknownArgument
  | some p =>
    l.name p (match word.dropWhile (· ≠ '=') with
      | [] => none
      | _ :: value => some (String.ofList value))

/-- A word after one dash: short names, of which the last may have a value attached. -/
def cluster (l : Level) : List Char → Except UsageFault Level
  | [] => .ok l
  | c :: rest =>
    match l.parameters.find? (·.short = some c) with
    | none => .error .unknownArgument
    | some p =>
      match p.effect with
      | .value _ =>
        l.name p (match rest with
          | [] => none
          | '=' :: value => some (String.ofList value)
          | value => some (String.ofList value))
      | _ => do (← l.name p none).cluster rest

/-- What is wrong with a word that has no place. After `--` the name of a command is no name. -/
def misplaced (l : Level) (trailing : Bool) (word : String) : UsageFault :=
  if trailing &&
      ((l.grammar.command? word).isSome || word = "help" && !l.grammar.commands.isEmpty) then
    .unknownArgument
  else if l.grammar.commands.isEmpty then .unknownArgument
  else .unknownCommand

def place (l : Level) (trailing : Bool) (word : String) : Except UsageFault Level :=
  match l.positionals with
  | [] => .error (l.misplaced trailing word)
  | p :: rest => do
    let l ← l.settle
    return { l with positionals := rest, unsettled := some ⟨p.name, p.kind, some word⟩ }

def takeFallback (env : Environment) (l : Level) (p : Parameter) : Except UsageFault Level :=
  match p.fallback.bind env.get? with
  | none => .ok l
  | some value =>
    if l.has p.long then .ok l
    else match p.effect.kind.fault? value with
      | some fault => .error fault
      | none => .ok { l with given := l.given ++ [⟨p.long, .environment, value⟩] }

def hasConflict (l : Level) : Bool :=
  l.parameters.any fun p => l.has p.long && p.excludes.any l.has

/-- The level at the end of the line; `last` if no command below it is named. -/
def finish (env : Environment) (last : Bool) (l : Level) : Except UsageFault Level := do
  let l ← l.settle
  let l ← l.parameters.foldlM (takeFallback env) l
  if last && !l.grammar.commands.isEmpty then
    .error (if l.given.isEmpty then .helpForNothing else .missingCommand)
  else if l.hasConflict then .error .conflict
  else if !l.positionals.isEmpty then .error .missingArgument
  else .ok l

end Level

end MangaReader.Arguments

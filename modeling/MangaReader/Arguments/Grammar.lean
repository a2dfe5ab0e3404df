import MangaReader.Text.Whole

/-!
# Grammars of command lines

A command line names a command, which may have commands below it, and gives values to parameters.

* `UsageFault` : why a command line is not followed.
* `Kind` : what the values of a parameter are.
* `Parameter`, `Positional`, `Grammar` : what a command takes.
-/

namespace MangaReader.Arguments

/-- Why a command line is not followed; it may only ask for help. -/
inductive UsageFault where
  | unknownArgument
  | unknownCommand
  /-- A value is missing or none of those that can be given. -/
  | invalidValue
  /-- A value cannot be read. -/
  | unreadableValue
  /-- A value where none is wanted. -/
  | surplusValue
  | missingArgument
  | missingCommand
  /-- Arguments that exclude each other, or one that is given twice. -/
  | conflict
  | help
  | version
  /-- Nothing is said where a command is wanted, so that help is given. -/
  | helpForNothing
  deriving DecidableEq, Repr

def UsageFault.exit : UsageFault → Nat
  | .help | .version => 0
  | _ => 2

inductive Kind where
  | text
  /-- A number of 64 bits that is not negative. -/
  | natural
  /-- A number of 64 bits. -/
  | integer
  | truth
  /-- One of some names. -/
  | choice (names : List String)
  deriving DecidableEq, Repr

def Kind.fault? (value : String) : Kind → Option UsageFault
  | .text => none
  | .natural => if (Text.natural? (1 <<< 64) value).isSome then none else some .unreadableValue
  | .integer => if (Text.integer? value).isSome then none else some .unreadableValue
  | .truth => if value ∈ ["true", "false"] then none else some .invalidValue
  | .choice names => if value ∈ names then none else some .invalidValue

/-- What it does to name a parameter. -/
inductive Effect where
  /-- A value follows. -/
  | value (kind : Kind)
  /-- The parameter is true; it may be named again if `again`. -/
  | mark (again : Bool)
  | help
  | version
  deriving DecidableEq, Repr

def Effect.kind : Effect → Kind
  | .value kind => kind
  | _ => .truth

/-- A parameter that is named by its long or its short name. -/
structure Parameter where
  long : String
  short : Option Char := none
  effect : Effect
  /-- The variable of the environment that gives a value where the command line gives none. -/
  fallback : Option String := none
  /-- The long names of the parameters that this one excludes. -/
  excludes : List String := []
  deriving DecidableEq, Repr

/-- A value that is given by its place, and that may not be missing. -/
structure Positional where
  name : String
  kind : Kind
  deriving DecidableEq, Repr

/-- A command: its names, what it takes, and the commands below it, one of which has to be named if
there are any. -/
structure Grammar where
  names : List String
  parameters : List Parameter := []
  positionals : List Positional := []
  /-- The parameters of this command and of all below it. -/
  shared : List Parameter := []
  commands : List Grammar := []

namespace Grammar

def command? (g : Grammar) (word : String) : Option Grammar :=
  g.commands.find? (·.names.contains word)

end Grammar

end MangaReader.Arguments

import MangaReader.Arguments.Level

/-!
# Command lines

* `Line` : a command line that has been followed: the command and the values.
* `Line.read` : follows the words of a command line.
-/

namespace MangaReader.Arguments

structure Progress where
  /-- The command that was named last. -/
  level : Level
  /-- The commands above it, the nearest first. -/
  above : List Level := []
  /-- Whether two dashes have come, after which a word names no parameter. -/
  trailing : Bool := false
  /-- The command that help is asked for, if it is. -/
  asked : Option Grammar := none

namespace Progress

def helpCommand : Grammar := { names := ["help"] }

def command? (g : Grammar) (word : String) : Option Grammar :=
  if word = "help" && !g.commands.isEmpty then some helpCommand else g.command? word

def word (r : Progress) (word : String) : Except UsageFault Progress :=
  let on (l : Except UsageFault Level) : Except UsageFault Progress :=
    l.map fun level => { r with level }
  match word.toList with
  | ['-', '-'] => .ok { r with trailing := true }
  | '-' :: '-' :: rest => on (r.level.long rest)
  | '-' :: c :: rest => on (r.level.cluster (c :: rest))
  | _ => if r.level.isWaiting then on (.ok (r.level.fill word)) else on (r.level.place false word)

def step (r : Progress) (w : String) : Except UsageFault Progress :=
  match r.asked with
  | some g =>
    match command? g w with
    | some g => .ok { r with asked := some g }
    | none => .error .unknownCommand
  | none =>
    if r.trailing then (r.level.place true w).map fun level => { r with level }
    else if r.level.isWaiting then r.word w
    else
      match command? r.level.grammar w with
      | none => r.word w
      | some g =>
        if w = "help" then .ok { r with asked := some r.level.grammar }
        else .ok { level := .enter r.level.inherited g, above := r.level :: r.above }

/-- The levels at the end of the line, the deepest first. That is also the order in which they are
looked at. -/
def finish (env : Environment) (r : Progress) : Except UsageFault (List Level) :=
  match r.asked with
  | some _ => .error .help
  | none => do
    let last ← r.level.finish env true
    let above ← r.above.mapM (Level.finish env false)
    return last :: above

end Progress

structure Line where
  /-- The names of the commands, from the one at the top. -/
  path : List String
  /-- The values that have been given, the strongest of a parameter first. -/
  given : List Given
  deriving DecidableEq, Repr

namespace Line

def read (g : Grammar) (env : Environment) (words : List String) : Except UsageFault Line := do
  let progress ← words.foldlM Progress.step { level := .enter [] g }
  let levels ← progress.finish env
  let given := levels.flatMap (·.given)
  return {
    path := levels.reverse.map fun l => l.grammar.names.headD ""
    given := given.filter (·.origin = .line) ++ given.filter (·.origin = .environment) }

/-- The value of a parameter, if it has one. A deeper command is stronger than one above, and the
command line is stronger than the environment. -/
def get? (line : Line) (name : String) : Option String :=
  (line.given.find? (·.name = name)).map (·.value)

def natural? (line : Line) (name : String) : Option Nat :=
  (line.get? name).bind (Text.natural? (1 <<< 64))

def integer? (line : Line) (name : String) : Option Int := (line.get? name).bind Text.integer?

def isTrue (line : Line) (name : String) : Bool := line.get? name = some "true"

end Line

end MangaReader.Arguments

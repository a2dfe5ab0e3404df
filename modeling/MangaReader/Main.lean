import MangaReader.Command.Run

/-!
# The program

The outer layer of the program: it finds the machine that it runs on, runs the command line on that
and carries out what has changed. It opens no connections, so that no backend can be reached through
it.

* `main` : the program.
-/

namespace MangaReader

/-- The variables in the form in which the system lists them, each ended by a null character. -/
def variablesOf (listed : String) : Environment :=
  (listed.splitOn "\x00").filterMap fun entry =>
    match entry.splitOn "=" with
    | name :: value :: more => some (name, "=".intercalate (value :: more))
    | _ => none

def bytesOf? (path : String) : IO (Option (List UInt8)) := do
  try return some (← IO.FS.readBinFile path).toList
  catch _ => return none

def lookAt (m : Machine) (path : String) : IO Machine := do
  match ← bytesOf? (m.files.locate path) with
  | some bytes => return { m with files := m.files.write path bytes }
  | none => return m

/-- The machine that the program runs on, with the files that settings name. -/
def findMachine : IO Machine := do
  let listed := (← bytesOf? "/proc/self/environ").getD []
  let m : Machine :=
    { files := { workingDirectory := (← IO.currentDir).toString }
      environment := variablesOf (String.ofList (Utf8.decode listed))
      keyring := ⟨none⟩ }
  let m ← lookAt m m.settingsPath
  (Settings.loadOrDefault m).profiles.entries.foldlM (fun m p =>
    match p.2.caFile with
    | some path => lookAt m path
    | none => return m) m

/-- Writes the settings if they have changed. -/
def carryOut (before after : Machine) : IO Unit := do
  let path := after.settingsPath
  match after.files.read? path with
  | some bytes =>
    if before.files.read? path != some bytes then
      IO.FS.createDirAll (after.settingsRoot ++ "/mangaview")
      IO.FS.writeBinFile path ⟨bytes.toArray⟩
  | none => return

end MangaReader

open MangaReader

def main (words : List String) : IO UInt32 := do
  let m ← findMachine
  let (result, s) := Command.run words { machine := m }
  carryOut m s.machine
  IO.print s.output
  IO.eprint s.notes
  match result with
  | .ok () => return 0
  | .error ending =>
    IO.eprintln ending.message
    return ending.exit.toUInt32

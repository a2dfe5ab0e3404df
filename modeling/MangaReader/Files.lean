import MangaReader.Text.Utf8

/-!
# Files

* `Files` : the files that a program sees, under absolute paths, and its working directory.
* `Files.read?`, `Files.write`, `Files.erase` : access by path.
-/

namespace MangaReader

structure Files where
  /-- The directory that relative paths start from. -/
  workingDirectory : String := "/"
  /-- The bytes of each file under its absolute path. -/
  entries : List (String × List UInt8) := []
  deriving DecidableEq, Repr

namespace Files

def locate (files : Files) (path : String) : String :=
  if path.startsWith "/" then path
  else if files.workingDirectory.endsWith "/" then files.workingDirectory ++ path
  else files.workingDirectory ++ "/" ++ path

def read? (files : Files) (path : String) : Option (List UInt8) :=
  files.entries.lookup (files.locate path)

def erase (files : Files) (path : String) : Files :=
  { files with entries := files.entries.filter (·.1 != files.locate path) }

def write (files : Files) (path : String) (content : List UInt8) : Files :=
  { files with
    entries := (files.locate path, content) :: (files.erase path).entries }

theorem read?_write_self (files : Files) (path : String) (content : List UInt8) :
    (files.write path content).read? path = some content := by
  simp [write, read?, locate]

def missing : String := "No such file or directory (os error 2)"

end Files

end MangaReader

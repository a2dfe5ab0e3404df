/-!
# Colors

* `Color.accent`, `Color.muted` : text that stands out or steps back on a terminal with colors.
-/

namespace MangaReader.Output.Color

def escape : String := "\x1b["

def accent (colored : Bool) (text : String) : String :=
  if colored then
    escape ++ "1m" ++ escape ++ "36m" ++ text ++ escape ++ "39m" ++ escape ++ "0m"
  else text

def muted (colored : Bool) (text : String) : String :=
  if colored then escape ++ "2m" ++ text ++ escape ++ "0m" else text

end MangaReader.Output.Color

/-!
# Replacing a part of a text

* `splitAt? pattern text` : what stands before and after the leftmost occurrence of a pattern.
* `replaceFirst pattern by text` : the text with that occurrence replaced.
-/

namespace MangaReader.Text

/-- The text after a pattern that it starts with. -/
def dropPattern? : List Char → List Char → Option (List Char)
  | [], text => some text
  | _ :: _, [] => none
  | p :: ps, c :: cs => if p = c then dropPattern? ps cs else none

/-- What stands before and after the leftmost occurrence of a pattern. -/
def splitAt? (pattern : List Char) (text : List Char) : Option (List Char × List Char) :=
  match dropPattern? pattern text with
  | some rest => some ([], rest)
  | none =>
    match text with
    | [] => none
    | c :: cs => (splitAt? pattern cs).map fun (before, after) => (c :: before, after)

def replaceFirst (pattern replacement text : List Char) : List Char :=
  match splitAt? pattern text with
  | some (before, after) => before ++ replacement ++ after
  | none => text

end MangaReader.Text

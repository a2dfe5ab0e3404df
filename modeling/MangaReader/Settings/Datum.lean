import MangaReader.Settings.Named
import MangaReader.Text.Quoted
import MangaReader.Toml.Document

/-!
# Settings before they are read

Settings come from several sources, of which a later one wins. A datum remembers where it comes
from, so that a mistake can be traced.

* `Source`, `Datum` : sources and what they hold.
* `Datum.ofToml` : the data of a TOML document.
* `Datum.merge` : data of which the later wins, tables member by member.
-/

namespace MangaReader

inductive Source where
  | builtin
  /-- A file, under the name that is shown of it. -/
  | file (shown : String)
  /-- Variables of the environment. -/
  | environment
  deriving DecidableEq, Repr

inductive Numeral where
  | signed (n : Int)
  | unsigned (n : Nat)
  /-- A number with a fraction, as it is shown. -/
  | real (shown : String)
  deriving DecidableEq, Repr

inductive Datum where
  | text (source : Source) (s : String)
  | character (source : Source) (c : Char)
  | flag (source : Source) (b : Bool)
  | number (source : Source) (n : Numeral)
  | list (source : Source) (items : List Datum)
  /-- Data under names, in the order of the names. -/
  | table (source : Source) (members : List (String × Datum))
  deriving Repr

namespace Datum

def source : Datum → Source
  | .text s _ | .character s _ | .flag s _ | .number s _ | .list s _ | .table s _ => s

/-- The name under which a date or a time stands in a table of its own. -/
def momentName : String := "$__toml_private_datetime"

mutual

def ofToml (source : Source) : Toml.Value → Datum
  | .text s => .text source s
  | .integer n => .number source (.signed n)
  | .real shown => .number source (.real shown)
  | .flag b => .flag source b
  | .moment shown => .table source [(momentName, .text source shown)]
  | .list items => .list source (ofTomlItems source items)
  | .table members => .table source (ofTomlMembers source members)

def ofTomlItems (source : Source) : List Toml.Value → List Datum
  | [] => []
  | v :: rest => ofToml source v :: ofTomlItems source rest

def ofTomlMembers (source : Source) : List (String × Toml.Value) → List (String × Datum)
  | [] => []
  | (name, v) :: rest => insertNamed name (ofToml source v) (ofTomlMembers source rest)

end

mutual

/-- A datum with another one laid over it. -/
def merge (old : Datum) : Datum → Datum
  | .table source new =>
    match old with
    | .table _ members => .table source (mergeMembers members new)
    | _ => .table source new
  | new => new

def mergeMembers (old : List (String × Datum)) : List (String × Datum) → List (String × Datum)
  | [] => old
  | (name, new) :: rest =>
    mergeMembers
      (insertNamed name (match old.lookup name with
        | some d => merge d new
        | none => new) old)
      rest

end

def found : Datum → String
  | .text _ s => "string " ++ Text.Quoted.ofText s
  | .character _ c => "string " ++ Text.Quoted.ofText (String.singleton c)
  | .flag _ b => "bool " ++ toString b
  | .number _ (.signed n) => "signed int \x60" ++ toString n ++ "\x60"
  | .number _ (.unsigned n) => "unsigned int \x60" ++ toString n ++ "\x60"
  | .number _ (.real shown) => "float \x60" ++ shown ++ "\x60"
  | .list .. => "sequence"
  | .table .. => "map"

end Datum

end MangaReader

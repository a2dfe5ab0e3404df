import MangaReader.Url.Basic

/-!
# Names and values in queries and forms

* `Form.encode` : names and values as they are sent.
* `Form.decode` : the names and values of such a text.
* `Url.withPairs` : the URL with names and values as its query.
-/

namespace MangaReader.Url

namespace Form

def isKept (c : Char) : Bool := c.isAlphanum || c ∈ ['*', '-', '.', '_']

def char (c : Char) : List Char := if c = ' ' then ['+'] else Percent.char isKept c

def part (text : String) : List Char := text.toList.flatMap char

def pair (p : String × String) : List Char := part p.1 ++ '=' :: part p.2

def encode (pairs : List (String × String)) : String :=
  String.ofList (['&'].intercalate (pairs.map pair))

def unpart (text : List Char) : String :=
  String.ofList (Utf8.decode (Percent.decode (text.map fun c => if c = '+' then ' ' else c)))

def unpair (text : List Char) : String × String :=
  (unpart (text.takeWhile (· != '=')), unpart ((text.dropWhile (· != '=')).drop 1))

def decode (text : String) : List (String × String) :=
  ((Host.parts '&' text.toList).filter (!·.isEmpty)).map unpair

end Form

/-- The URL with names and values as its query; with none, as it is. -/
def withPairs (u : Url) (pairs : List (String × String)) : Url :=
  if pairs.isEmpty then u else { u with query := some (Form.encode pairs) }

end MangaReader.Url

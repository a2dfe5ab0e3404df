import MangaReader.Url.Host
import MangaReader.Url.Percent

/-!
# URLs

* `Url` : the parts of a URL, each in its written form.
* `Url.text` : the text of a URL.
* `Url.withSlash` : the URL with a slash at the end of its path.
* `Url.resolve` : the URL of a path relative to another.
-/

namespace MangaReader

/-- The path of a URL: one text, or segments after slashes. -/
inductive UrlPath where
  | whole (text : String)
  | segments (names : List String)
  deriving DecidableEq, Repr

namespace UrlPath

def text : UrlPath → String
  | .whole t => t
  | .segments names => String.join (names.map ("/" ++ ·))

def endsWithSlash : UrlPath → Bool
  | .whole t => t.toList.getLast? == some '/'
  | .segments names => names.getLast? == some ""

/-- A path with a slash at its end. The slash of an empty undivided path is written by its number,
for it would divide the path. -/
def withSlash (p : UrlPath) : UrlPath :=
  if p.endsWithSlash then p
  else
    match p with
    | .whole t => .whole (if t.isEmpty then "%2F" else t ++ "/")
    | .segments names => .segments (names ++ [""])

end UrlPath

/-- The parts of a URL, each in its written form. -/
structure Url where
  scheme : String
  user : String := ""
  password : String := ""
  host : Option String := none
  /-- The port, unless it is the usual one of the scheme. -/
  port : Option Nat := none
  path : UrlPath
  query : Option String := none
  fragment : Option String := none
  deriving DecidableEq, Repr

namespace Url

/-- The user and the password of a URL, as they stand before its host. -/
def credentials (u : Url) : String :=
  if u.user.isEmpty && u.password.isEmpty then ""
  else u.user ++ (if u.password.isEmpty then "" else ":" ++ u.password) ++ "@"

/-- What a URL shares with all others of one server: scheme, host and port. -/
def origin (u : Url) : String :=
  u.scheme ++ "://" ++ u.host.getD "" ++
    (match u.port with
    | some p => ":" ++ toString p
    | none => "")

def target (u : Url) : String :=
  u.path.text ++
    (match u.query with
    | some q => "?" ++ q
    | none => "")

def text (u : Url) : String :=
  u.scheme ++ ":" ++
    (match u.host with
    | some host =>
      "//" ++ u.credentials ++ host ++
        (match u.port with
        | some p => ":" ++ toString p
        | none => "")
    | none =>
      match u.path with
      | .segments ("" :: _ :: _) => "/."
      | _ => "") ++
    u.target ++
    (match u.fragment with
    | some f => "#" ++ f
    | none => "")

def isWeb (u : Url) : Bool := u.scheme == "http" || u.scheme == "https"

def withSlash (u : Url) : Url := { u with path := u.path.withSlash }

/-- The URL of a path relative to another URL: its names stand in place of the last segment. -/
def resolve (u : Url) (names : List String) : Except Fault Url :=
  match u.path with
  | .whole _ => .error .unresolvable
  | .segments old =>
    .ok { u with path := .segments (old.dropLast ++ names), query := none, fragment := none }

def anonymous (u : Url) : Url := { u with user := "", password := "" }

end Url

end MangaReader

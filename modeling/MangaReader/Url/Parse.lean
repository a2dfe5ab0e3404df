import MangaReader.Url.Basic

/-!
# Reading URLs

* `Url.parse` : the URL of a text, after the rules of the web.
-/

namespace MangaReader.Url

/-- The usual port number of a scheme whose URLs are divided by slashes; `none` for files. -/
def usualPort? : String → Option (Option Nat)
  | "http" | "ws" => some (some 80)
  | "https" | "wss" => some (some 443)
  | "ftp" => some (some 21)
  | "file" => some none
  | _ => none

/-- Whether the URLs of a scheme have a host and are divided by slashes of both kinds. -/
def isSpecial (scheme : String) : Bool := (usualPort? scheme).isSome

def inScheme (c : Char) : Bool := c.isAlphanum || c ∈ ['+', '-', '.']

/-- The scheme at the start of a text and what follows its colon. -/
def scheme? (text : List Char) : Option (String × List Char) :=
  match text with
  | c :: _ =>
    if c.isAlpha then
      match text.dropWhile inScheme with
      | ':' :: rest => some (String.ofList ((text.takeWhile inScheme).map Char.toLower), rest)
      | _ => none
    else none
  | [] => none

def isSlash (special : Bool) (c : Char) : Bool := c == '/' || (special && c == '\\')

/-- Whether a segment is a dot, which may be written by its number. -/
def isDot (segment : List Char) : Bool := segment.map Char.toLower ∈ ["." , "%2e"].map String.toList

def isDotDot (segment : List Char) : Bool :=
  segment.map Char.toLower ∈ ["..", ".%2e", "%2e.", "%2e%2e"].map String.toList

/-- The segments of a path; `up` holds those before, the last first. A dot stays, two dots go up. -/
def segments (up : List String) : List (List Char) → List String
  | [] => up.reverse
  | [last] =>
    if isDotDot last then ("" :: up.drop 1).reverse
    else if isDot last then ("" :: up).reverse
    else (String.ofList (Percent.encode Percent.inPath last) :: up).reverse
  | segment :: rest =>
    if isDotDot segment then segments (up.drop 1) rest
    else if isDot segment then segments up rest
    else segments (String.ofList (Percent.encode Percent.inPath segment) :: up) rest

def pathOf (special : Bool) (text : List Char) : UrlPath :=
  if text.isEmpty ∧ ¬ special then .segments []
  else
    let inner :=
      match text with
      | c :: rest => if isSlash special c then rest else text
      | [] => []
    .segments
      (segments [] (Host.parts '/' (inner.map fun c => if isSlash special c then '/' else c)))

def portOf (scheme : String) (text : List Char) : Except Fault (Option Nat) :=
  match text with
  | [] => .ok none
  | _ :: digits =>
    if digits.all Char.isDigit then
      let n := digits.foldl (fun n d => n * 10 + (d.toNat - 48)) 0
      if 65535 < n then .error .invalidPort
      else .ok (if digits.isEmpty ∨ usualPort? scheme = some (some n) then none else some n)
    else .error .invalidPort

/-- The text before the last occurrence of a mark, if it occurs, and the text after it. -/
def atLast (mark : Char) (text : List Char) : Option (List Char) × List Char :=
  let after := (text.reverse.takeWhile (· != mark)).reverse
  if after.length = text.length then (none, text)
  else (some (text.take (text.length - after.length - 1)), after)

/-- The host of a text and the text after it; colons in brackets belong to it. -/
def splitHost (text : List Char) : List Char × List Char :=
  go false [] text
where
  /-- `acc` holds the host so far, the last character first. -/
  go (inside : Bool) (acc : List Char) : List Char → List Char × List Char
    | [] => (acc.reverse, [])
    | c :: rest =>
      if c = ':' ∧ ¬ inside then (acc.reverse, c :: rest)
      else go (if c = '[' then true else if c = ']' then false else inside) (c :: acc) rest

/-- The URL of a scheme and the text after two slashes, without query and fragment. -/
def authority (scheme : String) (text : List Char) : Except Fault Url := do
  let special := isSpecial scheme
  let stop (c : Char) : Bool := isSlash special c
  let (credentials, address) := atLast '@' (text.takeWhile (!stop ·))
  let rest := text.dropWhile (!stop ·)
  let user := (credentials.getD []).takeWhile (· != ':')
  let password := ((credentials.getD []).dropWhile (· != ':')).drop 1
  let (host, after) := splitHost address
  if host.isEmpty ∧ (special ∨ credentials.isSome ∨ ¬ after.isEmpty) then throw .emptyHost
  let host ← if special then Host.web host else Host.other host
  let port ← portOf scheme after
  pure
    { scheme
      user := String.ofList (Percent.encode Percent.inUser user)
      password := String.ofList (Percent.encode Percent.inUser password)
      host := some (String.ofList host)
      port
      path := pathOf special rest }

/-- Whether a segment names a drive: a letter and a colon or a bar. -/
def isDrive : List Char → Bool
  | [letter, mark] => letter.isAlpha && (mark = ':' || mark = '|')
  | _ => false

/-- The path of a file. Two dots do not go up from a drive. -/
def filePath (text : List Char) : UrlPath :=
  let inner := match text with
    | c :: rest => if isSlash true c then rest else text
    | [] => []
  let drive := inner.takeWhile (!isSlash true ·)
  match pathOf true (if isDrive drive then inner.drop drive.length else text), drive with
  | .segments names, letter :: _ =>
    .segments
      (if isDrive drive then
        String.ofList [letter, ':'] :: (if inner.length = 2 then [] else names)
      else names)
  | path, _ => path

/-- The URL of a file. The host of the machine itself is not written. -/
def file (text : List Char) : Except Fault Url :=
  let slash := isSlash true
  let here (path : List Char) : Url := { scheme := "file", host := some "", path := filePath path }
  match text with
  | a :: b :: rest =>
    let name := rest.takeWhile (!slash ·)
    if ¬ (slash a ∧ slash b) then .ok (here text)
    else if name.isEmpty ∨ isDrive name then .ok (here rest)
    else do
      let host := String.ofList (← Host.web name)
      let url := here (rest.dropWhile (!slash ·))
      pure { url with host := some (if host = "localhost" then "" else host) }
  | _ => .ok (here text)

/-- The URL of a scheme and the text after its colon, without query and fragment. -/
def body (scheme : String) (text : List Char) : Except Fault Url :=
  if scheme = "file" then file text
  else if isSpecial scheme then authority scheme (text.dropWhile (isSlash true))
  else
    match text with
    | '/' :: '/' :: rest => authority scheme rest
    | '/' :: _ => .ok { scheme, path := pathOf false text }
    | _ =>
      .ok { scheme, path := .whole (String.ofList (Percent.encode Percent.inWhole text)) }

def isEdge (c : Char) : Bool := c ≤ ' '

def parse (text : String) : Except Fault Url := do
  let text := (text.toList.dropWhile isEdge).reverse.dropWhile isEdge |>.reverse
  let text := text.filter fun c => c != '\t' && c != '\n' && c != '\r'
  match scheme? text with
  | none => throw .relativeWithoutBase
  | some (scheme, rest) =>
    let main := rest.takeWhile (· != '#')
    let fragment := (rest.dropWhile (· != '#')).drop 1
    let before := main.takeWhile (· != '?')
    let query := (main.dropWhile (· != '?')).drop 1
    let keep := if isSpecial scheme then Percent.inWebQuery else Percent.inQuery
    let url ← body scheme before
    pure { url with
      query := if '?' ∈ main then some (String.ofList (Percent.encode keep query)) else none
      fragment :=
        if '#' ∈ rest then some (String.ofList (Percent.encode Percent.inFragment fragment))
        else none }

end MangaReader.Url

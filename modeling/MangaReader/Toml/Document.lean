import MangaReader.Toml.Moment
import MangaReader.Toml.Number
import MangaReader.Toml.Table
import MangaReader.Toml.Text

/-!
# TOML documents

* `Document.key`, `Document.value` : keys and values.
* `Document.statement` : a line of a document: a key with its value, or a header.
* `Document.parse` : the members of a document, or the place of the first mistake.
-/

namespace MangaReader.Toml.Document

/-- The most keys of a path, and the most lists and tables within each other. -/
def depthLimit : Nat := 80

/-! ## Keys -/

def isBare (c : Char) : Bool := c.isAlphanum || c = '-' || c = '_'

def simpleKey (text : List Char) : Parse String :=
  match text with
  | '"' :: rest => (Text.basic (rest.length + 1) rest).map String.ofList
  | '\'' :: rest => (Text.literal rest).map String.ofList
  | _ =>
    if (text.takeWhile isBare).isEmpty then .absent text
    else .found (String.ofList (text.takeWhile isBare)) (text.dropWhile isBare)

/-- The keys after the first of a dotted key, each after a dot. -/
def moreKeys : Nat → List Char → Parse (List String)
  | 0, text => .found [] text
  | fuel + 1, text =>
    match text with
    | '.' :: rest =>
      match simpleKey (skipBlank rest) with
      | .found key rest => (moreKeys fuel (skipBlank rest)).map (key :: ·)
      | .absent _ => .found [] text
      | .broken rest => .broken rest
    | _ => .found [] text

/-- A dotted key: the path before its last key, and that. -/
def key (text : List Char) : Parse (List String × String) :=
  (simpleKey (skipBlank text)).bind fun first rest =>
    (moreKeys rest.length (skipBlank rest)).bind fun more rest =>
      if depthLimit ≤ more.length + 1 then .absent text
      else .found ((first :: more).dropLast, (first :: more).getLastD first) rest

/-! ## Values -/

def word (w : String) (v : Value) (text : List Char) : Parse Value :=
  if w.toList.isPrefixOf text then .found v (text.drop w.length) else .absent text

def scalar (text : List Char) : Parse Value :=
  match text with
  | [] => .absent []
  | c :: _ =>
    if c = '"' ∨ c = '\'' then (Text.parse text).map fun s => .text (String.ofList s)
    else if c.isDigit ∨ c = '+' ∨ c = '-' then
      match Moment.parse text with
      | .found shown rest => .found (.moment shown) rest
      | .broken rest => .broken rest
      | .absent _ =>
        match Number.real text with
        | .found shown rest => .found (.real shown) rest
        | .broken rest => .broken rest
        | .absent _ => (Number.integer text).map .integer
    else if c = '_' then (Number.integer text).map .integer
    else if c = '.' then (Number.real text).map .real
    else if c = 't' then word "true" (.flag true) text
    else if c = 'f' then word "false" (.flag false) text
    else if c = 'i' then word "inf" (.real "inf") text
    else if c = 'n' then word "nan" (.real "NaN") text
    else .absent text

/-- What follows blanks, ends of lines and comments. -/
def gap (inComment : Bool) : List Char → Parse Unit
  | [] => if inComment then .absent [] else .found () []
  | '\n' :: rest => gap false rest
  | '\r' :: '\n' :: rest => gap false rest
  | c :: rest =>
    if c = '\r' then .absent rest
    else if inComment then if isComment c then gap true rest else .absent rest
    else if isBlank c then gap false rest
    else if c = '#' then gap true rest
    else .found () (c :: rest)

def item (value : List Char → Parse Value) (text : List Char) : Parse Value :=
  (gap false text).bind fun _ rest =>
    (value rest).bind fun v rest => (gap false rest).map fun _ => v

/-- The end of a list, after its last item; `comma` says that a comma may come first. -/
def listEnd (comma : Bool) (text : List Char) : Parse (List Value) :=
  let rest := match text with
    | ',' :: rest => if comma then rest else text
    | _ => text
  ((gap false rest).bind fun _ rest => (expect ']' rest).map fun _ => []).require

def moreItems (value : List Char → Parse Value) : Nat → List Char → Parse (List Value)
  | 0, text => .broken text
  | fuel + 1, text =>
    match text with
    | ',' :: rest =>
      match item value rest with
      | .found v rest => (moreItems value fuel rest).map (v :: ·)
      | .absent _ => listEnd true text
      | .broken rest => .broken rest
    | _ => listEnd true text

def items (value : List Char → Parse Value) (text : List Char) : Parse (List Value) :=
  match item value text with
  | .found v rest => (moreItems value (rest.length + 1) rest).map (v :: ·)
  | .absent _ => listEnd false text
  | .broken rest => .broken rest

/-- A key and its value. After the key, the rest has to follow. -/
def pair (value : List Char → Parse Value) (text : List Char) :
    Parse ((List String × String) × Value) :=
  (key text).bind fun k rest =>
    (((expect '=' rest).bind fun _ rest => value (skipBlank rest)).map fun v => (k, v)).require

def morePairs (value : List Char → Parse Value) :
    Nat → List Char → Parse (List ((List String × String) × Value))
  | 0, text => .found [] text
  | fuel + 1, text =>
    match text with
    | ',' :: rest =>
      match pair value rest with
      | .found p rest => (morePairs value fuel (skipBlank rest)).map (p :: ·)
      | .absent _ => .found [] text
      | .broken rest => .broken rest
    | _ => .found [] text

def pairs (value : List Char → Parse Value) (text : List Char) :
    Parse (List ((List String × String) × Value)) :=
  match pair value text with
  | .found p rest => (morePairs value rest.length (skipBlank rest)).map (p :: ·)
  | .absent _ => .found [] (skipBlank text)
  | .broken rest => .broken rest

def braces (value : List Char → Parse Value) (text : List Char) : Parse Value :=
  (pairs value text).bind fun ps rest =>
    match ps.foldlM (fun members (p : (List String × String) × Value) =>
        Members.put members p.1.1 p.1.2 p.2) [] with
    | none => .broken text
    | some members =>
      match rest with
      | '\x7d' :: rest => .found (.table members.values) rest
      | _ => .broken rest

/-- A value within which there is room for so many lists and tables within each other. -/
def value (room : Nat) (text : List Char) : Parse Value :=
  match text, room with
  | '[' :: rest, room + 1 => (items (value room) rest).map .list
  | '\x7b' :: rest, room + 1 => braces (value room) rest
  | '[' :: _, 0 | '\x7b' :: _, 0 => .broken text
  | _, _ => scalar text

/-! ## Lines -/

def assignment (d : Draft) (text : List Char) : Parse Draft :=
  ((pair (value (depthLimit - 1)) text).bind fun (p : (List String × String) × Value) rest =>
    (trailing rest).bind fun _ rest =>
      match d.put p.1.1 p.1.2 p.2 with
      | some d => .found d rest
      | none => .broken text).require

/-- A line with a header, after its first bracket. `text` is the whole line. -/
def header (d : Draft) (text rest : List Char) : Parse Draft :=
  let listed := rest.head? = some '['
  ((key (if listed then rest.drop 1 else rest)).bind fun k rest =>
    let close := if listed then [']', ']'] else [']']
    if !close.isPrefixOf rest then .broken rest
    else
      (trailing (rest.drop close.length)).bind fun _ rest =>
        match d.enter ⟨k.1, k.2, listed⟩ with
        | some d => .found d rest
        | none => .broken text).require

def statement (d : Draft) (text : List Char) : Parse Draft :=
  match text with
  | '#' :: rest => (lineEnd (rest.dropWhile isComment)).map fun _ => d
  | ['['] => .broken text
  | '[' :: rest => header d text rest
  | '\n' :: rest => .found d rest
  | '\r' :: _ =>
    match newline? text with
    | some rest => .found d rest
    | none => .broken text
  | _ => assignment d text

def statements : Nat → Draft → List Char → Except (List Char) Draft
  | 0, _, text => .error text
  | fuel + 1, d, text =>
    match skipBlank text with
    | [] => .ok d
    | c :: rest =>
      match statement d (c :: rest) with
      | .found d rest => statements fuel d rest
      | .absent rest | .broken rest => .error rest

/-- The members of a document, or the place of the first mistake. -/
def parse (text : String) : Except Spot (List (String × Value)) :=
  let chars := text.toList
  let body := if chars.head? = some '\ufeff' then chars.drop 1 else chars
  match statements (body.length + 1) {} body with
  | .error rest => .error (Spot.ofRest chars rest)
  | .ok d =>
    match d.close with
    | some members => .ok members.values
    | none => .error (Spot.ofRest chars [])

end MangaReader.Toml.Document

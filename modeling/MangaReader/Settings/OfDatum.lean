import MangaReader.Settings.Basic
import MangaReader.Settings.Datum
import MangaReader.Text.Ascii

/-!
# Settings from data

* `Mismatch`, `Misfit` : what is wrong with a datum, and where it comes from.
* `Datum.asText`, `Datum.asFlag`, `Datum.asCount`, `Datum.asSite` : plain readings.
* `Entry`, `readRecord` : records, as tables or as lists in the order of their fields.
* `Settings.ofDatum` : the settings that a datum holds.
-/

namespace MangaReader

inductive Mismatch where
  | wrongType (found expected : String)
  | wrongValue (found expected : String)
  | missing (field : String)
  /-- A name that is none of some names. -/
  | unknownName (name : String) (known : List String)
  | tooShort (size : Nat) (expected : String)
  deriving DecidableEq, Repr

def Mismatch.message : Mismatch → String
  | .wrongType found expected => "invalid type: found " ++ found ++ ", expected " ++ expected
  | .wrongValue found expected => "invalid value " ++ found ++ ", expected " ++ expected
  | .missing field => "missing field \x60" ++ field ++ "\x60"
  | .unknownName name known =>
    "unknown variant: found \x60" ++ name ++ "\x60, expected \x60one of " ++
      ", ".intercalate (known.map fun k => "\x60" ++ k ++ "\x60") ++ "\x60"
  | .tooShort size expected => "invalid length " ++ toString size ++ ", expected " ++ expected

/-- A datum that does not fit: what is wrong, the path to it and where it comes from. -/
structure Misfit where
  mismatch : Mismatch
  source : Source
  path : List String := []
  deriving DecidableEq, Repr

namespace Misfit

/-- The misfit as it is seen from the table that holds the datum under a name. -/
def under (name : String) (m : Misfit) : Misfit := { m with path := name :: m.path }

/-- The path as the source spells it. -/
def key (m : Misfit) : String :=
  match m.source with
  | .environment => ".".intercalate (m.path.map Text.upperAscii)
  | _ => ".".intercalate ("default" :: m.path)

def place : Source → String
  | .builtin => "the built-in settings"
  | .file shown => shown ++ " TOML file"
  | .environment => "\x60MANGAVIEW_\x60 environment variable(s)"

def message (m : Misfit) : String :=
  m.mismatch.message ++
    (if m.path.isEmpty then "" else " for key " ++ Text.Quoted.ofText m.key) ++
    " in " ++ place m.source

end Misfit

abbrev Reading (α : Type) := Datum → Except Misfit α

namespace Datum

def unexpected {α : Type} (d : Datum) (expected : String) : Except Misfit α :=
  .error ⟨.wrongType d.found expected, d.source, []⟩

def asText (expected : String) : Reading String
  | .text _ s => .ok s
  | .character _ c => .ok (String.singleton c)
  | d => d.unexpected expected

def asFlag : Reading Bool
  | .flag _ b => .ok b
  | d => d.unexpected "a boolean"

def asCount : Reading Nat
  | .number source (.unsigned n) =>
    if n < 1 <<< 64 then .ok n
    else .error ⟨.wrongType ("integer \x60" ++ toString n ++ "\x60 as u128") "u64", source, []⟩
  | .number source (.signed n) =>
    if 0 ≤ n then .ok n.toNat
    else .error ⟨.wrongValue (Datum.number source (.signed n)).found "u64", source, []⟩
  | d => d.unexpected "u64"

/-- A site, by its exact name. A table of one member may stand for its name, but has nothing that
its member could be. -/
def asSite : Reading Site
  | .text source s => named source s
  | .table source [] => .error ⟨.wrongType "map" "enum", source, []⟩
  | .table source ((name, d) :: _) => do
    let _ ← named source name
    (d.unexpected "unit").mapError (·.under name)
  | d => d.unexpected "enum Site"
where
  /-- The site of a name. -/
  named (source : Source) (name : String) : Except Misfit Site :=
    match Site.all.find? (·.name = name) with
    | some site => .ok site
    | none => .error ⟨.unknownName name (Site.all.map Site.name), source, []⟩

end Datum

/-- A field of a record: its name, how it is read, whether a list of fields may end before it. -/
structure Entry (σ : Type) where
  name : String
  optional : Bool
  read : Datum → σ → Except Misfit σ

namespace Entry

def of {σ α : Type} (name : String) (optional : Bool) (read : Reading α) (set : σ → α → σ) :
    Entry σ :=
  ⟨name, optional, fun d s => (read d).map (set s)⟩

end Entry

/-- Reads the members of a table, of which unknown ones are passed over. -/
def readMembers {σ : Type} (entries : List (Entry σ)) (s : σ) :
    List (String × Datum) → Except Misfit σ
  | [] => .ok s
  | (name, d) :: rest =>
    match entries.find? (·.name = name) with
    | none => readMembers entries s rest
    | some e =>
      match e.read d s with
      | .error m => .error (m.under name)
      | .ok s => readMembers entries s rest

/-- Reads the items of a list as fields in their order. `size` is the number of fields before. -/
def readItems {σ : Type} (expected : String) (source : Source) (size : Nat) (s : σ) :
    List (Entry σ) → List Datum → Except Misfit σ
  | [], _ => .ok s
  | e :: entries, [] =>
    if e.optional then readItems expected source (size + 1) s entries []
    else .error ⟨.tooShort size expected, source, []⟩
  | e :: entries, d :: rest =>
    match e.read d s with
    | .error m => .error (m.under (toString size))
    | .ok s => readItems expected source (size + 1) s entries rest

/-- Reads a record of a type name: a table of its fields, of which those in `required` may not be
missing, or a list. -/
def readRecord {σ : Type} (name : String) (entries : List (Entry σ)) (required : List String)
    (blank : σ) : Reading σ
  | .table source members =>
    match readMembers entries blank members with
    | .error m => .error m
    | .ok s =>
      match required.find? fun field => !members.any (·.1 = field) with
      | some field => .error ⟨.missing field, source, []⟩
      | none => .ok s
  | .list source items =>
    readItems ("struct " ++ name ++ " with " ++ toString entries.length ++ " elements") source 0
      blank
      entries items
  | d => d.unexpected ("struct " ++ name)

def Defaults.entries : List (Entry Defaults) :=
  [.of "output" true (Datum.asText "a string") fun d x => { d with output := x },
    .of "color" true (Datum.asText "a string") fun d x => { d with color := x },
    .of "insecure" true Datum.asFlag fun d x => { d with insecure := x },
    .of "timeout" true Datum.asCount fun d x => { d with timeout := x },
    .of "stream_timeout" true Datum.asCount fun d x => { d with streamTimeout := x }]

def Profile.entries : List (Entry Profile) :=
  [.of "server" false (Datum.asText "a string") fun p x => { p with server := x },
    .of "site" true Datum.asSite fun p x => { p with site := x },
    .of "public_prefix" false (Datum.asText "a string") fun p x => { p with publicPath := some x },
    .of "storage_prefix" false (Datum.asText "a string")
      fun p x => { p with storagePath := some x },
    .of "session_cookie" false (Datum.asText "a string") fun p x => { p with cookie := some x },
    .of "session_cookie_env" false (Datum.asText "a string") fun p x =>
      { p with cookieVariable := some x },
    .of "ca_cert" false (Datum.asText "path string") fun p x => { p with caFile := some x },
    .of "insecure" false Datum.asFlag fun p x => { p with insecure := some x },
    .of "timeout" false Datum.asCount fun p x => { p with timeout := some x },
    .of "stream_timeout" false Datum.asCount fun p x => { p with streamTimeout := some x },
    .of "record_history" false Datum.asFlag fun p x => { p with recordHistory := some x }]

def readProfiles (profiles : Named Profile) : List (String × Datum) → Except Misfit (Named Profile)
  | [] => .ok profiles
  | (name, d) :: rest =>
    match readRecord "Profile" Profile.entries ["server"] {} d with
    | .error m => .error (m.under name)
    | .ok p => readProfiles (profiles.insert name p) rest

def Datum.asProfiles : Reading (Named Profile)
  | .table _ members => readProfiles .empty members
  | d => d.unexpected "a map"

def Settings.entries : List (Entry Settings) :=
  [.of "default_profile" true (Datum.asText "a string")
      fun s x => { s with defaultProfile := some x },
    .of "defaults" true (readRecord "Defaults" Defaults.entries [] {}) fun s x =>
      { s with defaults := x },
    .of "profiles" true Datum.asProfiles fun s x => { s with profiles := x }]

def Settings.ofDatum : Reading Settings :=
  readRecord "Config" Settings.entries [] { defaultProfile := none }

end MangaReader

import MangaReader.Toml.Value

/-!
# Tables under construction

A table of a document grows key by key and header by header. How it came to be decides what may
still be added to it.

* `Node`, `Members`, `Origin` : tables under construction.
* `Members.put` : adds a value under a dotted key.
* `Members.values` : the finished members.
* `Draft`, `Draft.enter`, `Draft.put`, `Draft.close` : a document under construction.
-/

namespace MangaReader.Toml

inductive Origin where
  /-- It has a header of its own. -/
  | header
  /-- A table below it has a header. -/
  | path
  /-- A dotted key leads through it. -/
  | dotted
  deriving DecidableEq, Repr

/-- What a key stands for in a document under construction. -/
inductive Node where
  | leaf (v : Value)
  | table (origin : Origin) (members : List (String × Node))
  /-- The tables of headers in double brackets. -/
  | tables (items : List (List (String × Node)))

abbrev Members := List (String × Node)

mutual

def Node.value : Node → Value
  | .leaf v => v
  | .table _ members => .table (valuesOf members)
  | .tables items => .list (tablesOf items)

def valuesOf : List (String × Node) → List (String × Value)
  | [] => []
  | (key, node) :: rest => (key, node.value) :: valuesOf rest

def tablesOf : List (List (String × Node)) → List Value
  | [] => []
  | members :: rest => .table (valuesOf members) :: tablesOf rest

end

namespace Members

def values (members : Members) : List (String × Value) := valuesOf members

/-- The members with a key standing for another node, in the place of its old one, if any. -/
def set (members : Members) (key : String) (node : Node) : Members :=
  if members.any (·.1 = key) then members.map fun m => if m.1 = key then (key, node) else m
  else members ++ [(key, node)]

/-- Changes the table at a path, making the tables on the way that are missing. Of a list of tables
the last one is meant. A dotted key may not lead through a table with a header. `none` is a
conflict. -/
def update (dotted : Bool) (change : Origin → Members → Option Members) (origin : Origin) :
    List String → Members → Option Members
  | [], members => change origin members
  | key :: rest, members =>
    match members.lookup key with
    | none =>
      let origin := if dotted then Origin.dotted else .path
      (update dotted change origin rest []).map fun child =>
        members ++ [(key, .table origin child)]
    | some (.table origin child) =>
      if dotted ∧ origin = .header then none
      else (update dotted change origin rest child).map fun child =>
        members.set key (.table origin child)
    | some (.tables items) =>
      (update dotted change .header rest (items.getLastD [])).map fun child =>
        members.set key (.tables (items.dropLast ++ [child]))
    | some (.leaf _) => none

def at? : List String → Members → Option Members
  | [], members => some members
  | key :: rest, members =>
    match members.lookup key with
    | some (.table _ child) => at? rest child
    | some (.tables items) => at? rest (items.getLastD [])
    | _ => none

def put (members : Members) (path : List String) (key : String) (v : Value) : Option Members :=
  update true
    (fun origin members =>
      if (origin == .dotted) == path.isEmpty || members.any (·.1 = key) then none
      else some (members ++ [(key, .leaf v)]))
    .header path members

end Members

/-- Where the keys after a header go. -/
structure Header where
  /-- The path to the table that holds the table of the header. -/
  path : List String
  key : String
  /-- Whether the table is one of a list. -/
  listed : Bool
  deriving DecidableEq, Repr

/-- A document under construction: the table that keys go to now, and all the others. -/
structure Draft where
  root : Members := []
  current : Members := []
  /-- The header of the current table, unless that is the document itself. -/
  header : Option Header := none

namespace Draft

def close (d : Draft) : Option Members :=
  match d.header with
  | none => some d.current
  | some ⟨path, key, false⟩ =>
    Members.update false
      (fun _ members =>
        match members.lookup key with
        | some (.table .header _) | some (.leaf _) | some (.tables _) => none
        | _ => some (members.set key (.table .header d.current)))
      .header path d.root
  | some ⟨path, key, true⟩ =>
    Members.update false
      (fun _ members =>
        match members.lookup key with
        | some (.tables items) => some (members.set key (.tables (items ++ [d.current])))
        | none => some (members.set key (.tables [d.current]))
        | _ => none)
      .header path d.root

/-- Goes on with the table of a header. A table that only headers of tables below it have made so
far is taken up again. -/
def enter (d : Draft) (header : Header) : Option Draft := do
  let root ← d.close
  if header.listed then
    let root ← Members.update false
      (fun _ members =>
        match members.lookup header.key with
        | none => some (members.set header.key (.tables []))
        | some (.tables _) => some members
        | _ => none)
      .header header.path root
    some ⟨root, [], header⟩
  else
    let root ← Members.update false (fun _ members => some members) .header header.path root
    let parent ← Members.at? header.path root
    match parent.lookup header.key with
    | none => some ⟨root, [], header⟩
    | some (.table .path members) =>
      let root ← Members.update false (fun _ ms => some (ms.filter (·.1 ≠ header.key))) .header
        header.path root
      some ⟨root, members, header⟩
    | _ => none

def put (d : Draft) (path : List String) (key : String) (v : Value) : Option Draft :=
  (d.current.put path key v).map fun current => { d with current }

end Draft

end MangaReader.Toml

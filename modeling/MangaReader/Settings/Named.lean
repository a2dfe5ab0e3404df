/-!
# Data under names

* `Named` : data under names, each name once, in the order of the names.
* `Named.get?`, `Named.insert`, `Named.ofList` : access by name.
* `get?_insert_self`, `get?_insert_of_ne` : an insertion changes one name only.
-/

namespace MangaReader

/-- Puts data under a name, in the order of the names. Data that is there already is replaced. -/
def insertNamed {α : Type} (name : String) (a : α) : List (String × α) → List (String × α)
  | [] => [(name, a)]
  | p :: rest =>
    if name < p.1 then (name, a) :: p :: rest
    else if name = p.1 then (name, a) :: rest
    else p :: insertNamed name a rest

theorem mem_insertNamed {α : Type} {name : String} {a : α} {p : String × α} :
    ∀ {entries : List (String × α)}, p ∈ insertNamed name a entries → p = (name, a) ∨ p ∈ entries
  | [], h => by simpa [insertNamed] using h
  | q :: rest, h => by
    unfold insertNamed at h
    split at h
    · simpa using h
    · split at h
      · rcases List.mem_cons.1 h with h | h
        · exact .inl h
        · exact .inr (List.mem_cons_of_mem _ h)
      · rcases List.mem_cons.1 h with h | h
        · exact .inr (h ▸ List.mem_cons_self)
        · exact (mem_insertNamed h).imp_right (List.mem_cons_of_mem _)

theorem sorted_insertNamed {α : Type} (name : String) (a : α) :
    ∀ {entries : List (String × α)}, entries.Pairwise (fun p q => p.1 < q.1) →
      (insertNamed name a entries).Pairwise (fun p q => p.1 < q.1)
  | [], _ => by simp [insertNamed]
  | p :: rest, h => by
    have ⟨hp, hrest⟩ := List.pairwise_cons.1 h
    unfold insertNamed
    split
    · rename_i hlt
      refine List.pairwise_cons.2 ⟨fun q hq => ?_, h⟩
      rcases List.mem_cons.1 hq with rfl | hq
      · exact hlt
      · exact String.lt_trans hlt (hp q hq)
    · split
      · rename_i heq
        exact List.pairwise_cons.2 ⟨fun q hq => heq ▸ hp q hq, hrest⟩
      · rename_i hlt hne
        refine List.pairwise_cons.2 ⟨fun q hq => ?_, sorted_insertNamed name a hrest⟩
        rcases mem_insertNamed hq with rfl | hq
        · exact Std.lt_of_le_of_ne (String.not_lt.1 hlt) (Ne.symm hne)
        · exact hp q hq

/-- Data under names, each name once, in the order of the names. -/
structure Named (α : Type) where
  entries : List (String × α) := []
  sorted : entries.Pairwise (fun p q => p.1 < q.1) := by simp

namespace Named

def empty {α : Type} : Named α := {}

def get? {α : Type} (x : Named α) (name : String) : Option α := x.entries.lookup name

def insert {α : Type} (x : Named α) (name : String) (a : α) : Named α where
  entries := insertNamed name a x.entries
  sorted := sorted_insertNamed name a x.sorted

/-- The data of a list of pairs; of a name that is repeated, the last counts. -/
def ofList {α : Type} (pairs : List (String × α)) : Named α :=
  pairs.foldl (fun x p => x.insert p.1 p.2) empty

def names {α : Type} (x : Named α) : List String := x.entries.map (·.1)

def size {α : Type} (x : Named α) : Nat := x.entries.length

theorem get?_insert_self {α : Type} (x : Named α) (name : String) (a : α) :
    (x.insert name a).get? name = some a := by
  suffices ∀ entries : List (String × α), (insertNamed name a entries).lookup name = some a from
    this x.entries
  intro entries
  induction entries with
  | nil => simp [insertNamed]
  | cons p rest ih =>
    unfold insertNamed
    split
    · simp
    · split
      · simp
      · rename_i hne
        obtain ⟨key, b⟩ := p
        have : (name == key) = false := by simpa using hne
        simp [List.lookup_cons, this, ih]

theorem get?_insert_of_ne {α : Type} (x : Named α) {name other : String} (a : α)
    (h : other ≠ name) : (x.insert name a).get? other = x.get? other := by
  suffices ∀ entries : List (String × α),
      (insertNamed name a entries).lookup other = entries.lookup other from this x.entries
  intro entries
  have hne : (other == name) = false := by simpa using h
  induction entries with
  | nil => simp [insertNamed, List.lookup_cons, hne]
  | cons p rest ih =>
    unfold insertNamed
    split
    · simp [List.lookup_cons, hne]
    · split
      · rename_i heq
        obtain ⟨key, b⟩ := p
        subst heq
        simp [List.lookup_cons, hne]
      · obtain ⟨key, b⟩ := p
        simp only [List.lookup_cons, ih]

end Named

end MangaReader

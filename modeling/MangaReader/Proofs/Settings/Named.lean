import MangaReader.Settings.Datum
import Mathlib.Data.List.Perm.Basic

/-!
# Data in the order of its names

* `insertNamed_of_lt`, `insertNamed_of_gt` : names in their order are put in one after the other.
* `insertNamed_perm` : a new name changes no other.
* `Datum.ofTomlMembers_perm`, `Datum.ofTomlMembers_eq_of_perm`, `Datum.ofTomlMembers_of_inOrder` :
  the data of the members of a table.
* `Datum.mergeMembers_of_inOrder` : members with names behind all others.
-/

namespace MangaReader

variable {α : Type}

/-- Whether data is in the order of its names, each name once. -/
def InOrder (entries : List (String × α)) : Prop := entries.Pairwise (fun p q => p.1 < q.1)

theorem insertNamed_of_lt {name : String} (a : α) {entries : List (String × α)}
    (h : ∀ p ∈ entries, name < p.1) : insertNamed name a entries = (name, a) :: entries := by
  cases entries with
  | nil => rfl
  | cons p rest => rw [insertNamed, if_pos (h p List.mem_cons_self)]

theorem insertNamed_of_gt {name : String} (a : α) {entries : List (String × α)}
    (h : ∀ p ∈ entries, p.1 < name) : insertNamed name a entries = entries ++ [(name, a)] := by
  induction entries with
  | nil => rfl
  | cons p rest ih =>
    obtain ⟨hp, hrest⟩ := List.forall_mem_cons.mp h
    have hlt : ¬ name < p.1 := fun h => String.lt_asymm h hp
    have hne : name ≠ p.1 := fun h => String.lt_irrefl p.1 (h ▸ hp)
    rw [insertNamed, if_neg hlt, if_neg hne, ih hrest, List.cons_append]

theorem insertNamed_perm {name : String} (a : α) {entries : List (String × α)}
    (h : name ∉ entries.map (·.1)) : (insertNamed name a entries).Perm ((name, a) :: entries) := by
  induction entries with
  | nil => exact List.Perm.refl _
  | cons p rest ih =>
    rw [List.map_cons, List.mem_cons, not_or] at h
    unfold insertNamed
    split
    · exact List.Perm.refl _
    · rw [if_neg h.1]
      exact ((ih h.2).cons p).trans (List.Perm.swap _ _ rest)

theorem InOrder.nodup {entries : List (String × α)} (h : InOrder entries) :
    (entries.map (·.1)).Nodup := by
  rw [List.Nodup, List.pairwise_map]
  apply h.imp
  intro p q hlt heq
  rw [heq] at hlt
  exact String.lt_irrefl _ hlt

theorem InOrder.eq_of_perm {entries entries' : List (String × α)} (h : InOrder entries)
    (h' : InOrder entries') (hperm : entries.Perm entries') : entries = entries' :=
  hperm.eq_of_pairwise (fun _ _ _ _ hlt hgt => absurd hgt (String.lt_asymm hlt)) h h'

theorem Named.eq_of_entries {x y : Named α} (h : x.entries = y.entries) : x = y := by
  cases x
  cases y
  congr

namespace Datum

def members (source : Source) (pairs : List (String × Toml.Value)) : List (String × Datum) :=
  pairs.map fun p => (p.1, ofToml source p.2)

theorem map_fst_members (source : Source) (pairs : List (String × Toml.Value)) :
    (members source pairs).map (·.1) = pairs.map (·.1) := by
  simp [members]

theorem ofTomlMembers_perm (source : Source) {pairs : List (String × Toml.Value)}
    (h : (pairs.map (·.1)).Nodup) :
    (ofTomlMembers source pairs).Perm (members source pairs) := by
  induction pairs with
  | nil => exact List.Perm.refl _
  | cons p pairs ih =>
    obtain ⟨name, v⟩ := p
    rw [List.map_cons, List.nodup_cons] at h
    have hperm := ih h.2
    have hnew : name ∉ (ofTomlMembers source pairs).map (·.1) := by
      rw [(hperm.map (·.1)).mem_iff, map_fst_members]
      exact h.1
    rw [ofTomlMembers]
    exact (insertNamed_perm _ hnew).trans (hperm.cons _)

theorem inOrder_ofTomlMembers (source : Source) (pairs : List (String × Toml.Value)) :
    InOrder (ofTomlMembers source pairs) := by
  induction pairs with
  | nil => exact List.Pairwise.nil
  | cons p pairs ih => exact sorted_insertNamed p.1 _ ih

theorem ofTomlMembers_eq_of_perm (source : Source) {pairs pairs' : List (String × Toml.Value)}
    (h : pairs.Perm pairs') (hdistinct : (pairs'.map (·.1)).Nodup) :
    ofTomlMembers source pairs = ofTomlMembers source pairs' := by
  refine InOrder.eq_of_perm (inOrder_ofTomlMembers source pairs)
    (inOrder_ofTomlMembers source pairs') ?_
  have hmembers : (members source pairs).Perm (members source pairs') := h.map _
  exact ((ofTomlMembers_perm source ((h.map _).nodup_iff.mpr hdistinct)).trans hmembers).trans
    (ofTomlMembers_perm source hdistinct).symm

theorem ofTomlMembers_of_inOrder (source : Source) {pairs : List (String × Toml.Value)}
    (h : InOrder pairs) : ofTomlMembers source pairs = members source pairs := by
  induction pairs with
  | nil => rfl
  | cons p pairs ih =>
    obtain ⟨hp, hrest⟩ := List.pairwise_cons.mp h
    have hlt : ∀ q ∈ members source pairs, p.1 < q.1 := by
      intro q hq
      obtain ⟨r, hr, rfl⟩ := List.mem_map.mp hq
      exact hp r hr
    rw [ofTomlMembers, ih hrest, insertNamed_of_lt _ hlt]
    rfl

theorem mergeMembers_of_inOrder {old new : List (String × Datum)} (h : InOrder (old ++ new)) :
    mergeMembers old new = old ++ new := by
  induction new generalizing old with
  | nil => rw [mergeMembers, List.append_nil]
  | cons p new ih =>
    obtain ⟨name, d⟩ := p
    have hold : ∀ q ∈ old, q.1 < name := fun q hq =>
      (List.pairwise_append.mp h).2.2 q hq (name, d) List.mem_cons_self
    have hnone : old.lookup name = none := by
      rw [List.lookup_eq_none_iff]
      intro q hq
      have : name ≠ q.1 := fun h => String.lt_irrefl q.1 (h ▸ hold q hq)
      simpa using this
    rw [mergeMembers, hnone, insertNamed_of_gt _ hold, ih (by simpa using h), List.append_assoc]
    rfl

end Datum

end MangaReader

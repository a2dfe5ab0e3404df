import MangaReader.Json.Form
import Mathlib.Algebra.GroupWithZero.Nat
import Mathlib.Data.List.Forall2
import Mathlib.Data.List.Nodup

/-!
# Dictionaries with repeated names

A dictionary that is read from an object keeps, of the members of one name, the data of the last and
the place of the first. As far as the order does not matter it holds the members that none of the
same name follows.

* `Json.lasting` : the pairs that no pair of the same name follows.
* `Json.Form.readMembers_eq_ok` : what is read of members is one pair of each, put in one by one.
* `Json.foldl_putPair_perm` : the pairs that are put in one by one are the lasting ones.
* `Json.total_lasting` : when repeated names lose something.
-/

namespace MangaReader.Json

variable {α : Type} {name : String}

/-- A pair more in a dictionary: under a name that is there it takes the place of the old one. -/
def putPair (pairs : List (String × α)) (p : String × α) : List (String × α) :=
  if pairs.any (·.1 = p.1) then pairs.map fun q => if q.1 = p.1 then p else q else pairs ++ [p]

/-- The pairs that no pair of the same name follows. -/
def lasting : List (String × α) → List (String × α)
  | [] => []
  | p :: rest => if rest.any (·.1 = p.1) then lasting rest else p :: lasting rest

/-! ### Reading members -/

def ReadsTo (form : Form α) (member : Name × Tree × Nat) (p : String × α) : Prop :=
  member.1.read = .ok p.1 ∧ form.read member.2.1 = .ok p.2

theorem Form.readMembers_eq_ok {form : Form α} {ending : Ending}
    {members : List (Name × Tree × Nat)} {acc pairs : List (String × α)}
    (h : form.readMembers ending acc members = .ok pairs) :
    ∃ read, List.Forall₂ (ReadsTo form) members read ∧ pairs = read.foldl putPair acc := by
  induction members generalizing acc with
  | nil =>
    rw [readMembers] at h
    split at h
    · cases h
    · exact ⟨[], .nil, (Except.ok.inj h).symm⟩
  | cons member members ih =>
    obtain ⟨name, tree, next⟩ := member
    rw [readMembers] at h
    split at h
    · cases h
    rename_i key hkey
    split at h
    · cases h
    rename_i a ha
    -- both branches put one pair in
    have hput : form.readMembers ending (putPair acc (key, a)) members = .ok pairs := by
      rw [putPair]
      split at h
      · rename_i hany
        rwa [if_pos hany]
      · rename_i hany
        rwa [if_neg hany]
    obtain ⟨read, hread, hpairs⟩ := ih hput
    exact ⟨(key, a) :: read, .cons ⟨hkey, ha⟩ hread, hpairs⟩

/-! ### Names -/

theorem any_name {pairs : List (String × α)} :
    pairs.any (·.1 = name) = true ↔ name ∈ pairs.map (·.1) := by
  simp

theorem names_replace (pairs : List (String × α)) (p : String × α) :
    (pairs.map fun q => if q.1 = p.1 then p else q).map (·.1) = pairs.map (·.1) := by
  rw [List.map_map]
  apply List.map_congr_left
  intro q _
  by_cases h : q.1 = p.1 <;> simp [h]

theorem nodup_putPair {pairs : List (String × α)} (h : (pairs.map (·.1)).Nodup) (p : String × α) :
    ((putPair pairs p).map (·.1)).Nodup := by
  rw [putPair]
  split
  · rwa [names_replace]
  · rename_i hnew
    rw [any_name] at hnew
    rw [List.map_append, List.nodup_append]
    refine ⟨h, by simp, ?_⟩
    rintro a ha b hb rfl
    rw [List.map_singleton, List.mem_singleton] at hb
    exact hnew (hb ▸ ha)

theorem nodup_foldl_putPair (read : List (String × α)) :
    ((read.foldl putPair []).map (·.1)).Nodup := by
  have hkeeps : ∀ pairs : List (String × α), (pairs.map (·.1)).Nodup →
      ((read.foldl putPair pairs).map (·.1)).Nodup := by
    induction read with
    | nil => exact fun _ h => h
    | cons p rest ih => exact fun pairs h => ih _ (nodup_putPair h p)
  exact hkeeps [] List.nodup_nil

theorem mem_names_lasting {pairs : List (String × α)} :
    name ∈ (lasting pairs).map (·.1) ↔ name ∈ pairs.map (·.1) := by
  induction pairs with
  | nil => rfl
  | cons p rest ih =>
    rw [lasting]
    split
    · rename_i hany
      rw [any_name] at hany
      rw [ih, List.map_cons, List.mem_cons]
      exact ⟨.inr, fun h => h.elim (fun hp => hp ▸ hany) id⟩
    · rw [List.map_cons, List.mem_cons, ih, List.map_cons, List.mem_cons]

theorem nodup_lasting (pairs : List (String × α)) : ((lasting pairs).map (·.1)).Nodup := by
  induction pairs with
  | nil => exact .nil
  | cons p rest ih =>
    rw [lasting]
    split
    · exact ih
    · rename_i hnew
      rw [any_name] at hnew
      rw [List.map_cons, List.nodup_cons, mem_names_lasting]
      exact ⟨hnew, ih⟩

theorem lasting_map {β : Type} (f : α → β) (pairs : List (String × α)) :
    lasting (pairs.map fun p => (p.1, f p.2)) = (lasting pairs).map fun p => (p.1, f p.2) := by
  induction pairs with
  | nil => rfl
  | cons p rest ih =>
    have hany : (rest.map fun p => (p.1, f p.2)).any (·.1 = p.1) = rest.any (·.1 = p.1) := by
      rw [List.any_map]
      rfl
    rw [List.map_cons, lasting, lasting, hany, ih]
    split <;> rfl

/-! ### What is kept -/

theorem mem_putPair {pairs : List (String × α)} {p q : String × α} :
    q ∈ putPair pairs p ↔ q = p ∨ q ∈ pairs ∧ q.1 ≠ p.1 := by
  rw [putPair]
  split
  · rename_i hany
    rw [any_name] at hany
    obtain ⟨old, hold, hname⟩ := List.mem_map.mp hany
    rw [List.mem_map]
    constructor
    · rintro ⟨other, hother, rfl⟩
      by_cases h : other.1 = p.1
      · rw [if_pos h]
        exact .inl rfl
      · rw [if_neg h]
        exact .inr ⟨hother, h⟩
    · rintro (rfl | ⟨hq, hne⟩)
      · exact ⟨old, hold, if_pos hname⟩
      · exact ⟨q, hq, if_neg hne⟩
  · rename_i hnew
    rw [any_name] at hnew
    rw [List.mem_append, List.mem_singleton]
    constructor
    · rintro (hq | rfl)
      · exact .inr ⟨hq, fun h => hnew (h ▸ List.mem_map_of_mem hq)⟩
      · exact .inl rfl
    · rintro (rfl | ⟨hq, -⟩)
      · exact .inr rfl
      · exact .inl hq

theorem mem_foldl_putPair {read acc : List (String × α)} {q : String × α} :
    q ∈ read.foldl putPair acc ↔ q ∈ lasting read ∨ q ∈ acc ∧ q.1 ∉ read.map (·.1) := by
  induction read generalizing acc with
  | nil => simp [lasting]
  | cons p rest ih =>
    rw [List.foldl_cons, ih, mem_putPair, lasting]
    split
    · rename_i hagain
      rw [any_name] at hagain
      grind
    · rename_i hlast
      rw [any_name] at hlast
      grind

/-- **The pairs that are put in one by one are the lasting ones**, in some order. -/
theorem foldl_putPair_perm (read : List (String × α)) :
    (read.foldl putPair []).Perm (lasting read) := by
  have hnodup := nodup_foldl_putPair read
  apply (List.perm_ext_iff_of_nodup (.of_map _ hnodup) (.of_map _ (nodup_lasting read))).mpr
  intro q
  rw [mem_foldl_putPair]
  simp

theorem mem_names_foldl_putPair {read : List (String × α)} :
    name ∈ (read.foldl putPair []).map (·.1) ↔ name ∈ read.map (·.1) := by
  rw [((foldl_putPair_perm read).map _).mem_iff, mem_names_lasting]

/-! ### What is lost -/

def total (pairs : List (String × Nat)) : Nat := (pairs.map (·.2)).sum

/-- **A repeated name loses what is under it before**: the lasting numbers come to less than all
numbers where one that is not 0 is followed by another of its name. -/
theorem total_lasting (pairs : List (String × Nat)) :
    total (lasting pairs) ≤ total pairs ∧
      (total (lasting pairs) < total pairs ↔
        ∃ before p after, pairs = before ++ p :: after ∧ 0 < p.2 ∧ p.1 ∈ after.map (·.1)) := by
  induction pairs with
  | nil =>
    refine ⟨Nat.le_refl _, fun h => absurd h (Nat.lt_irrefl _), ?_⟩
    rintro ⟨before, p, after, h, -⟩
    cases before <;> cases h
  | cons p rest ih =>
    obtain ⟨hle, hlt⟩ := ih
    have hsplit : (∃ before q after, p :: rest = before ++ q :: after ∧ 0 < q.2 ∧
          q.1 ∈ after.map (·.1)) ↔
        0 < p.2 ∧ p.1 ∈ rest.map (·.1) ∨ total (lasting rest) < total rest := by
      rw [hlt]
      constructor
      · rintro ⟨before, q, after, h, hq⟩
        cases before with
        | nil =>
          rw [List.nil_append, List.cons.injEq] at h
          obtain ⟨rfl, rfl⟩ := h
          exact .inl hq
        | cons first before =>
          rw [List.cons_append, List.cons.injEq] at h
          exact .inr ⟨before, q, after, h.2, hq⟩
      · rintro (hp | ⟨before, q, after, rfl, hq⟩)
        · exact ⟨[], p, rest, rfl, hp⟩
        · exact ⟨p :: before, q, after, rfl, hq⟩
    have htotal : total (p :: rest) = p.2 + total rest := by simp [total]
    rw [hsplit, htotal, lasting]
    split
    · rename_i hagain
      rw [any_name] at hagain
      simp only [hagain, and_true]
      omega
    · rename_i hlast
      rw [any_name] at hlast
      have hkept : total (p :: lasting rest) = p.2 + total (lasting rest) := by simp [total]
      rw [hkept]
      simp only [hlast, and_false, false_or]
      omega

end MangaReader.Json

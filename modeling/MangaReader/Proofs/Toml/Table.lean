import MangaReader.Proofs.Toml.Section

/-!
# Tables that sections make

A document is made of plain keys, of tables at its top, and of one table whose members are tables
with headers of their own.

* `Members.leaves` : plain keys as members.
* `Draft.putAll_eq` : keys that are new are put behind the others.
* `Draft.takeIn_top` : a section at the top puts its table behind the others.
* `Draft.takeIn_below` : sections below a table put theirs behind its other members.
-/

namespace MangaReader.Toml

namespace Members

def leaves (pairs : List (String × Value)) : Members := pairs.map fun p => (p.1, .leaf p.2)

theorem values_leaves (pairs : List (String × Value)) : (leaves pairs).values = pairs := by
  unfold leaves values
  induction pairs with
  | nil => rfl
  | cons p pairs ih =>
    rw [List.map_cons, valuesOf, ih, Node.value]

theorem values_tables (tables : List (String × List (String × Value))) :
    Members.values (tables.map fun t => (t.1, .table .header (leaves t.2))) =
      tables.map fun t => (t.1, .table t.2) := by
  induction tables with
  | nil => rfl
  | cons t tables ih =>
    have hleaves : valuesOf (leaves t.2) = t.2 := values_leaves t.2
    unfold values at ih ⊢
    rw [List.map_cons, valuesOf, ih, Node.value, hleaves, List.map_cons]

theorem values_append (front back : Members) :
    (front ++ back).values = front.values ++ back.values := by
  unfold values
  induction front with
  | nil => rfl
  | cons m front ih =>
    obtain ⟨key, node⟩ := m
    rw [List.cons_append, valuesOf, valuesOf, ih, List.cons_append]

theorem set_of_new {members : Members} {key : String} (hkey : key ∉ members.map (·.1))
    (node : Node) : members.set key node = members ++ [(key, node)] := by
  have hnone : members.any (·.1 = key) = false := by
    rw [List.any_eq_false]
    intro m hm
    have : m.1 ≠ key := fun h => hkey (List.mem_map.mpr ⟨m, hm, h⟩)
    simpa using this
  rw [set, hnone]
  rfl

theorem set_last {members : Members} {key : String} (hkey : key ∉ members.map (·.1))
    (old node : Node) : (members ++ [(key, old)]).set key node = members ++ [(key, node)] := by
  have hsome : (members ++ [(key, old)]).any (·.1 = key) = true := by simp
  have hothers : members.map (fun m => if m.1 = key then (key, node) else m) = members := by
    conv => rhs; rw [← List.map_id members]
    apply List.map_congr_left
    intro m hm
    rw [if_neg fun h => hkey (List.mem_map.mpr ⟨m, hm, h⟩)]
    rfl
  rw [set, if_pos hsome, List.map_append, hothers]
  simp

theorem lookup_of_new {members : Members} {key : String} (hkey : key ∉ members.map (·.1)) :
    members.lookup key = none := by
  rw [List.lookup_eq_none_iff]
  intro m hm
  have : key ≠ m.1 := fun h => hkey (List.mem_map.mpr ⟨m, hm, h.symm⟩)
  simpa using this

theorem lookup_last {members : Members} {key : String} (hkey : key ∉ members.map (·.1))
    (node : Node) : (members ++ [(key, node)]).lookup key = some node := by
  rw [List.lookup_append, lookup_of_new hkey]
  simp

end Members

namespace Draft

open Members

/-! ## Keys -/

theorem putAll_eq (d : Draft) {pairs : List (String × Value)}
    (hnodup : (pairs.map (·.1)).Nodup) (hnew : ∀ key ∈ pairs.map (·.1), key ∉ d.current.map (·.1)) :
    d.putAll pairs = some { d with current := d.current ++ leaves pairs } := by
  unfold putAll
  induction pairs generalizing d with
  | nil => simp [leaves]
  | cons p pairs ih =>
    rw [List.map_cons, List.nodup_cons] at hnodup
    have hp : d.current.any (·.1 = p.1) = false := by
      rw [List.any_eq_false]
      intro m hm
      have : m.1 ≠ p.1 := fun h => hnew p.1 List.mem_cons_self (List.mem_map.mpr ⟨m, hm, h⟩)
      simpa using this
    have hput : d.put [] p.1 p.2 = some { d with current := d.current ++ [(p.1, .leaf p.2)] } := by
      unfold put Members.put update
      rw [hp]
      rfl
    have hrest : ∀ key ∈ pairs.map (·.1),
        key ∉ (d.current ++ [(p.1, Node.leaf p.2)]).map (·.1) := by
      intro key hkey h
      rw [List.map_append, List.mem_append, List.map_singleton, List.mem_singleton] at h
      rcases h with h | rfl
      · exact hnew key (List.mem_cons_of_mem _ hkey) h
      · exact hnodup.1 hkey
    rw [List.foldlM_cons, hput]
    show List.foldlM _ _ _ = _
    rw [ih _ hnodup.2 hrest, List.append_assoc]
    rfl

/-! ## Tables at the top -/

theorem takeIn_top {d : Draft} {root : Members} {key : String} {pairs : List (String × Value)}
    (hclose : d.close = some root) (hkey : key ∉ root.map (·.1))
    (hnodup : (pairs.map (·.1)).Nodup) :
    ∃ d', d.takeIn ⟨[key], pairs⟩ = some d' ∧
      d'.close = some (root ++ [(key, .table .header (leaves pairs))]) := by
  have henter : d.enter ⟨[], key, false⟩ = some ⟨root, [], some ⟨[], key, false⟩⟩ := by
    simp [enter, hclose, update, at?, lookup_of_new hkey]
  refine ⟨⟨root, leaves pairs, some ⟨[], key, false⟩⟩, ?_, ?_⟩
  · show (d.enter ⟨[], key, false⟩).bind _ = _
    rw [henter]
    exact putAll_eq _ hnodup fun _ _ => List.not_mem_nil
  · simp [close, update, lookup_of_new hkey, set_of_new hkey]

/-! ## Tables below a table -/

/-- The members at the top when the last of them is a table that only headers below it have made. -/
def below (base : Members) (top : String) : Members → Members
  | [] => base
  | done => base ++ [(top, .table .path done)]

theorem below_of_ne_nil (base : Members) (top : String) {done : Members} (h : done ≠ []) :
    below base top done = base ++ [(top, .table .path done)] := by
  cases done with
  | nil => exact absurd rfl h
  | cons m done => rfl

/-- **A section below a table** puts its table behind the other members of that. -/
theorem takeIn_below {d : Draft} {base done : Members} {top key : String}
    {pairs : List (String × Value)} (hclose : d.close = some (below base top done))
    (htop : top ∉ base.map (·.1)) (hkey : key ∉ done.map (·.1)) (hnodup : (pairs.map (·.1)).Nodup) :
    ∃ d', d.takeIn ⟨[top, key], pairs⟩ = some d' ∧
      d'.close = some (below base top (done ++ [(key, .table .header (leaves pairs))])) := by
  have henter : d.enter ⟨[top], key, false⟩ =
      some ⟨base ++ [(top, .table .path done)], [], some ⟨[top], key, false⟩⟩ := by
    cases done with
    | nil =>
      simp [enter, hclose, below, update, at?, lookup_of_new htop, lookup_last htop]
    | cons m done =>
      simp [enter, hclose, below, update, at?, lookup_last htop, set_last htop, lookup_of_new hkey]
  refine ⟨⟨base ++ [(top, .table .path done)], leaves pairs, some ⟨[top], key, false⟩⟩, ?_, ?_⟩
  · show (d.enter ⟨[top], key, false⟩).bind _ = _
    rw [henter]
    exact putAll_eq _ hnodup fun _ _ => List.not_mem_nil
  · rw [below_of_ne_nil base top (by simp)]
    simp [close, update, lookup_last htop, set_last htop, lookup_of_new hkey, set_of_new hkey]

theorem foldlM_takeIn_below {d : Draft} {base done : Members} {top : String}
    {tables : List (String × List (String × Value))}
    (hclose : d.close = some (below base top done)) (htop : top ∉ base.map (·.1))
    (hnames : (done.map (·.1) ++ tables.map (·.1)).Nodup)
    (hnodup : ∀ t ∈ tables, (t.2.map (·.1)).Nodup) :
    ∃ d', (tables.map fun t => Section.mk [top, t.1] t.2).foldlM takeIn d = some d' ∧
      d'.close = some (below base top
        (done ++ tables.map fun t => (t.1, .table .header (leaves t.2)))) := by
  induction tables generalizing d done with
  | nil => exact ⟨d, rfl, by simpa using hclose⟩
  | cons t tables ih =>
    obtain ⟨ht, hrest⟩ := List.forall_mem_cons.mp hnodup
    have hkey : t.1 ∉ done.map (·.1) := by
      intro h
      rw [List.map_cons, List.nodup_append] at hnames
      exact hnames.2.2 _ h _ List.mem_cons_self rfl
    obtain ⟨between, htake, hbetween⟩ := takeIn_below hclose htop hkey ht
    have hnames' : ((done ++ [(t.1, Node.table .header (leaves t.2))]).map (·.1) ++
        tables.map (·.1)).Nodup := by
      simpa using hnames
    obtain ⟨d', hfold, hclose'⟩ := ih hbetween hnames' hrest
    refine ⟨d', ?_, ?_⟩
    · rw [List.map_cons, List.foldlM_cons, htake]
      exact hfold
    · simpa using hclose'

end Draft

end MangaReader.Toml

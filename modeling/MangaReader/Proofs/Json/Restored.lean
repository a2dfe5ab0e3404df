import MangaReader.Json.Form
import MangaReader.Proofs.Json.Compact
import Mathlib.Data.List.Nodup

/-!
# Data are read as they are written

A form restores some data if the value that it writes for them has whole numbers only and is read as
the same data from every tree that bears it. Lists, dictionaries and records restore their data as
soon as the forms of their parts do, so that a record type needs no proof of its own but for its
leaves. What a form restores is read back from the compact text.

* `Form.Restores` : a form that restores some data.
* `Form.restores_integer`, `Form.restores_size`, `Form.restores_text` : leaves.
* `Form.Restores.list`, `Form.Restores.dictionary`, `Shape.restores` : lists, dictionaries, records.
* `Form.Restores.parse_compact` : **what a form restores is read back from its text**.
-/

namespace MangaReader.Json

variable {α : Type} {form : Form α}

/-- A form that reads the data it has written, wherever the value stands in a text. -/
structure Form.Restores (form : Form α) (a : α) : Prop where
  whole : (form.write a).Whole
  read : ∀ t : Tree, t.Bears (form.write a) → form.read t = .ok a

/-! ### Leaves -/

namespace Form

theorem restores_integer {n : Int} (hlow : -2 ^ 63 ≤ n) (hhigh : n < 2 ^ 63) :
    integer.Restores n where
  whole := .number ⟨hlow, by omega⟩
  read t ht := by
    cases ht with
    | number _ stop =>
      simpa [integer] using hhigh

theorem restores_size {n : Nat} (hn : n < 2 ^ 64) : size.Restores n where
  whole := .number ⟨by omega, by omega⟩
  read t ht := by
    cases ht with
    | number _ stop =>
      simp [size]

theorem restores_text (s : String) : text.Restores s where
  whole := .string s
  read t ht := by
    cases ht with
    | string _ stop => rfl

/-! ### Lists -/

theorem readItems_of_bears {items : List α} (h : ∀ a ∈ items, form.Restores a) {ending : Ending}
    (hending : ending.listBreak? = none) {trees : List (Nat × Tree × Nat)}
    (htrees : Tree.BearItems trees (items.map form.write)) :
    form.readItems ending trees = .ok items := by
  induction items generalizing trees with
  | nil =>
    cases htrees
    rw [readItems, hending]
  | cons a items ih =>
    obtain ⟨ha, hitems⟩ := List.forall_mem_cons.mp h
    cases htrees with
    | cons head tail start next =>
      rw [readItems, ha.read _ head]
      simp only [ih hitems tail, Except.map]

theorem Restores.list {items : List α} (h : ∀ a ∈ items, form.Restores a) :
    (Form.list form).Restores items where
  whole := .array (List.forall_mem_map.mpr fun a ha => (h a ha).whole)
  read t ht := by
    cases ht with
    | array htrees hending start => exact readItems_of_bears h hending htrees

/-! ### Dictionaries -/

theorem readMembers_of_bears {pairs acc : List (String × α)}
    (h : ∀ p ∈ pairs, form.Restores p.2) (hnames : ((acc ++ pairs).map (·.1)).Nodup)
    {ending : Ending} (hending : ending.objectBreak? = none)
    {members : List (Name × Tree × Nat)}
    (hmembers : Tree.BearMembers members (pairs.map fun p => (p.1, form.write p.2))) :
    form.readMembers ending acc members = .ok (acc ++ pairs) := by
  induction pairs generalizing acc members with
  | nil =>
    cases hmembers
    rw [readMembers, hending, List.append_nil]
  | cons p pairs ih =>
    obtain ⟨hp, hpairs⟩ := List.forall_mem_cons.mp h
    obtain ⟨name, a⟩ := p
    cases hmembers with
    | cons _ head tail mark next =>
      have hnew : ¬ acc.any (·.1 = name) = true := by
        rw [List.map_append, List.nodup_append] at hnames
        simp only [List.any_eq_true, decide_eq_true_eq, not_exists, not_and]
        intro q hq hsame
        exact hnames.2.2 q.1 (List.mem_map_of_mem hq) name (by simp) hsame
      have hmore : ((acc ++ [(name, a)] ++ pairs).map (·.1)).Nodup := by
        rwa [List.append_assoc, List.singleton_append]
      rw [readMembers]
      simp only [hp.read _ head, if_neg hnew, ih hpairs hmore tail, List.append_assoc,
        List.singleton_append]

theorem Restores.dictionary {pairs : List (String × α)} (h : ∀ p ∈ pairs, form.Restores p.2)
    (hnames : (pairs.map (·.1)).Nodup) : (Form.dictionary form).Restores pairs where
  whole := .object (List.forall_mem_map.mpr fun p hp => (h p hp).whole)
  read t ht := by
    cases ht with
    | object hmembers hending start =>
      rw [← List.nil_append pairs] at hnames
      exact readMembers_of_bears h hnames hending hmembers

end Form

/-! ### Records -/

namespace Shape

variable {s : Shape α} {a : α}

/-- A record after some fields of another have been put into it. -/
def fill (a : α) (fields : List (Field α)) (r : α) : α :=
  fields.foldl (fun r f => f.set (f.get a) r) r

theorem find?_name {fields : List (Field α)} (hnames : (fields.map (·.name)).Nodup) {f : Field α}
    (hf : f ∈ fields) : fields.find? (·.name = f.name) = some f := by
  have hfound : (fields.find? (·.name = f.name)).isSome :=
    List.find?_isSome.mpr ⟨f, hf, decide_eq_true rfl⟩
  obtain ⟨g, hg⟩ := Option.isSome_iff_exists.mp hfound
  have hname : g.name = f.name := by simpa using List.find?_some hg
  rw [hg, List.inj_on_of_nodup_map hnames (List.mem_of_find?_eq_some hg) hf hname]

theorem readMembers_of_bears {before fields : List (Field α)} {r : α}
    (hfields : s.fields = before ++ fields) (hnames : (s.fields.map (·.name)).Nodup)
    (h : ∀ f ∈ s.fields, f.form.Restores (f.get a)) {ending : Ending}
    (hending : ending.objectBreak? = none) {seen : List String}
    (hseen : ∀ name, name ∈ seen ↔ name ∈ before.map (·.name))
    {members : List (Name × Tree × Nat)}
    (hmembers : Tree.BearMembers members (fields.map fun f => (f.name, f.form.write (f.get a)))) :
    s.readMembers ending seen members r = .ok (fill a fields r) := by
  induction fields generalizing before r seen members with
  | nil =>
    cases hmembers
    have hnone : (s.fields.find? fun f => f.absence = .refused ∧ f.name ∉ seen) = none := by
      rw [List.find?_eq_none]
      intro f hf
      rw [hfields, List.append_nil] at hf
      simp [hseen, List.mem_map_of_mem hf]
    rw [readMembers, hending]
    simp only [hnone, fill, List.foldl_nil]
  | cons f fields ih =>
    have hf : f ∈ s.fields := hfields ▸ List.mem_append_right before List.mem_cons_self
    cases hmembers with
    | cons _ head tail mark next =>
      have hnew : f.name ∉ seen := by
        rw [hseen]
        rw [hfields, List.map_append, List.nodup_append] at hnames
        exact fun hbefore => hnames.2.2 _ hbefore _ (by simp) rfl
      rw [readMembers]
      simp only [find?_name hnames hf, if_neg hnew, (h f hf).read _ head]
      refine ih (show s.fields = before ++ [f] ++ fields by simp [hfields]) ?_ tail
      intro name
      simp [hseen, or_comm]

/-- **A record type restores its records** if the forms of its fields restore their data and the
fields make up the record. -/
theorem restores (hnames : (s.fields.map (·.name)).Nodup)
    (h : ∀ f ∈ s.fields, f.form.Restores (f.get a)) (hfill : fill a s.fields s.blank = a) :
    s.form.Restores a where
  whole := .object (List.forall_mem_map.mpr fun f hf => (h f hf).whole)
  read t ht := by
    cases ht with
    | @object members _ ending hmembers hending start =>
      have hread : s.readMembers ending [] members s.blank = .ok (fill a s.fields s.blank) :=
        readMembers_of_bears (List.nil_append _).symm hnames h hending (fun _ => Iff.rfl) hmembers
      rwa [hfill] at hread

end Shape

/-! ### Texts -/

theorem Form.Restores.parse_compact {a : α} (h : form.Restores a) :
    form.parse (form.write a).compact = .ok a := by
  have hspells := Value.spells_compactText h.whole
  obtain ⟨hbears, hextra⟩ := Document.ofText_of_spells hspells (.self _)
  rw [Form.parse, Document.finish_eq_ok_iff, Value.compact, String.toList_ofList,
    h.read _ hbears]
  exact ⟨rfl, hextra⟩

end MangaReader.Json

import MangaReader.Proofs.Json.Layout

/-!
# Forms that take no notice of places

What a form reads from a tree does not depend on the offsets in it, unless it is refused. A record
is read so if its fields are.

* `Form.Placeless` : a form that reads trees alike if they are alike, and none that is broken off.
* `Form.placeless_of_leaf`, `Form.Placeless.optional` : the plain forms.
* `Shape.placeless` : **records of placeless fields are placeless**.
-/

namespace MangaReader.Json

open MangaReader.Json.Tree

variable {α : Type}

/-- A form that reads trees alike if they are alike, and none that is broken off. -/
structure Form.Placeless (form : Form α) : Prop where
  alike : ∀ {t t' : Tree}, t.Alike t' → (form.read t).toOption = (form.read t').toOption
  sound : ∀ {t : Tree} {a : α}, form.read t = .ok a → t.skipFault? = none

def Tree.leaf? : Tree → Option Value
  | .null _ => some .null
  | .bool b _ => some (.bool b)
  | .number (.ok n) _ => some (.number n)
  | .string (.ok s) _ => some (.string s)
  | _ => none

def Value.integer? : Value → Option Int
  | .number (.integer n) => if n < 1 <<< 63 then some n else none
  | _ => none

def Value.text? : Value → Option String
  | .string s => some s
  | _ => none

def Value.flag? : Value → Option Bool
  | .bool b => some b
  | _ => none

theorem eq_of_toOption_eq {ε ε' : Type} {x : Except ε α} {y : Except ε' α}
    (h : x.toOption = y.toOption) :
    (∃ a, x = .ok a ∧ y = .ok a) ∨ (∃ e e', x = .error e ∧ y = .error e') := by
  cases x with
  | error e =>
    cases y with
    | error e' => exact .inr ⟨e, e', rfl, rfl⟩
    | ok b => cases h
  | ok a =>
    cases y with
    | error e' => cases h
    | ok b =>
      cases h
      exact .inl ⟨a, rfl, rfl⟩

theorem Tree.Alike.leaf?_eq {t t' : Tree} (h : t.Alike t') : t.leaf? = t'.leaf? := by
  cases h with
  | number h =>
    obtain ⟨n, rfl, rfl⟩ | ⟨f, f', rfl, rfl⟩ := eq_of_toOption_eq h <;> rfl
  | string h =>
    obtain ⟨s, rfl, rfl⟩ | ⟨f, f', rfl, rfl⟩ := eq_of_toOption_eq h <;> rfl
  | _ => rfl

namespace Form

/-! ### Plain forms -/

theorem placeless_of_leaf {form : Form α} (make : Value → Option α)
    (h : ∀ t, (form.read t).toOption = t.leaf?.bind make) : form.Placeless where
  alike {t t'} halike := by
    rw [h, h, halike.leaf?_eq]
  sound {t a} hread := by
    have hleaf := h t
    rw [hread] at hleaf
    cases t with
    | array | object | broken => cases hleaf
    | _ => rfl

theorem placeless_integer : integer.Placeless := by
  refine placeless_of_leaf Value.integer? fun t => ?_
  cases t with
  | number r =>
    cases r with
    | error f => rfl
    | ok n =>
      cases n with
      | integer n =>
        simp only [integer, leaf?, Option.bind_some, Value.integer?]
        split <;> rfl
      | float x => rfl
  | string r => cases r <;> rfl
  | _ => rfl

theorem placeless_text : text.Placeless := by
  refine placeless_of_leaf Value.text? fun t => ?_
  cases t with
  | number r => cases r <;> rfl
  | string r => cases r <;> rfl
  | _ => rfl

theorem placeless_flag : flag.Placeless := by
  refine placeless_of_leaf Value.flag? fun t => ?_
  cases t with
  | number r => cases r <;> rfl
  | string r => cases r <;> rfl
  | _ => rfl

theorem Placeless.optional {form : Form α} (h : form.Placeless) :
    (Form.optional form).Placeless where
  alike {t t'} halike := by
    have hread : ((form.read t).map some).toOption = ((form.read t').map some).toOption := by
      rw [toOption_map, toOption_map, h.alike halike]
    cases halike with
    | null => rfl
    | _ => exact hread
  sound {t a} hread := by
    cases t with
    | null => rfl
    | _ =>
      obtain ⟨b, hb, -⟩ := map_eq_ok hread
      exact h.sound hb

end Form

/-! ### Records -/

namespace Shape

variable {s : Shape α} {fields : List (Field α)}

theorem readItems_alike (hfields : ∀ f ∈ fields, f.form.Placeless)
    {items items' : List (Nat × Tree × Nat)} (h : AlikeItems items items') (stop stop' index : Nat)
    (a : α) :
    (s.readItems (.closed stop) index fields items a).toOption =
      (s.readItems (.closed stop') index fields items' a).toOption := by
  induction fields generalizing items items' index a with
  | nil =>
    cases h with
    | nil => rfl
    | cons => rfl
  | cons f fields ih =>
    obtain ⟨hf, hfields⟩ := List.forall_mem_cons.mp hfields
    cases h with
    | nil =>
      simp only [readItems, Ending.listBreak?]
      split
      · exact ih hfields .nil _ _
      · rfl
    | cons head tail =>
      simp only [readItems]
      obtain ⟨d, hd, hd'⟩ | ⟨e, e', he, he'⟩ := eq_of_toOption_eq (hf.alike head)
      · simp only [hd, hd']
        exact ih hfields tail _ _
      · simp only [he, he']
        rfl

theorem readMembers_alike (hfields : ∀ f ∈ s.fields, f.form.Placeless)
    {members members' : List (Name × Tree × Nat)} (h : AlikeMembers members members')
    (stop stop' : Nat) (seen : List String) (a : α) :
    (s.readMembers (.closed stop) seen members a).toOption =
      (s.readMembers (.closed stop') seen members' a).toOption := by
  induction members generalizing members' seen a with
  | nil =>
    cases h
    simp only [readMembers, Ending.objectBreak?]
    split <;> rfl
  | cons m members ih =>
    cases h with
    | cons hname head tail =>
      simp only [readMembers]
      obtain ⟨key, rfl, rfl⟩ | ⟨e, e', rfl, rfl⟩ := eq_of_toOption_eq hname
      · simp only
        cases hfind : s.fields.find? (·.name = key) with
        | none =>
          obtain ⟨hskip, hskip'⟩ := head.skipFault?_eq
          simp only [hskip, hskip']
          exact ih tail seen a
        | some f =>
          simp only
          split
          · rfl
          · obtain ⟨d, hd, hd'⟩ | ⟨e, e', he, he'⟩ :=
              eq_of_toOption_eq ((hfields f (List.mem_of_find?_eq_some hfind)).alike head)
            · simp only [hd, hd']
              exact ih tail _ _
            · simp only [he, he']
              rfl
      · rfl

theorem readItems_sound (hfields : ∀ f ∈ fields, f.form.Placeless)
    {items : List (Nat × Tree × Nat)} {ending : Ending} {index : Nat} {a r : α}
    (h : s.readItems ending index fields items a = .ok r) : itemsFault? ending items = none := by
  induction fields generalizing items index a with
  | nil =>
    cases items with
    | nil =>
      cases ending with
      | closed | inside => rfl
      | _ => cases h
    | cons item items => cases h
  | cons f fields ih =>
    obtain ⟨hf, hfields⟩ := List.forall_mem_cons.mp hfields
    cases items with
    | nil =>
      rw [readItems] at h
      split at h
      · cases h
      · rename_i hending
        rw [itemsFault?, hending, Option.map_none]
    | cons item items =>
      rw [readItems] at h
      split at h
      · cases h
      · rename_i d hd
        rw [itemsFault?, hf.sound hd]
        exact ih hfields h

theorem readMembers_sound (hfields : ∀ f ∈ s.fields, f.form.Placeless)
    {members : List (Name × Tree × Nat)} {ending : Ending} {seen : List String} {a r : α}
    (h : s.readMembers ending seen members a = .ok r) : membersFault? ending members = none := by
  induction members generalizing seen a with
  | nil =>
    rw [readMembers] at h
    split at h
    · cases h
    · rename_i hending
      rw [membersFault?, hending, Option.map_none]
  | cons m members ih =>
    rw [readMembers] at h
    split at h
    · cases h
    · split at h
      · split at h
        · cases h
        · rename_i hskip
          rw [membersFault?, hskip]
          exact ih h
      · rename_i f hfind
        split at h
        · cases h
        · split at h
          · cases h
          · rename_i d hd
            rw [membersFault?, (hfields f (List.mem_of_find?_eq_some hfind)).sound hd]
            exact ih h

theorem placeless (hfields : ∀ f ∈ s.fields, f.form.Placeless) : s.form.Placeless where
  alike h := by
    cases h with
    | array h => exact readItems_alike hfields h _ _ _ _
    | object h => exact readMembers_alike hfields h _ _ _ _
    | @number r r' => cases r <;> cases r' <;> rfl
    | @string r r' => cases r <;> cases r' <;> rfl
    | _ => rfl
  sound {t a} h := by
    cases t with
    | array => exact readItems_sound hfields h
    | object => exact readMembers_sound hfields h
    | broken => cases h
    | _ => rfl

end Shape

end MangaReader.Json

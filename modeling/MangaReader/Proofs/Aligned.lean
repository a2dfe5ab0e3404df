/-!
# Lists that agree on some elements

Two lists have the same elements of one kind, in the same order, when they can be walked along
together: an element of the kind is passed in both at once, any other in one of them.

* `Aligned` : the ways to walk along two lists.
* `Aligned.of_filter_eq` : lists with the same elements of a kind.
-/

namespace MangaReader

/-- Two lists walked along together, as far as the elements of a kind are concerned. -/
inductive Aligned {α : Type} (kind : α → Bool) : List α → List α → Prop
  | nil : Aligned kind [] []
  | both {a : α} {l₁ l₂ : List α} (ha : kind a = true) (rest : Aligned kind l₁ l₂) :
    Aligned kind (a :: l₁) (a :: l₂)
  | left {a : α} {l₁ l₂ : List α} (ha : kind a = false) (rest : Aligned kind l₁ l₂) :
    Aligned kind (a :: l₁) l₂
  | right {a : α} {l₁ l₂ : List α} (ha : kind a = false) (rest : Aligned kind l₁ l₂) :
    Aligned kind l₁ (a :: l₂)

theorem Aligned.of_filter_eq {α : Type} {kind : α → Bool} {l₁ l₂ : List α}
    (h : l₁.filter kind = l₂.filter kind) : Aligned kind l₁ l₂ := by
  induction l₁ generalizing l₂ with
  | nil =>
    induction l₂ with
    | nil => exact .nil
    | cons a l₂ ih =>
      cases ha : kind a with
      | true => simp [ha] at h
      | false => exact .right ha (ih (by simpa [ha] using h))
  | cons a l₁ ih =>
    cases ha : kind a with
    | false => exact .left ha (ih (by simpa [ha] using h))
    | true =>
      rw [List.filter_cons_of_pos ha] at h
      -- what precedes the element in the other list is of no concern
      obtain ⟨before, after, rfl, hbefore, -, hafter⟩ := List.filter_eq_cons_iff.mp h.symm
      clear h
      induction before with
      | nil => exact .both ha (ih hafter.symm)
      | cons b before ihb =>
        have hb : kind b = false := by simpa using hbefore b List.mem_cons_self
        exact .right hb (ihb fun x hx => hbefore x (List.mem_cons_of_mem _ hx))

end MangaReader

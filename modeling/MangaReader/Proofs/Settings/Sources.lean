/-!
# Sources, one above the other

Of several sources the highest one that says something counts. What those below it say is
overridden.

* `firstSaid` : what the sources come to.
* `SameAbove` : sources that differ at most in what is overridden.
* `SameAbove.firstSaid_eq` : these come to the same.
-/

namespace MangaReader

variable {α : Type} {x y : List (Option α)}

/-- What is said by the first source that says something. -/
def firstSaid (sources : List (Option α)) : Option α := sources.findSome? id

/-- Sources, the highest first, that differ at most below one that says something. -/
def SameAbove (x y : List (Option α)) : Prop :=
  x = y ∨ ∃ above below below', x = above ++ below ∧ y = above ++ below' ∧ ∃ a, some a ∈ above

theorem firstSaid_nil : firstSaid ([] : List (Option α)) = none := rfl

theorem firstSaid_cons (a : Option α) (rest : List (Option α)) :
    firstSaid (a :: rest) = a.or (firstSaid rest) := by
  cases a <;> rfl

theorem firstSaid_singleton (a : Option α) : firstSaid [a] = a := by
  rw [firstSaid_cons, firstSaid_nil, Option.or_none]

theorem isSome_firstSaid {a : α} (h : some a ∈ x) : (firstSaid x).isSome :=
  List.findSome?_isSome_iff.mpr ⟨some a, h, rfl⟩

theorem SameAbove.said (a : α) (below below' : List (Option α)) :
    SameAbove (some a :: below) (some a :: below') :=
  .inr ⟨[some a], below, below', rfl, rfl, a, List.mem_singleton_self _⟩

theorem SameAbove.firstSaid_eq (h : SameAbove x y) : firstSaid x = firstSaid y := by
  obtain rfl | ⟨above, below, below', rfl, rfl, a, ha⟩ := h
  · rfl
  · have habove := isSome_firstSaid ha
    rw [firstSaid] at habove ⊢
    rw [firstSaid, List.findSome?_append, List.findSome?_append, Option.or_of_isSome habove,
      Option.or_of_isSome habove]

end MangaReader

import MangaReader.Viewer.Viewer
import Mathlib.Data.List.Basic

/-!
# The slots that pages fill

What the slots of a chapter hold is a matter of the pages that have come, and of nothing else: the
first of them says how many slots there are, and each slot holds the last page that belongs there.

* `Feed.announced` : the number of slots that the first page says.
* `Feed.lastAt` : the last page that belongs into a slot.
* `PageDescriptor.Fits` : whether a page belongs into one of a number of slots.
* `slotsOf` : the slots after some pages; `slotsOf_concat` says that one page more is one slot
  written.
* `slotsOf_perm` : where pages for one slot are alike, their order does not matter.
-/

namespace MangaReader

open Feed

namespace Feed

/-- The number of slots that the first of some pages says. -/
def announced (pages : List PageDescriptor) : Option Nat := pages.head?.map (·.total)

/-- The last of some pages that belongs into a slot. -/
def lastAt (pages : List PageDescriptor) (i : Nat) : Option PageDescriptor :=
  (pages.filter fun p => p.index == i).getLast?

/-- Whether a page belongs into one of a number of slots that a chapter may have. -/
def PageDescriptor.Fits (page : PageDescriptor) (total : Nat) : Prop :=
  (0 < total ∧ total ≤ pageLimit) ∧ page.index < total

instance (page : PageDescriptor) (total : Nat) : Decidable (page.Fits total) :=
  inferInstanceAs (Decidable (_ ∧ _))

end Feed

def slotsOf (assets : AssetPaths) (total : Nat) (pages : List PageDescriptor) :
    List (Option String) :=
  (List.range total).map fun i => (lastAt pages i).map fun p => assets.servedPath p.path

variable {assets : AssetPaths} {total i : Nat} {pages other : List PageDescriptor}
  {page : PageDescriptor}

/-! ### The number of slots -/

@[simp] theorem announced_nil : announced [] = none := rfl

theorem announced_concat :
    announced (pages ++ [page]) = some ((announced pages).getD page.total) := by
  cases pages <;> rfl

/-! ### The last page for a slot -/

theorem lastAt_concat :
    lastAt (pages ++ [page]) i = if page.index = i then some page else lastAt pages i := by
  by_cases h : page.index = i <;> simp [lastAt, h]

theorem lastAt_eq_none_iff : lastAt pages i = none ↔ ∀ p ∈ pages, p.index ≠ i := by
  simp [lastAt]

theorem mem_of_lastAt (h : lastAt pages i = some page) : page ∈ pages ∧ page.index = i := by
  have hmem := List.mem_of_getLast? h
  rw [List.mem_filter, beq_iff_eq] at hmem
  exact hmem

theorem isSome_lastAt : (lastAt pages i).isSome ↔ ∃ p ∈ pages, p.index = i := by
  rw [Option.isSome_iff_ne_none, Ne, lastAt_eq_none_iff]
  push Not
  rfl

/-! ### Slots -/

@[simp] theorem length_slotsOf : (slotsOf assets total pages).length = total := by
  simp [slotsOf]

theorem getElem?_slotsOf (hi : i < total) :
    (slotsOf assets total pages)[i]? =
      some ((lastAt pages i).map fun p => assets.servedPath p.path) := by
  simp [slotsOf, hi]

theorem slotsOf_nil : slotsOf assets total [] = List.replicate total none := by
  simp [slotsOf, lastAt, List.map_const']

theorem slotsOf_concat :
    slotsOf assets total (pages ++ [page]) =
      (slotsOf assets total pages).set page.index (some (assets.servedPath page.path)) := by
  apply List.ext_getElem?
  intro i
  by_cases hi : i < total
  · rw [getElem?_slotsOf hi, lastAt_concat, List.getElem?_set, length_slotsOf]
    by_cases hindex : page.index = i
    · rw [if_pos hindex, if_pos hindex, if_pos (by omega), Option.map_some]
    · rw [if_neg hindex, if_neg hindex, getElem?_slotsOf hi]
  · rw [List.getElem?_eq_none (by rw [length_slotsOf]; omega),
      List.getElem?_eq_none (by rw [List.length_set, length_slotsOf]; omega)]

theorem filterMap_slotsOf :
    (slotsOf assets total pages).filterMap id =
      (List.range total).filterMap fun i =>
        (lastAt pages i).map fun p => assets.servedPath p.path := by
  rw [slotsOf, List.filterMap_map]
  rfl

theorem all_isSome_slotsOf :
    (slotsOf assets total pages).all Option.isSome ↔ ∀ i < total, ∃ p ∈ pages, p.index = i := by
  simp only [slotsOf, List.all_map, List.all_eq_true, List.mem_range, Function.comp_apply,
    Option.isSome_map, isSome_lastAt]

/-- **The order of the pages does not matter** where pages for one slot are alike. -/
theorem slotsOf_perm (hperm : other.Perm pages)
    (halike : ∀ p ∈ pages, ∀ q ∈ pages, p.index = q.index → p.path = q.path) :
    slotsOf assets total other = slotsOf assets total pages := by
  refine List.map_congr_left fun i _ => ?_
  cases hlast : lastAt pages i with
  | none =>
    have hother : lastAt other i = none :=
      lastAt_eq_none_iff.mpr fun p hp => lastAt_eq_none_iff.mp hlast p (hperm.mem_iff.mp hp)
    rw [hother]
  | some q =>
    obtain ⟨hq, hqi⟩ := mem_of_lastAt hlast
    have hsome : (lastAt other i).isSome := isSome_lastAt.mpr ⟨q, hperm.mem_iff.mpr hq, hqi⟩
    obtain ⟨p, hp⟩ := Option.isSome_iff_exists.mp hsome
    obtain ⟨hpmem, hpi⟩ := mem_of_lastAt hp
    have hpath : p.path = q.path := halike p (hperm.mem_iff.mp hpmem) q hq (hpi.trans hqi.symm)
    rw [hp, Option.map_some, Option.map_some, hpath]

end MangaReader

import MangaReader.Proofs.Feed.PageFeed
import MangaReader.Proofs.Viewer.Slots

/-!
# What the results of a feed make of a chapter

The results that a feed delivers say which pages are shown and how the chapter ends: pages are shown
up to the first that does not fit, and the chapter is complete if all fit and the mark of the end is
the last result.

* `Feed.pagesOf`, `Feed.totalOf`, `Feed.shownOf` : the pages, their number as the first page says
  it, and the pages that are shown.
* `Feed.Completes` : whether the chapter is complete at its end.
* `Feed.shownOf_of_terminal`, `Feed.Breaks.shownOf_eq` : what is shown where a chapter ends.
-/

namespace MangaReader.Feed

open Backend

def pagesOf (results : List (Except Failure PageEvent)) : List PageDescriptor :=
  results.filterMap fun
    | .ok (.page page) => some page
    | _ => none

/-- The number of pages that the first of them says, or 0 if there is none. -/
def totalOf (results : List (Except Failure PageEvent)) : Nat :=
  (announced (pagesOf results)).getD 0

/-- The pages before the first that does not fit. -/
def shownOf (results : List (Except Failure PageEvent)) : List PageDescriptor :=
  (pagesOf results).takeWhile fun page => page.Fits (totalOf results)

/-- Whether all pages fit and the last result is the mark of the end. -/
def Completes (results : List (Except Failure PageEvent)) : Prop :=
  shownOf results = pagesOf results ∧ results.getLast? = some (.ok .terminal)

def asPages (pages : List PageDescriptor) : List (Except Failure PageEvent) :=
  pages.map fun page => .ok (.page page)

/-- How a chapter fails after some pages: the feed ends early, it fails, or a page does not fit. -/
inductive Breaks (results : List (Except Failure PageEvent)) (pages : List PageDescriptor) : Prop
  | early (h : results = asPages pages)
  | faulty {f : Failure} (h : results = asPages pages ++ [.error f])
  | misfit {page : PageDescriptor} {rest : List (Except Failure PageEvent)}
      (h : results = asPages pages ++ .ok (.page page) :: rest)
      (hpage : ¬ page.Fits (totalOf results))

variable {results rest : List (Except Failure PageEvent)} {pages : List PageDescriptor}
  {page : PageDescriptor}

/-! ### Pages and the rest -/

theorem asPages_concat : asPages (pages ++ [page]) = asPages pages ++ [.ok (.page page)] := by
  simp [asPages]

theorem pagesOf_asPages_append : pagesOf (asPages pages ++ rest) = pages ++ pagesOf rest := by
  simp [pagesOf, asPages, List.filterMap_append, List.filterMap_map]

theorem totalOf_of_ne_nil (h : results = asPages pages ++ rest) (hpages : pages ≠ []) :
    (announced pages).getD 0 = totalOf results := by
  rw [totalOf, h, pagesOf_asPages_append]
  cases hp : pages with
  | nil => exact absurd hp hpages
  | cons first more => rfl

theorem totalOf_of_page (h : results = asPages pages ++ .ok (.page page) :: rest) :
    (announced pages).getD page.total = totalOf results := by
  rw [totalOf, h, pagesOf_asPages_append]
  cases pages <;> rfl

theorem fits_totalOf (h : results = asPages pages ++ rest)
    (hfits : ∀ p ∈ pages, p.Fits ((announced pages).getD 0)) :
    ∀ p ∈ pages, p.Fits (totalOf results) := by
  intro p hp
  rw [← totalOf_of_ne_nil h (List.ne_nil_of_mem hp)]
  exact hfits p hp

/-! ### The ends of a chapter -/

theorem shownOf_of_no_page (h : results = asPages pages ++ rest) (hrest : pagesOf rest = [])
    (hfits : ∀ p ∈ pages, p.Fits (totalOf results)) :
    shownOf results = pages ∧ pagesOf results = pages := by
  have hpages : pagesOf results = pages := by
    rw [h, pagesOf_asPages_append, hrest, List.append_nil]
  refine ⟨?_, hpages⟩
  rw [shownOf, hpages, List.takeWhile_eq_self_iff]
  intro p hp
  exact decide_eq_true (hfits p hp)

theorem shownOf_of_terminal (h : results = asPages pages ++ [.ok .terminal])
    (hfits : ∀ p ∈ pages, p.Fits (totalOf results)) :
    shownOf results = pages ∧ Completes results ∧ totalOf results = (announced pages).getD 0 := by
  obtain ⟨hshown, hpages⟩ := shownOf_of_no_page h rfl hfits
  refine ⟨hshown, ⟨hshown.trans hpages.symm, ?_⟩, by rw [totalOf, hpages]⟩
  rw [h, List.getLast?_concat]

/-- **A chapter that breaks is not complete**, and shows the pages before the break. -/
theorem Breaks.shownOf_eq (h : Breaks results pages)
    (hfits : ∀ p ∈ pages, p.Fits (totalOf results)) :
    shownOf results = pages ∧ ¬ Completes results := by
  cases h with
  | early h =>
    refine ⟨(shownOf_of_no_page (by rw [h, List.append_nil]) rfl hfits).1, ?_⟩
    rintro ⟨-, hlast⟩
    rw [h] at hlast
    obtain ⟨p, -, hp⟩ := List.mem_map.mp (List.mem_of_getLast? hlast)
    cases hp
  | faulty h =>
    refine ⟨(shownOf_of_no_page h rfl hfits).1, ?_⟩
    rintro ⟨-, hlast⟩
    rw [h, List.getLast?_concat] at hlast
    cases hlast
  | @misfit page rest h hpage =>
    have hpages : pagesOf results = pages ++ page :: pagesOf rest := by
      rw [h, pagesOf_asPages_append]
      rfl
    have hshown : shownOf results = pages := by
      rw [shownOf, hpages, List.takeWhile_append_of_pos]
      · rw [List.takeWhile_cons_of_neg (by simpa using hpage), List.append_nil]
      · intro p hp
        exact decide_eq_true (hfits p hp)
    refine ⟨hshown, ?_⟩
    rintro ⟨hall, -⟩
    rw [hshown, hpages] at hall
    simp at hall

end MangaReader.Feed

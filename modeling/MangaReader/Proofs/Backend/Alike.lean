import MangaReader.Proofs.Aligned
import MangaReader.Proofs.Backend.Exchange
import Mathlib.Tactic.SplitIfs

/-!
# Backends that differ in some answers only

A program asks its backend for things of some kind, of which some are set apart. Two backends are
alike but for these if what is asked for of them makes no difference to the answers to all else.
Scripts are whose routes are the same but for those that serve what is set apart, where no route
serves both.

* `Backend.AlikeBut` : backends that differ only in their answers to what is set apart.
* `Backend.AlikeBut.reads`, `Backend.AlikeBut.skips` : what one more request does to them.
* `Backend.SameRoutesBut.alikeBut` : scripts that differ in routes that are set apart.
-/

namespace MangaReader.Backend

open Client

variable {ι : Type} (request : ι → Except Failure Request) (apart : ι → Bool)

def answers (b : Backend) : List ι → List (ι × Except Failure Answer)
  | [] => []
  | x :: rest => (x, (exchange (request x) b).1) :: answers (exchange (request x) b).2 rest

/-- **Two backends differ only in their answers to what is set apart**: whatever they are asked for,
and whatever is asked in between of what is set apart, the answers to all else are the same. -/
def AlikeBut (b₁ b₂ : Backend) : Prop :=
  ∀ asked₁ asked₂ : List ι, asked₁.filter (!apart ·) = asked₂.filter (!apart ·) →
    (answers request b₁ asked₁).filter (!apart ·.1) =
      (answers request b₂ asked₂).filter (!apart ·.1)

variable {request apart} {b₁ b₂ : Backend} {x : ι}

/-! ### One more request -/

theorem AlikeBut.symm (h : AlikeBut request apart b₁ b₂) : AlikeBut request apart b₂ b₁ :=
  fun asked₁ asked₂ hasked => (h asked₂ asked₁ hasked.symm).symm

theorem AlikeBut.reads (h : AlikeBut request apart b₁ b₂) (hx : apart x = false) :
    (exchange (request x) b₁).1 = (exchange (request x) b₂).1 ∧
      AlikeBut request apart (exchange (request x) b₁).2 (exchange (request x) b₂).2 := by
  constructor
  · have hfirst := h [x] [x] rfl
    simpa [answers, hx] using hfirst
  · intro asked₁ asked₂ hasked
    have hafter := h (x :: asked₁) (x :: asked₂) (by simp [hx, hasked])
    simp only [answers, List.filter_cons, hx, Bool.not_false, if_true, List.cons.injEq] at hafter
    exact hafter.2

theorem AlikeBut.skips (h : AlikeBut request apart b₁ b₂) (hx : apart x = true) :
    AlikeBut request apart (exchange (request x) b₁).2 b₂ := by
  intro asked₁ asked₂ hasked
  have hafter := h (x :: asked₁) asked₂ (by simpa [hx] using hasked)
  simpa [answers, hx] using hafter

/-! ### Scripts -/

section

variable (request apart)

def ServesApart (route : Route) : Prop :=
  ∃ x sent, apart x = true ∧ request x = .ok sent ∧ route.admits sent = true

/-- No route serves both what is set apart and something else. -/
def RoutesApart : Prop :=
  ∀ x sent route, apart x = false → request x = .ok sent → Route.admits route sent = true →
    ¬ ServesApart request apart route

open Classical in
/-- The routes of a script that serve nothing that is set apart. -/
noncomputable def routesBut (routes : List Route) : List Route :=
  routes.filter (¬ ServesApart request apart ·)

end

variable {route : Route} {routes : List Route} {sent : Request}

theorem Route.admits_advance (route : Route) (sent : Request) :
    route.advance.admits sent = route.admits sent := by
  unfold Route.advance
  split
  · rfl
  · rfl

theorem servesApart_advance :
    ServesApart request apart route.advance ↔ ServesApart request apart route := by
  simp only [ServesApart, Route.admits_advance]

theorem routesBut_cons_of_apart (h : ServesApart request apart route) :
    routesBut request apart (route :: routes) = routesBut request apart routes := by
  simp [routesBut, h]

theorem routesBut_cons_of_other (h : ¬ ServesApart request apart route) :
    routesBut request apart (route :: routes) = route :: routesBut request apart routes := by
  simp [routesBut, h]

theorem dispatch_of_other (hroutes : RoutesApart request apart) (hx : apart x = false)
    (hsent : request x = .ok sent) (routes : List Route) :
    (dispatch sent routes).1 = (dispatch sent (routesBut request apart routes)).1 ∧
      routesBut request apart (dispatch sent routes).2 =
        (dispatch sent (routesBut request apart routes)).2 := by
  induction routes with
  | nil => exact ⟨rfl, rfl⟩
  | cons route rest ih =>
    by_cases hadmits : route.admits sent
    · have hother := hroutes x sent route hx hsent hadmits
      have hafter : ¬ ServesApart request apart route.advance := by rwa [servesApart_advance]
      rw [routesBut_cons_of_other hother]
      refine ⟨by simp [dispatch, hadmits], ?_⟩
      simp only [dispatch, if_pos hadmits]
      exact routesBut_cons_of_other hafter
    · by_cases hapart : ServesApart request apart route
      · simp only [dispatch, if_neg hadmits, routesBut_cons_of_apart hapart]
        exact ih
      · rw [routesBut_cons_of_other hapart]
        simp only [dispatch, if_neg hadmits, routesBut_cons_of_other hapart]
        exact ⟨ih.1, by rw [ih.2]⟩

theorem dispatch_of_apart (hx : apart x = true) (hsent : request x = .ok sent)
    (routes : List Route) :
    routesBut request apart (dispatch sent routes).2 = routesBut request apart routes := by
  induction routes with
  | nil => rfl
  | cons route rest ih =>
    by_cases hadmits : route.admits sent
    · have hapart : ServesApart request apart route := ⟨x, sent, hx, hsent, hadmits⟩
      have hafter : ServesApart request apart route.advance := servesApart_advance.mpr hapart
      simp only [dispatch, if_pos hadmits]
      rw [routesBut_cons_of_apart hafter, routesBut_cons_of_apart hapart]
    · simp only [dispatch, if_neg hadmits]
      by_cases hapart : ServesApart request apart route
      · rw [routesBut_cons_of_apart hapart, routesBut_cons_of_apart hapart, ih]
      · rw [routesBut_cons_of_other hapart, routesBut_cons_of_other hapart, ih]

/-- Two scripts at one address whose routes are the same but for those that are set apart. -/
structure SameRoutesBut (request : ι → Except Failure Request) (apart : ι → Bool)
    (b₁ b₂ : Backend) : Prop where
  origin : b₁.origin = b₂.origin
  routes : routesBut request apart b₁.routes = routesBut request apart b₂.routes

theorem SameRoutesBut.symm (h : SameRoutesBut request apart b₁ b₂) :
    SameRoutesBut request apart b₂ b₁ :=
  ⟨h.origin.symm, h.routes.symm⟩

theorem SameRoutesBut.reads (hroutes : RoutesApart request apart)
    (h : SameRoutesBut request apart b₁ b₂) (hx : apart x = false) :
    (exchange (request x) b₁).1 = (exchange (request x) b₂).1 ∧
      SameRoutesBut request apart (exchange (request x) b₁).2 (exchange (request x) b₂).2 := by
  cases hsent : request x with
  | error f => exact ⟨rfl, h⟩
  | ok sent =>
    have hboth : (dispatch sent b₁.routes).1 = (dispatch sent b₂.routes).1 ∧
        routesBut request apart (dispatch sent b₁.routes).2 =
          routesBut request apart (dispatch sent b₂.routes).2 := by
      obtain ⟨hreply₁, hroutes₁⟩ := dispatch_of_other hroutes hx hsent b₁.routes
      obtain ⟨hreply₂, hroutes₂⟩ := dispatch_of_other hroutes hx hsent b₂.routes
      rw [hreply₁, hroutes₁, hreply₂, hroutes₂, h.routes]
      exact ⟨rfl, rfl⟩
    simp only [exchange, ask, send, h.origin]
    split_ifs
    · exact ⟨rfl, h⟩
    · exact ⟨rfl, h⟩
    · rw [hboth.1]
      exact ⟨rfl, rfl, hboth.2⟩

theorem SameRoutesBut.skips (h : SameRoutesBut request apart b₁ b₂) (hx : apart x = true) :
    SameRoutesBut request apart (exchange (request x) b₁).2 b₂ := by
  cases hsent : request x with
  | error f => exact h
  | ok sent =>
    simp only [exchange, ask, send]
    split_ifs
    · exact h
    · exact h
    · exact ⟨h.origin, (dispatch_of_apart hx hsent b₁.routes).trans h.routes⟩

/-- **Scripts that differ in routes that are set apart are alike but for these**, if no route serves
what is set apart and something else. -/
theorem SameRoutesBut.alikeBut (hroutes : RoutesApart request apart)
    (h : SameRoutesBut request apart b₁ b₂) : AlikeBut request apart b₁ b₂ := by
  intro asked₁ asked₂ hasked
  have haligned := Aligned.of_filter_eq hasked
  clear hasked
  induction haligned generalizing b₁ b₂ with
  | nil => rfl
  | both ha _ ih =>
    obtain ⟨hsame, hafter⟩ := h.reads hroutes (by simpa using ha)
    simp only [answers, List.filter_cons, ha, if_true, hsame, ih hafter]
  | left ha _ ih =>
    have hafter := h.skips (by simpa using ha)
    simp only [answers, List.filter_cons, ha]
    exact ih hafter
  | right ha _ ih =>
    have hafter := (h.symm.skips (by simpa using ha)).symm
    simp only [answers, List.filter_cons, ha]
    exact ih hafter

end MangaReader.Backend

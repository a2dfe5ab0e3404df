import MangaReader.Proofs.Viewer.Effect
import MangaReader.Proofs.Viewer.Moves

/-!
# A session and its slots

A session counts its slots and its pages, the surface holds them, and neither looks at the other. A
surface does nothing about a page that belongs into no slot, so that an answer "placed" is right
only because the two agree (`Session.Owns`). Opening a chapter makes them agree, a page that is
placed keeps them so (`Session.Owns.readyFor`, `Session.Owns.place`), and whatever ends the session
may leave its slots behind, never too many (`Viewer.Effect.coupled`).

* `Session.Owns`, `Viewer.Coupled` : what a session and the surface have in common.
* `Viewer.Effect.stores` : a page that is placed is in its slot.
* `Viewer.coupled_run` : both in all runs of a new viewer.
-/

namespace MangaReader

open Feed

/-! ### Slots of a surface -/

namespace Surface
variable (surface : Surface) {i : Nat}

theorem length_slots_place (i : Nat) (url : String) :
    (surface.place i url).slots.length = surface.slots.length := by
  unfold place
  split
  · exact List.length_set
  · rfl

theorem getElem?_slots_place (hi : i < surface.slots.length) (url : String) :
    (surface.place i url).slots[i]? = some (some url) := by
  rw [place, if_pos hi]
  exact List.getElem?_set_self hi

theorem placements_place (hi : i < surface.slots.length) (url : String) :
    (surface.place i url).placements = surface.placements + 1 := by
  rw [place, if_pos hi]

theorem filled_eq_countP : surface.filled = surface.slots.countP Option.isSome := by
  rw [filled, rendered, List.length_filterMap_eq_countP]
  rfl

theorem filled_allocate (total : Nat) : (surface.allocate total).filled = 0 := by
  simp [filled, rendered, allocate]

theorem filled_place_le (i : Nat) (url : String) :
    (surface.place i url).filled ≤ surface.filled + 1 := by
  rw [filled_eq_countP, filled_eq_countP]
  unfold place
  split
  · rename_i hi
    rw [List.countP_set hi]
    have hsub := Nat.sub_le (surface.slots.countP Option.isSome)
      (if surface.slots[i].isSome then 1 else 0)
    exact Nat.add_le_add_right hsub 1
  · exact Nat.le_succ _

end Surface

/-! ### What a session and its slots have in common -/

/-- The slots on show are those of a session: there are none before its first page, and from then on
as many as that page has said, of which no more are filled than pages were placed. -/
structure Session.Owns (s : Session) (surface : Surface) : Prop where
  before : s.allocated = none → surface.slots = [] ∧ s.received = 0
  after : ∀ n, s.allocated = some n →
    (1 ≤ n ∧ n ≤ pageLimit) ∧ surface.slots.length = n ∧ surface.filled ≤ s.received

/-- A viewer whose session, if there is one, and surface belong together. -/
structure Viewer.Coupled (v : Viewer) : Prop where
  session : ∀ s, v.session = some s → s.Owns v.surface
  slots_le : v.surface.slots.length ≤ pageLimit

namespace Session.Owns
variable {s : Session} {surface other : Surface} {page : PageDescriptor}

theorem of_slots_eq (h : s.Owns surface) (hslots : other.slots = surface.slots) :
    s.Owns other where
  before := by rw [hslots]; exact h.before
  after := by rw [Surface.filled, Surface.rendered, hslots]; exact h.after

theorem readyFor (h : s.Owns surface) (hpage : s.Admits page) :
    ({ s with allocated := some (s.allocated.getD page.total) } : Session).Owns
      (surface.readyFor s page) where
  before hnone := by cases hnone
  after n hn := by
    rw [Option.some.injEq] at hn
    cases ha : s.allocated with
    | some m =>
      rw [ha, Option.getD_some] at hn
      rw [Surface.readyFor, ha]
      exact h.after n (ha.trans (congrArg some hn))
    | none =>
      rw [ha, Option.getD_none] at hn
      subst hn
      rw [Surface.readyFor, ha]
      refine ⟨hpage.total ha, List.length_replicate, ?_⟩
      rw [Surface.filled_allocate]
      exact Nat.zero_le _

theorem index_lt (h : s.Owns surface) (hpage : s.Admits page) :
    page.index < (surface.readyFor s page).slots.length := by
  rw [((h.readyFor hpage).after _ rfl).2.1]
  exact hpage.index

theorem place {n : Nat} (h : s.Owns surface) (hn : s.allocated = some n) (i : Nat) (url : String) :
    ({ s with received := s.received + 1 } : Session).Owns (surface.place i url) where
  before hnone := by rw [hn] at hnone; cases hnone
  after m hm := by
    obtain ⟨hlimits, hlength, hfilled⟩ := h.after m hm
    refine ⟨hlimits, (surface.length_slots_place i url).trans hlength, ?_⟩
    exact Nat.le_trans (surface.filled_place_le i url) (Nat.succ_le_succ hfilled)

theorem length_slots_le (h : s.Owns surface) : surface.slots.length ≤ pageLimit := by
  cases ha : s.allocated with
  | none =>
    rw [(h.before ha).1]
    exact Nat.zero_le _
  | some n =>
    obtain ⟨hlimits, hlength, -⟩ := h.after n ha
    rw [hlength]
    exact hlimits.2

end Session.Owns

namespace Viewer

def Answer.isPlaced : Answer → Bool
  | .outcome (.placed _ _) => true
  | _ => false

variable {v v' : Viewer} {op : Op} {a : Answer}

/-! ### One operation -/

theorem coupled_of_session {s : Session} (hs : v.session = some s) (h : s.Owns v.surface) :
    Coupled v where
  session other hother := by
    rw [hs, Option.some.injEq] at hother
    exact hother ▸ h
  slots_le := h.length_slots_le

theorem coupled_of_no_session (hs : v.session = none) (h : v.surface.slots.length ≤ pageLimit) :
    Coupled v where
  session s hsome := by rw [hs] at hsome; cases hsome
  slots_le := h

theorem coupled_start (v : Viewer) (c : Chapter) : Coupled (v.start c).1 :=
  coupled_of_session rfl ⟨fun _ => ⟨rfl, rfl⟩, fun n hn => by cases hn⟩

theorem Effect.coupled (hv : Coupled v) (h : Effect v op v' a) : Coupled v' := by
  cases h with
  | indexReplaced | tabSet =>
    exact ⟨fun s hs => (hv.session s hs).of_slots_eq rfl, hv.slots_le⟩
  | selected | navigated => exact coupled_start v _
  | completed hs =>
    have howns := hv.session _ (openSession?_eq_some.mp hs).1
    exact coupled_of_session rfl ⟨howns.before, howns.after⟩
  | placed hs hpage =>
    have howns := hv.session _ (openSession?_eq_some.mp hs).1
    exact coupled_of_session rfl ((howns.readyFor hpage).place rfl _ _)
  | rejected _ _ _ hsurface =>
    refine coupled_of_no_session rfl ?_
    rcases hsurface with rfl | ⟨-, -, htotal, rfl⟩
    · exact hv.slots_le
    · rw [Surface.allocate, List.length_replicate]
      exact htotal
  | failed | closed => exact coupled_of_no_session rfl hv.slots_le
  | notSelected | stayed | stale | notFailed => exact hv

theorem Effect.stores (hv : Coupled v) (h : Effect v op v' a) {i n : Nat}
    (ha : a = .outcome (.placed i n)) :
    (∃ k page, op = .event k (.page page) ∧ page.index = i ∧
      v'.surface.slots[i]? = some (some (v.assets.servedPath page.path))) ∧
      i < n ∧ v'.surface.slots.length = n := by
  cases h with
  | placed hs hpage =>
    cases ha
    have howns := hv.session _ (openSession?_eq_some.mp hs).1
    refine ⟨⟨_, _, rfl, rfl, ?_⟩, hpage.index, ?_⟩
    · exact Surface.getElem?_slots_place _ (howns.index_lt hpage) _
    · rw [Surface.length_slots_place]
      exact ((howns.readyFor hpage).after _ rfl).2.1
  | _ => cases ha

theorem placements_readyFor (surface : Surface) (s : Session) (page : PageDescriptor) :
    (surface.readyFor s page).placements = surface.placements := by
  unfold Surface.readyFor
  split <;> rfl

theorem Effect.placements_eq (hv : Coupled v) (h : Effect v op v' a) :
    v'.surface.placements = v.surface.placements + if a.isPlaced then 1 else 0 := by
  cases h with
  | placed hs hpage =>
    have howns := hv.session _ (openSession?_eq_some.mp hs).1
    exact (Surface.placements_place _ (howns.index_lt hpage) _).trans
      (congrArg (· + 1) (placements_readyFor _ _ _))
  | rejected _ _ _ hsurface =>
    rcases hsurface with rfl | ⟨-, -, -, rfl⟩ <;> rfl
  | _ => rfl

/-! ### Whole runs -/

theorem coupled_run (hv : Coupled v) (ops : List Op) : Coupled (v.run ops).1 :=
  run_keeps (I := Coupled) (fun w op hw => (step_effect w op).coupled hw) hv ops

theorem placements_run (hv : Coupled v) (ops : List Op) :
    (v.run ops).1.surface.placements =
      v.surface.placements + (v.run ops).2.countP Answer.isPlaced := by
  induction ops generalizing v with
  | nil => rfl
  | cons op ops ih =>
    have heffect := step_effect v op
    rw [run_cons, List.countP_cons, ih (heffect.coupled hv), heffect.placements_eq hv]
    omega

theorem assets_run (v : Viewer) (ops : List Op) : (v.run ops).1.assets = v.assets :=
  run_keeps (I := fun w => w.assets = v.assets)
    (fun w op hw => (step_effect w op).assets_eq.trans hw) rfl ops

/-- **Session and slots stay together.** Whatever a new viewer is asked, in any order: a session
without a page has no slots, a session with pages has as many as its first page has said, and no
more of them filled than pages were placed; there are never more slots than a chapter may have; and
the surface has counted as many pages as were answered as placed. So every further page that is
answered as placed is in its slot, and counted. -/
theorem coupled_and_counted (assets : AssetPaths) (ops : List Op) :
    let reached := ({ assets } : Viewer).run ops
    reached.1.Coupled ∧
      reached.1.surface.placements = reached.2.countP Answer.isPlaced ∧
      ∀ op i n, (reached.1.step op).2 = .outcome (.placed i n) →
        let next := (reached.1.step op).1
        (∃ k page, op = .event k (.page page) ∧ page.index = i ∧
          next.surface.slots[i]? = some (some (assets.servedPath page.path))) ∧
        i < n ∧ next.surface.slots.length = n ∧
        next.surface.placements = reached.1.surface.placements + 1 := by
  intro reached
  have hnew : Coupled ({ assets } : Viewer) := coupled_of_no_session rfl (Nat.zero_le _)
  have hreached : reached.1.Coupled := coupled_run hnew ops
  have hassets : reached.1.assets = assets := assets_run _ ops
  refine ⟨hreached, ?_, fun op i n ha => ?_⟩
  · rw [placements_run hnew ops]
    exact Nat.zero_add _
  · have heffect := step_effect reached.1 op
    obtain ⟨hslot, hindex, hlength⟩ := heffect.stores hreached ha
    rw [hassets] at hslot
    refine ⟨hslot, hindex, hlength, ?_⟩
    rw [heffect.placements_eq hreached, ha]
    rfl

/-- Two pages of a chapter, the first of them to be filled again. -/
theorem coupled_and_counted_refilled :
    let ops : List Op :=
      [.replaceIndex (.ofGroups [(.chapter, [(7, "1")])]), .select ⟨.chapter, 0⟩,
        .event 1 (.page ⟨1, 2, "b"⟩), .event 1 (.page ⟨0, 9, "a"⟩)]
    let reached := ({} : Viewer).run ops
    let next := (reached.1.step (.event 1 (.page ⟨1, 2, "c"⟩))).1
    reached.1.Coupled ∧ reached.1.surface.placements = 2 ∧
      next.surface.slots.length = 2 ∧ next.surface.placements = 3 := by
  intro ops reached next
  obtain ⟨hcoupled, hcount, hplaced⟩ := coupled_and_counted {} ops
  obtain ⟨-, -, hlength, hnext⟩ := hplaced (.event 1 (.page ⟨1, 2, "c"⟩)) 1 2 (by decide)
  have hcounted : reached.2.countP Answer.isPlaced = 2 := by decide
  rw [hcounted] at hcount
  exact ⟨hcoupled, hcount, hlength, by rw [hnext, hcount]⟩

end Viewer

end MangaReader

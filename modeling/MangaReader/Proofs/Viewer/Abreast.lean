import MangaReader.Proofs.Viewer.Life
import MangaReader.Proofs.Viewer.Reload

/-!
# A new index beside an open session

A session does not look at the index that its chapter was taken from, and the pages of its feed do
not look at the list of chapters beside the slots. So a viewer that has got a new index goes on with
its session as it would have without (`Viewer.Abreast`), until one of the two opens a chapter: this
is what place and index are for.

* `Viewer.onIndex`, `Viewer.Abreast` : viewers that differ in index, place and list of chapters
  only.
* `Viewer.apply_onIndex` : what a page event does, it does over every index.
* `Viewer.Abreast.step`, `Viewer.Abreast.run` : one operation of both, and a run.
* `Viewer.new_index_follows_the_chapter` : what a new index changes, and what it does not.
-/

namespace MangaReader.Viewer

open Feed

def onIndex (v : Viewer) (index : ChapterIndex) (cursor : Option Cursor) (tabs : List Tab)
    (activeTab : Option ChapterKind) : Viewer :=
  { v with index, cursor, surface := { v.surface with tabs, activeTab } }

/-- Two viewers that differ in index, place and list of chapters only. -/
def Abreast (v w : Viewer) : Prop :=
  ∃ index cursor tabs activeTab, w = v.onIndex index cursor tabs activeTab

variable {v w : Viewer} {op : Op} {index : ChapterIndex} {cursor : Option Cursor}
  {tabs : List Tab} {activeTab : Option ChapterKind}

theorem abreast_replaceIndex (v : Viewer) (index : ChapterIndex) :
    Abreast v (v.replaceIndex index) :=
  ⟨index, _, _, _, rfl⟩

/-! ### One operation -/

theorem place_onIndex (s : Session) (page : PageDescriptor) :
    (v.onIndex index cursor tabs activeTab).place s page =
      ((v.place s page).1.onIndex index cursor tabs activeTab, (v.place s page).2) := by
  have hfill : ∀ (v : Viewer) (total : Nat),
      place.fill page (v.onIndex index cursor tabs activeTab) s total =
        ((place.fill page v s total).1.onIndex index cursor tabs activeTab,
          (place.fill page v s total).2) := by
    intro v total
    unfold place.fill
    split
    · by_cases hslot : page.index < v.surface.slots.length <;> simp [onIndex, Surface.place, hslot]
    · rfl
  unfold place
  split
  · exact hfill v _
  · split
    · rfl
    · split
      · rfl
      · exact hfill { v with surface := v.surface.allocate page.total } _

theorem apply_onIndex (k : Nat) (e : PageEvent) :
    (v.onIndex index cursor tabs activeTab).apply k e =
      ((v.apply k e).1.onIndex index cursor tabs activeTab, (v.apply k e).2) := by
  have hsession : (v.onIndex index cursor tabs activeTab).openSession? k = v.openSession? k := rfl
  unfold apply
  rw [hsession]
  cases v.openSession? k with
  | none => rfl
  | some s =>
    cases e with
    | terminal => rfl
    | page page =>
      simp only [place_onIndex]
      generalize v.place s page = placed
      obtain ⟨after, _ | _⟩ := placed <;> rfl

theorem Effect.eq_of_asks {v' : Viewer} {a : Answer} (h : Effect v op v' a) (hop : op.asks)
    (ha : a.ticket? = none) : v' = v := by
  cases h with
  | selected | navigated => cases ha
  | notSelected | stayed => rfl
  | _ => cases hop

/-- **One operation keeps two viewers abreast**, and the events of all sessions get the same
answers, if neither opens a chapter. -/
theorem Abreast.step (h : Abreast v w) (hv : (v.step op).2.ticket? = none)
    (hw : (w.step op).2.ticket? = none) :
    Abreast (v.step op).1 (w.step op).1 ∧
      ∀ k, Move.reply? k ⟨w, op, (w.step op).2⟩ = Move.reply? k ⟨v, op, (v.step op).2⟩ := by
  obtain ⟨index, cursor, tabs, activeTab, rfl⟩ := h
  by_cases hop : op.asks
  · rw [(step_effect _ op).eq_of_asks hop hv, (step_effect _ op).eq_of_asks hop hw]
    refine ⟨⟨index, cursor, tabs, activeTab, rfl⟩, fun k => ?_⟩
    cases op with
    | select | navigate => rfl
    | _ => cases hop
  cases op with
  | replaceIndex | setTab => exact ⟨⟨_, _, _, _, rfl⟩, fun _ => rfl⟩
  | select | navigate => exact absurd rfl hop
  | event session e =>
    simp only [Viewer.step, apply_onIndex]
    exact ⟨⟨index, cursor, tabs, activeTab, rfl⟩, fun _ => rfl⟩
  | fail session =>
    have hsession : (v.onIndex index cursor tabs activeTab).openSession? session =
      v.openSession? session := rfl
    refine ⟨⟨index, cursor, tabs, activeTab, ?_⟩, fun _ => rfl⟩
    simp only [Viewer.step, fail, hsession]
    split <;> rfl
  | close =>
    refine ⟨⟨index, cursor, tabs, activeTab, ?_⟩, fun _ => rfl⟩
    simp only [Viewer.step, close_fst]
    rfl

/-! ### Whole runs -/

theorem Abreast.run (h : Abreast v w) {ops : List Op} (hv : tickets (v.run ops).2 = [])
    (hw : tickets (w.run ops).2 = []) :
    Abreast (v.run ops).1 (w.run ops).1 ∧ ∀ k, w.replies k ops = v.replies k ops := by
  induction ops generalizing v w with
  | nil => exact ⟨h, fun _ => rfl⟩
  | cons op ops ih =>
    rw [run_cons, tickets_cons, List.append_eq_nil_iff, Option.toList_eq_nil_iff] at hv hw
    obtain ⟨hnext, hreply⟩ := h.step hv.1 hw.1
    obtain ⟨hlast, hreplies⟩ := ih hnext hv.2 hw.2
    refine ⟨hlast, fun k => ?_⟩
    rw [replies_cons, replies_cons, hreply k, hreplies k]

/-- **A new index follows the chapter and nothing else.** Let a viewer in any state get an index
that is built of groups. If there was a chapter and the index has one of its id, the place is that
of such a chapter, and in every other case there is none. Session, state, number of sessions, tab,
slots and count of pages are as before. And whatever comes later, as long as no chapter is opened
with the new index or without it: the events of every session get the answers that they would have
got without it, and session, slots and count of pages are what they would have been. -/
theorem new_index_follows_the_chapter (v : Viewer)
    (groups : List (ChapterKind × List (Int × String))) :
    let index := ChapterIndex.ofGroups groups
    let w := v.replaceIndex index
    (∀ c, v.current = some c → (∃ d ∈ index.toList, d.id = c.id) →
      ∃ place d, w.cursor = some place ∧ index.resolve place = some d ∧ d.id = c.id) ∧
    (w.cursor = none ↔ ∀ c, v.current = some c → ∀ d ∈ index.toList, d.id ≠ c.id) ∧
    (w.index = index ∧ w.session = v.session ∧ w.state = v.state ∧ w.generation = v.generation ∧
      w.activeTab = v.activeTab ∧ w.surface.slots = v.surface.slots ∧
      w.surface.placements = v.surface.placements) ∧
    ∀ later, tickets (v.run later).2 = [] → tickets (w.run later).2 = [] →
      (∀ k, w.replies k later = v.replies k later) ∧
      (w.run later).1.session = (v.run later).1.session ∧
      (w.run later).1.surface.slots = (v.run later).1.surface.slots ∧
      (w.run later).1.surface.placements = (v.run later).1.surface.placements := by
  intro index w
  have hindex : index.Numbered := ChapterIndex.numbered_ofGroups groups
  refine ⟨fun c hc hthere => ?_, cursor_replaceIndex_eq_none_iff,
    ⟨rfl, rfl, rfl, rfl, rfl, rfl, rfl⟩, fun later hv hw => ?_⟩
  · obtain ⟨place, hplace, hfirst⟩ := exists_firstOf hindex hc hthere
    obtain ⟨d, hd, hid⟩ := hfirst.here
    exact ⟨place, d, hplace, hd, hid⟩
  · obtain ⟨⟨_, _, _, _, hlast⟩, hreplies⟩ := (abreast_replaceIndex v index).run hv hw
    refine ⟨hreplies, ?_⟩
    rw [hlast]
    exact ⟨rfl, rfl, rfl⟩

end MangaReader.Viewer

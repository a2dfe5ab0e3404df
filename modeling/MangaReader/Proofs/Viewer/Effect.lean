import MangaReader.Viewer.Run

/-!
# What one operation does

`Viewer.Effect` lists everything that an operation can do to a viewer, with the answers that go with
it, and `Viewer.step_effect` says that there is nothing else. An invariant of viewers is proved by
cases on the effect; no proof has to open an operation again.

* `Session.Admits` : when a page can be placed; all else is refused.
* `Viewer.openSession?_eq_some` : the session that an event is for.
* `Viewer.place_of_admits`, `Viewer.place_of_not_admits` : what comes of a page of an open session.
* `Viewer.Effect`, `Viewer.step_effect` : the effects of the operations.
-/

namespace MangaReader

open Feed

/-- When a page can be placed: the page that says how many slots there are says a number within the
limit, and the page belongs into one of them. -/
structure Session.Admits (s : Session) (page : PageDescriptor) : Prop where
  total : s.allocated = none → 0 < page.total ∧ page.total ≤ pageLimit
  index : page.index < s.allocated.getD page.total

/-- The surface that a page of a session finds: the first page makes the slots. -/
def Surface.readyFor (surface : Surface) (s : Session) (page : PageDescriptor) : Surface :=
  match s.allocated with
  | some _ => surface
  | none => surface.allocate page.total

namespace Viewer

def isOpen (v : Viewer) (session : Nat) : Bool :=
  v.session.any fun s => s.id == session && !s.complete

theorem openSession?_eq_some {v : Viewer} {k : Nat} {s : Session} :
    v.openSession? k = some s ↔ v.session = some s ∧ s.id = k ∧ s.complete = false := by
  simp [openSession?, Option.filter_eq_some_iff]

theorem openSession?_eq_none {v : Viewer} {k : Nat} :
    v.openSession? k = none ↔ v.isOpen k = false := by
  cases h : v.session <;> simp [openSession?, isOpen, h, Option.filter]

theorem isOpen_iff {v : Viewer} {k : Nat} :
    v.isOpen k ↔ ∃ s, v.session = some s ∧ s.id = k ∧ s.complete = false := by
  cases h : v.session <;> simp [isOpen, h]

theorem isOpen_of_openSession? {v : Viewer} {k : Nat} {s : Session}
    (h : v.openSession? k = some s) : v.isOpen k :=
  isOpen_iff.mpr ⟨s, openSession?_eq_some.mp h⟩

@[simp] theorem close_fst (v : Viewer) : v.close.1 = { v with session := none } := by
  cases hs : v.session with
  | none =>
    simp only [close, hs]
    rw [← hs]
  | some s => simp only [close, hs]

/-! ### Pages of an open session -/

section place
variable (v : Viewer) {s : Session} {page : PageDescriptor}

theorem place_of_admits (h : s.Admits page) :
    v.place s page =
      ({ v with
          surface := (v.surface.readyFor s page).place page.index (v.assets.servedPath page.path)
          session := some { s with
            allocated := some (s.allocated.getD page.total), received := s.received + 1 } },
        .ok (.placed page.index (s.allocated.getD page.total))) := by
  obtain ⟨htotal, hindex⟩ := h
  cases ha : s.allocated with
  | some n =>
    rw [ha, Option.getD_some] at hindex
    simp [place, place.fill, Surface.readyFor, ha, hindex]
  | none =>
    obtain ⟨hpos, hle⟩ := htotal ha
    rw [ha, Option.getD_none] at hindex
    have hzero : page.total ≠ 0 := by omega
    have hlimit : ¬ pageLimit < page.total := by omega
    simp [place, place.fill, Surface.readyFor, ha, hindex, hzero, hlimit]

/-- **A page that cannot be placed is refused.** It may have made the slots, if it is the first and
only its own place is wrong. -/
theorem place_of_not_admits (h : ¬ s.Admits page) :
    ∃ why surface, v.place s page = ({ v with surface }, .error why) ∧
      (surface = v.surface ∨
        s.allocated = none ∧ 0 < page.total ∧ page.total ≤ pageLimit ∧
          surface = v.surface.allocate page.total) := by
  cases ha : s.allocated with
  | some n =>
    have hindex : ¬ page.index < n := fun hlt =>
      h ⟨fun hnone => by simp [ha] at hnone, by simpa [ha] using hlt⟩
    exact ⟨_, v.surface, by simp [place, place.fill, ha, hindex]; rfl, .inl rfl⟩
  | none =>
    by_cases hzero : page.total = 0
    · exact ⟨_, v.surface, by simp [place, ha, hzero]; rfl, .inl rfl⟩
    by_cases hlimit : pageLimit < page.total
    · exact ⟨_, v.surface, by simp [place, ha, hzero, hlimit]; rfl, .inl rfl⟩
    have hindex : ¬ page.index < page.total := fun hlt =>
      h ⟨fun _ => ⟨by omega, by omega⟩, by simpa [ha] using hlt⟩
    exact ⟨_, v.surface.allocate page.total,
      by simp [place, place.fill, ha, hzero, hlimit, hindex]; rfl,
      .inr ⟨rfl, by omega, by omega, rfl⟩⟩

end place

/-! ### The effects of the operations -/

/-- Everything that an operation can do to a viewer, and the answer to it. -/
inductive Effect (v : Viewer) : Op → Viewer → Answer → Prop
  | indexReplaced (index : ChapterIndex) :
    Effect v (.replaceIndex index) (v.replaceIndex index) .done
  | tabSet (tab : ChapterKind) : Effect v (.setTab tab) (v.setTab tab) .done
  | selected {place : Cursor} {chapter : Chapter} (hplace : v.index.resolve place = some chapter) :
    Effect v (.select place) (v.start chapter).1 (.opened (v.start chapter).2)
  | notSelected {place : Cursor} (e : ReadError) (hplace : v.index.resolve place = none) :
    Effect v (.select place) v (.refused e)
  | navigated {d : Direction} {place : Cursor} {chapter : Chapter} (hidle : v.state = .idle)
      (hcursor : v.cursor = some place) (hplace : v.index.adjacent place d = some chapter) :
    Effect v (.navigate d) (v.start chapter).1 (.opened (v.start chapter).2)
  | stayed {d : Direction}
      (h : v.state ≠ .idle ∨ (v.cursor.bind fun c => v.index.adjacent c d) = none) :
    Effect v (.navigate d) v .stayed
  | stale {k : Nat} (e : PageEvent) (hk : v.isOpen k = false) :
    Effect v (.event k e) v (.outcome .stale)
  | completed {k : Nat} {s : Session} (hs : v.openSession? k = some s) :
    Effect v (.event k .terminal) { v with session := some { s with complete := true } }
      (.outcome (.complete (s.allocated.getD 0)))
  | placed {k : Nat} {s : Session} {page : PageDescriptor} (hs : v.openSession? k = some s)
      (hpage : s.Admits page) :
    Effect v (.event k (.page page))
      { v with
        surface := (v.surface.readyFor s page).place page.index (v.assets.servedPath page.path)
        session := some { s with
          allocated := some (s.allocated.getD page.total), received := s.received + 1 } }
      (.outcome (.placed page.index (s.allocated.getD page.total)))
  | rejected {k : Nat} {s : Session} {page : PageDescriptor} {surface : Surface} (why : Rejection)
      (hs : v.openSession? k = some s) (hpage : ¬ s.Admits page)
      (hsurface : surface = v.surface ∨
        s.allocated = none ∧ 0 < page.total ∧ page.total ≤ pageLimit ∧
          surface = v.surface.allocate page.total) :
    Effect v (.event k (.page page)) { v with surface, session := none }
      (.refused (.stream why.message))
  | failed {k : Nat} {s : Session} (hs : v.openSession? k = some s) :
    Effect v (.fail k) { v with session := none } (.failed true)
  | notFailed {k : Nat} (hk : v.isOpen k = false) : Effect v (.fail k) v (.failed false)
  | closed (session : Option Nat) :
    Effect v .close { v with session := none } (.closed session)

theorem effect_page {v : Viewer} {k : Nat} {s : Session} (hs : v.openSession? k = some s)
    (page : PageDescriptor) :
    Effect v (.event k (.page page)) (v.step (.event k (.page page))).1
      (v.step (.event k (.page page))).2 := by
  by_cases hpage : s.Admits page
  · have hplace := v.place_of_admits hpage
    simp only [step, apply, hs, hplace, Answer.ofExcept]
    exact .placed hs hpage
  · obtain ⟨why, surface, hplace, hsurface⟩ := v.place_of_not_admits hpage
    simp only [step, apply, hs, hplace, Answer.ofExcept]
    exact .rejected why hs hpage hsurface

theorem effect_navigate (v : Viewer) (d : Direction) :
    Effect v (.navigate d) (v.step (.navigate d)).1 (v.step (.navigate d)).2 := by
  cases hstate : v.state with
  | loading session chapterId =>
    simp only [step, navigate, hstate, Option.map_none, Option.getD_none]
    exact .stayed (.inl (by simp [hstate]))
  | idle =>
    cases hnext : v.cursor.bind fun c => v.index.adjacent c d with
    | none =>
      simp only [step, navigate, hstate, hnext, Option.map_none, Option.getD_none]
      exact .stayed (.inr hnext)
    | some chapter =>
      obtain ⟨place, hcursor, hplace⟩ := Option.bind_eq_some_iff.mp hnext
      simp only [step, navigate, hstate, hnext, Option.map_some, Option.getD_some]
      exact .navigated hstate hcursor hplace

theorem step_effect (v : Viewer) (op : Op) : Effect v op (v.step op).1 (v.step op).2 := by
  cases op with
  | replaceIndex index => exact .indexReplaced index
  | setTab tab => exact .tabSet tab
  | select place =>
    cases hplace : v.index.resolve place with
    | some chapter =>
      simp only [step, select, hplace, Answer.ofExcept]
      exact .selected hplace
    | none =>
      simp only [step, select, hplace, Answer.ofExcept]
      exact .notSelected _ hplace
  | navigate d => exact effect_navigate v d
  | event k e =>
    cases hs : v.openSession? k with
    | none =>
      simp only [step, apply, hs, Answer.ofExcept]
      exact .stale e (openSession?_eq_none.mp hs)
    | some s =>
      cases e with
      | terminal =>
        simp only [step, apply, hs, Answer.ofExcept]
        exact .completed hs
      | page page => exact effect_page hs page
  | fail k =>
    cases hs : v.openSession? k with
    | none =>
      simp only [step, fail, hs]
      exact .notFailed (openSession?_eq_none.mp hs)
    | some s =>
      simp only [step, fail, hs]
      exact .failed hs
  | close =>
    simp only [step, close_fst]
    exact .closed _

theorem Effect.assets_eq {v v' : Viewer} {op : Op} {a : Answer} (h : Effect v op v' a) :
    v'.assets = v.assets := by
  cases h <;> rfl

end Viewer

end MangaReader

import MangaReader.Proofs.Viewer.Coupling
import MangaReader.Proofs.Viewer.Standing

/-!
# Pages that are refused

A page of the open session is refused for one of three reasons (`Session.Refuses`), two of which ask
whether it is the page that makes the slots. It may have made them before its own place turns out to
be wrong, and they are left behind empty: a session without a page has no slots, so that no page was
in them. Otherwise the refusal costs the session and nothing else (`Viewer.LosesSession`), and what
the viewer opens next is a matter of its index and place (`Viewer.OpensAlike`).

* `Session.Refuses`, `Session.exists_refuses_iff` : why and when a page is refused.
* `Viewer.apply_of_refuses`, `Viewer.refuses_of_apply_error` : what comes of such a page, and that
  nothing else is an error.
* `Viewer.opensAlike_of_idle` : viewers that have index and place in common open the same.
* `Viewer.refusal_costs_the_session` : all of it in every viewer that a run leads to.
-/

namespace MangaReader

open Feed

/-- Why a page of a session is refused. What the page says of the number of slots counts only if it
is the one to make them. -/
inductive Session.Refuses (s : Session) (page : PageDescriptor) : Rejection → Prop
  | noPages (hfirst : s.allocated = none) (htotal : page.total = 0) : Refuses s page .noPages
  | tooManyPages (hfirst : s.allocated = none) (htotal : pageLimit < page.total) :
    Refuses s page (.tooManyPages page.total)
  | outsideSlots (htotal : s.allocated = none → 0 < page.total ∧ page.total ≤ pageLimit)
      (hindex : s.allocated.getD page.total ≤ page.index) :
    Refuses s page (.outsideSlots page.index (s.allocated.getD page.total))

/-- Whether a page is to make the slots of a session and says a number of them that is not
allowed. -/
def Session.Miscounts (s : Session) (page : PageDescriptor) : Prop :=
  s.allocated = none ∧ (page.total = 0 ∨ pageLimit < page.total)

namespace Session
variable {s : Session} {page : PageDescriptor} {why : Rejection}

theorem exists_refuses_iff :
    (∃ why, s.Refuses page why) ↔
      s.Miscounts page ∨ s.allocated.getD page.total ≤ page.index := by
  constructor
  · rintro ⟨why, h⟩
    cases h with
    | noPages hfirst hzero => exact .inl ⟨hfirst, .inl hzero⟩
    | tooManyPages hfirst hlimit => exact .inl ⟨hfirst, .inr hlimit⟩
    | outsideSlots _ hindex => exact .inr hindex
  · intro h
    by_cases hmiscounts : s.Miscounts page
    · obtain ⟨hfirst, hzero | hlimit⟩ := hmiscounts
      · exact ⟨_, .noPages hfirst hzero⟩
      · exact ⟨_, .tooManyPages hfirst hlimit⟩
    · refine ⟨_, .outsideSlots (fun hfirst => ?_) (h.resolve_left hmiscounts)⟩
      by_contra htotal
      exact hmiscounts ⟨hfirst, by omega⟩

theorem not_admits_iff : ¬ s.Admits page ↔ ∃ why, s.Refuses page why := by
  rw [exists_refuses_iff, Miscounts]
  constructor
  · intro h
    by_contra hfits
    rw [not_or, Nat.not_le] at hfits
    obtain ⟨hcounts, hindex⟩ := hfits
    refine h ⟨fun hfirst => ?_, hindex⟩
    by_contra htotal
    exact hcounts ⟨hfirst, by omega⟩
  · rintro (⟨hfirst, htotal⟩ | hindex) hadmits
    · have := hadmits.total hfirst
      omega
    · exact absurd hadmits.index (Nat.not_lt.mpr hindex)

end Session

namespace Viewer

/-- What the loss of its session leaves of a viewer: index, place, tab, list of chapters and
counters are as before, and the same pages are in the same slots. -/
structure LosesSession (v v' : Viewer) : Prop where
  session : v'.session = none
  state : v'.state = .idle
  index : v'.index = v.index
  cursor : v'.cursor = v.cursor
  activeTab : v'.activeTab = v.activeTab
  listed : v'.surface.tabs = v.surface.tabs ∧ v'.surface.activeTab = v.surface.activeTab
  generation : v'.generation = v.generation
  placements : v'.surface.placements = v.surface.placements
  filled : ∀ (i : Nat) (url : String),
    v'.surface.slots[i]? = some (some url) ↔ v.surface.slots[i]? = some (some url)

/-- Two viewers open the same chapters: whatever chapter they are asked for, both open it, or both
stay as they are with the same answer. -/
def OpensAlike (v w : Viewer) : Prop :=
  ∀ op : Op, op.asks →
    (∃ c, v.step op = ((v.start c).1, .opened (v.start c).2) ∧
      w.step op = ((w.start c).1, .opened (w.start c).2)) ∨
    ∃ a : Answer, a.ticket? = none ∧ v.step op = (v, a) ∧ w.step op = (w, a)

variable {v v' w : Viewer} {k : Nat} {s : Session} {page : PageDescriptor} {why : Rejection}
  {e : PageEvent} {err : ReadError}

/-! ### The page -/

/-- **A page that is refused** is refused in the words of its reason, and it makes slots only if its
own place is the reason. -/
theorem place_of_refuses (h : s.Refuses page why) :
    ∃ surface, v.place s page = ({ v with surface }, .error why) ∧
      (surface = v.surface ∨
        s.allocated = none ∧ ¬ s.Miscounts page ∧ surface = v.surface.allocate page.total) := by
  cases h with
  | noPages hfirst htotal => exact ⟨v.surface, by simp [place, hfirst, htotal], .inl rfl⟩
  | tooManyPages hfirst htotal =>
    have hpos : page.total ≠ 0 := by omega
    exact ⟨v.surface, by simp [place, hfirst, hpos, htotal], .inl rfl⟩
  | outsideSlots htotal hindex =>
    have houtside := Nat.not_lt.mpr hindex
    cases hslots : s.allocated with
    | some n =>
      rw [hslots, Option.getD_some] at houtside
      exact ⟨v.surface, by simp [place, place.fill, hslots, houtside], .inl rfl⟩
    | none =>
      obtain ⟨hpos, hlimit⟩ := htotal hslots
      rw [hslots, Option.getD_none] at houtside
      refine ⟨v.surface.allocate page.total, ?_, .inr ⟨rfl, ?_, rfl⟩⟩
      · have hpos : page.total ≠ 0 := by omega
        have hlimit : ¬ pageLimit < page.total := by omega
        simp [place, place.fill, hslots, hpos, hlimit, houtside]
      · rintro ⟨-, hmiscounts⟩
        omega

theorem apply_of_refuses (hs : v.openSession? k = some s) (h : s.Refuses page why) :
    ∃ surface, v.apply k (.page page) =
        ({ v with surface, session := none }, .error (.stream why.message)) ∧
      (surface = v.surface ∨
        s.allocated = none ∧ ¬ s.Miscounts page ∧ surface = v.surface.allocate page.total) := by
  obtain ⟨surface, hplace, hsurface⟩ := place_of_refuses (v := v) h
  exact ⟨surface, by simp only [apply, hs, hplace], hsurface⟩

theorem refuses_of_apply_error (h : (v.apply k e).2 = .error err) :
    ∃ s page why, v.openSession? k = some s ∧ e = .page page ∧ s.Refuses page why ∧
      err = .stream why.message := by
  cases hs : v.openSession? k with
  | none =>
    simp only [apply, hs] at h
    cases h
  | some s =>
    cases e with
    | terminal =>
      simp only [apply, hs] at h
      cases h
    | page page =>
      by_cases hpage : s.Admits page
      · simp only [apply, hs, v.place_of_admits hpage] at h
        cases h
      · obtain ⟨why, hwhy⟩ := Session.not_admits_iff.mp hpage
        obtain ⟨surface, happly, -⟩ := apply_of_refuses hs hwhy
        rw [happly] at h
        exact ⟨s, page, why, rfl, rfl, hwhy, (Except.error.inj h).symm⟩

theorem filled_allocate_iff {surface : Surface} (h : surface.slots = []) (total i : Nat)
    (url : String) :
    (surface.allocate total).slots[i]? = some (some url) ↔ surface.slots[i]? = some (some url) := by
  simp [Surface.allocate, h, List.getElem?_replicate]

theorem losesSession_of_refuses (hv : Coupled v) (hs : v.openSession? k = some s)
    (h : s.Refuses page why) : LosesSession v (v.apply k (.page page)).1 := by
  obtain ⟨surface, happly, hsurface⟩ := apply_of_refuses hs h
  have hsession := (openSession?_eq_some.mp hs).1
  rw [happly]
  rcases hsurface with rfl | ⟨hfirst, -, rfl⟩
  · exact ⟨rfl, rfl, rfl, rfl, rfl, ⟨rfl, rfl⟩, rfl, rfl, fun _ _ => .rfl⟩
  · have hempty : v.surface.slots = [] := ((hv.session s hsession).before hfirst).1
    exact ⟨rfl, rfl, rfl, rfl, rfl, ⟨rfl, rfl⟩, rfl, rfl, filled_allocate_iff hempty page.total⟩

/-! ### What is opened next -/

theorem opensAlike_of_idle (hv : v.state = .idle) (hw : w.state = .idle)
    (hindex : w.index = v.index) (hcursor : w.cursor = v.cursor) : OpensAlike v w := by
  intro op hop
  cases op with
  | select place =>
    cases hplace : v.index.resolve place with
    | some c => exact .inl ⟨c, by simp [step, select, hindex, hplace, Answer.ofExcept]⟩
    | none =>
      refine .inr ⟨.refused (.invalidSelection place
        (selectionReason (v.index.group place.group).length)), rfl, ?_, ?_⟩
      · simp only [step, select, hplace, Answer.ofExcept]
      · simp only [step, select, hindex, hplace, Answer.ofExcept]
  | navigate d =>
    cases hnext : v.cursor.bind fun c => v.index.adjacent c d with
    | some c => exact .inl ⟨c, by simp [step, navigate, hv, hw, hindex, hcursor, hnext]⟩
    | none =>
      exact .inr ⟨.stayed, rfl, by simp [step, navigate, hv, hw, hindex, hcursor, hnext]⟩
  | _ => cases hop

/-! ### Whole runs -/

/-- **When a page is refused and what that costs.** Whatever a new viewer was asked: an event is an
error just when it is a page of the open, incomplete session that is to make the slots and says none
or too many of them, or whose place is not below their number. Then it is refused in the words of
its reason, the session is lost and nothing else, and no slots are made if their number is the
reason. From there the viewer opens what every idle viewer of that index and place opens, and all
further events of the session come too late. -/
theorem refusal_costs_the_session (assets : AssetPaths) (ops : List Op) (k : Nat) (e : PageEvent) :
    let v := (({ assets } : Viewer).run ops).1
    let v' := (v.apply k e).1
    ((∃ err, (v.apply k e).2 = .error err) ↔
      ∃ s page, v.session = some s ∧ s.id = k ∧ s.complete = false ∧ e = .page page ∧
        (s.allocated = none ∧ (page.total = 0 ∨ pageLimit < page.total) ∨
          s.allocated.getD page.total ≤ page.index)) ∧
    ∀ err, (v.apply k e).2 = .error err →
      (∃ s page why, v.session = some s ∧ e = .page page ∧ s.Refuses page why ∧
        err = .stream why.message ∧ (s.Miscounts page → v'.surface = v.surface)) ∧
      LosesSession v v' ∧
      (∀ w : Viewer, w.state = .idle → w.index = v.index → w.cursor = v.cursor →
        OpensAlike v' w) ∧
      ∀ later e', (v'.run later).1.apply k e' = ((v'.run later).1, .ok .stale) := by
  intro v v'
  have hnew : Coupled ({ assets } : Viewer) := coupled_of_no_session rfl (Nat.zero_le _)
  have hcoupled : Coupled v := coupled_run hnew ops
  refine ⟨⟨?_, ?_⟩, fun err herr => ?_⟩
  · rintro ⟨err, herr⟩
    obtain ⟨s, page, why, hs, he, hwhy, -⟩ := refuses_of_apply_error herr
    obtain ⟨hsession, hid, hopen⟩ := openSession?_eq_some.mp hs
    exact ⟨s, page, hsession, hid, hopen, he, Session.exists_refuses_iff.mp ⟨why, hwhy⟩⟩
  · rintro ⟨s, page, hsession, hid, hopen, rfl, hpage⟩
    obtain ⟨why, hwhy⟩ := Session.exists_refuses_iff.mpr hpage
    obtain ⟨surface, happly, -⟩ :=
      apply_of_refuses (openSession?_eq_some.mpr ⟨hsession, hid, hopen⟩) hwhy
    exact ⟨_, congrArg Prod.snd happly⟩
  · obtain ⟨s, page, why, hs, rfl, hwhy, rfl⟩ := refuses_of_apply_error herr
    have hloses : LosesSession v v' := losesSession_of_refuses hcoupled hs hwhy
    obtain ⟨hsession, hid, -⟩ := openSession?_eq_some.mp hs
    have hk : k ≤ v'.generation := by
      rw [hloses.generation, ← hid]
      exact session_le_run rfl ops hsession
    have hshut : v'.isOpen k = false := by rw [isOpen, hloses.session, Option.any_none]
    refine ⟨⟨s, page, why, hsession, rfl, hwhy, rfl, fun hmiscounts => ?_⟩, hloses,
      fun w hw hindex hcursor => ?_, fun later e' => ?_⟩
    · obtain ⟨surface, happly, hsurface⟩ := apply_of_refuses hs hwhy
      have hkept : surface = v.surface :=
        hsurface.resolve_right fun hmade => hmade.2.1 hmiscounts
      exact (congrArg (·.1.surface) happly).trans hkept
    · exact opensAlike_of_idle hloses.state hw (hindex.trans hloses.index.symm)
        (hcursor.trans hloses.cursor.symm)
    · have hlate : (v'.run later).1.openSession? k = none :=
        openSession?_eq_none.mpr (isOpen_run hk hshut later)
      simp only [apply, hlate]

/-- A first page that makes slots before its own place turns out to be wrong. -/
example :
    let v := (({} : Viewer).run
      [.replaceIndex (.ofGroups [(.chapter, [(7, "1")])]), .select ⟨.chapter, 0⟩]).1
    let refused := v.apply 1 (.page ⟨3, 3, "a"⟩)
    refused.2 = .error (.stream "page index 3 outside 3 slots") ∧
      refused.1.surface.slots = [none, none, none] ∧ refused.1.cursor = some ⟨.chapter, 0⟩ := by
  decide +kernel

end Viewer

end MangaReader

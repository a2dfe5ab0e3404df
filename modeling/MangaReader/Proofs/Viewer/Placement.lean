import MangaReader.Proofs.Viewer.Effect
import MangaReader.Proofs.Viewer.Moves
import MangaReader.Proofs.Viewer.Slots

/-!
# Every page in its slot

While a session is open, viewer and surface are determined by the pages that were placed: this is
the invariant `Showing`. A session starts with no page (`showing_start`), a page that fits is one
page more (`Showing.concat`), and what neither opens nor ends a session is no page
(`Showing.effect`). So the slots are those of the pages that were placed, whatever came between them
(`showing_run`), the last page for a slot counts, and the order does not matter where pages for one
slot are alike (`slots_of_deliveries`).
-/

namespace MangaReader.Viewer

open Feed

def sessionOf (k : Nat) (chapter : Chapter) (pages : List PageDescriptor) : Session where
  id := k
  chapter := chapter
  allocated := announced pages
  received := pages.length

/-- A viewer whose open session has placed some pages. -/
structure Showing (v : Viewer) (k : Nat) (chapter : Chapter) (pages : List PageDescriptor) :
    Prop where
  session : v.session = some (sessionOf k chapter pages)
  slots : v.surface.slots = slotsOf v.assets ((announced pages).getD 0) pages
  fits : ∀ p ∈ pages, p.Fits ((announced pages).getD 0)

namespace Move

def delivered? (session : Nat) (m : Move) : Option PageDescriptor :=
  match m.op, m.answer with
  | .event k (.page page), .outcome (.placed _ _) => if k = session then some page else none
  | _, _ => none

/-- Whether a move neither opens nor ends a session: it replaces the index or the tab, finds no
chapter to open, places a page, or is an event or a failure of a session that is not open. -/
def continues (m : Move) : Bool :=
  match m.op, m.answer with
  | .replaceIndex _, _ | .setTab _, _ | .select _, .refused _ | .navigate _, .stayed
  | .event _ (.page _), .outcome (.placed _ _) | .event _ _, .outcome .stale
  | .fail _, .failed false => true
  | _, _ => false

end Move

/-- The pages that a run places for a session, in their order. -/
def deliveries (v : Viewer) (session : Nat) (ops : List Op) : List PageDescriptor :=
  (v.moves ops).filterMap (·.delivered? session)

variable {v v' : Viewer} {op : Op} {a : Answer} {k : Nat} {chapter : Chapter}
  {pages : List PageDescriptor} {page : PageDescriptor}

/-! ### The start of a session -/

theorem showing_start (v : Viewer) (c : Chapter) :
    Showing (v.start c).1 (v.start c).2.session c [] where
  session := rfl
  slots := rfl
  fits := by simp

theorem Effect.showing_of_opened (h : Effect v op v' a) {t : Ticket} (ha : a = .opened t) :
    Showing v' t.session t.chapter [] := by
  cases h with
  | selected | navigated =>
    cases ha
    exact showing_start v _
  | _ => cases ha

/-! ### One page more -/

theorem Showing.openSession? (h : Showing v k chapter pages) :
    v.openSession? k = some (sessionOf k chapter pages) :=
  openSession?_eq_some.mpr ⟨h.session, rfl, rfl⟩

theorem Showing.admits_iff (h : Showing v k chapter pages) :
    (sessionOf k chapter pages).Admits page ↔ page.Fits ((announced pages).getD page.total) := by
  constructor
  · rintro ⟨htotal, hindex⟩
    refine ⟨?_, hindex⟩
    cases hp : pages with
    | nil => exact htotal (by rw [sessionOf, hp]; rfl)
    | cons first rest =>
      have hfirst := h.fits first (by rw [hp]; exact List.mem_cons_self)
      rw [hp] at hfirst
      exact hfirst.1
  · rintro ⟨htotal, hindex⟩
    refine ⟨fun hnone => ?_, hindex⟩
    rw [show announced pages = none from hnone] at htotal
    exact htotal

theorem Showing.slots_readyFor (h : Showing v k chapter pages) :
    (v.surface.readyFor (sessionOf k chapter pages) page).slots =
      slotsOf v.assets ((announced pages).getD page.total) pages := by
  cases hp : pages with
  | nil => simp [Surface.readyFor, sessionOf, Surface.allocate, slotsOf_nil]
  | cons first rest =>
    have hslots := h.slots
    rw [hp] at hslots
    exact hslots

theorem Showing.concat (h : Showing v k chapter pages)
    (hpage : page.Fits ((announced pages).getD page.total)) :
    Showing
      { v with
        surface := (v.surface.readyFor (sessionOf k chapter pages) page).place page.index
          (v.assets.servedPath page.path)
        session := some { sessionOf k chapter pages with
          allocated := some ((announced pages).getD page.total), received := pages.length + 1 } }
      k chapter (pages ++ [page]) where
  session := by simp [sessionOf, announced_concat]
  slots := by
    have hlt : page.index < (v.surface.readyFor (sessionOf k chapter pages) page).slots.length := by
      rw [h.slots_readyFor, length_slotsOf]
      exact hpage.2
    rw [announced_concat, Option.getD_some, slotsOf_concat, ← h.slots_readyFor, Surface.place,
      if_pos hlt]
  fits := by
    intro p hp
    rw [announced_concat, Option.getD_some]
    rcases List.mem_append.mp hp with hp | hp
    · cases hpages : pages with
      | nil => simp [hpages] at hp
      | cons first rest =>
        have hfits := h.fits p hp
        rw [hpages] at hfits
        exact hfits
    · rw [List.mem_singleton.mp hp]
      exact hpage

/-- **What neither opens nor ends a session places its page, if it places one.** -/
theorem Showing.effect (hv : Showing v k chapter pages) (h : Effect v op v' a)
    (hcontinues : Move.continues ⟨v, op, a⟩) :
    Showing v' k chapter (pages ++ (Move.delivered? k ⟨v, op, a⟩).toList) := by
  cases h with
  | indexReplaced | tabSet =>
    simp only [Move.delivered?, Option.toList_none, List.append_nil]
    exact ⟨hv.session, hv.slots, hv.fits⟩
  | notSelected | stayed | stale | notFailed =>
    simpa only [Move.delivered?, Option.toList_none, List.append_nil] using hv
  | @placed k' s page hs hpage =>
    obtain ⟨hsession, hid, -⟩ := openSession?_eq_some.mp hs
    rw [hv.session, Option.some.injEq] at hsession
    subst hsession hid
    have hk : (sessionOf k chapter pages).id = k := rfl
    simp only [Move.delivered?, hk, if_true, Option.toList_some]
    exact hv.concat (hv.admits_iff.mp hpage)
  | _ => simp [Move.continues] at hcontinues

theorem deliveries_cons (v : Viewer) (k : Nat) (op : Op) (ops : List Op) :
    v.deliveries k (op :: ops) =
      (Move.delivered? k ⟨v, op, (v.step op).2⟩).toList ++ (v.step op).1.deliveries k ops := by
  rw [deliveries, moves_cons, List.filterMap_cons]
  cases Move.delivered? k ⟨v, op, (v.step op).2⟩ <;> rfl

theorem showing_run {ops : List Op} (hv : Showing v k chapter pages)
    (hcontinues : ∀ m ∈ v.moves ops, m.continues) :
    Showing (v.run ops).1 k chapter (pages ++ v.deliveries k ops) ∧
      (v.run ops).1.assets = v.assets := by
  induction ops generalizing v pages with
  | nil => simpa [deliveries] using hv
  | cons op ops ih =>
    rw [moves_cons, List.forall_mem_cons] at hcontinues
    have heffect := step_effect v op
    obtain ⟨hshowing, hassets⟩ := ih (hv.effect heffect hcontinues.1) hcontinues.2
    refine ⟨?_, hassets.trans heffect.assets_eq⟩
    rw [run_cons_fst, deliveries_cons, ← List.append_assoc]
    exact hshowing

/-! ### What comes of the events of a session -/

/-- Each of some pages is in its slot, unless another of them is there. -/
def Holds (v : Viewer) (pages : List PageDescriptor) : Prop :=
  ∀ i page, lastAt pages i = some page →
    v.surface.slots[i]? = some (some (v.assets.servedPath page.path))

theorem Showing.holds (h : Showing v k chapter pages) : v.Holds pages := by
  intro i page hlast
  obtain ⟨hmem, hindex⟩ := mem_of_lastAt hlast
  have hfits := h.fits page hmem
  have hi : i < (announced pages).getD 0 := hindex ▸ hfits.2
  rw [h.slots, getElem?_slotsOf hi, hlast, Option.map_some]

theorem Showing.apply_page (h : Showing v k chapter pages)
    (hpage : page.Fits ((announced pages).getD page.total)) :
    ∃ v', v.apply k (.page page) =
        (v', .ok (.placed page.index ((announced pages).getD page.total))) ∧
      Showing v' k chapter (pages ++ [page]) := by
  have hplace := v.place_of_admits (h.admits_iff.mpr hpage)
  refine ⟨_, ?_, h.concat hpage⟩
  simp only [apply, h.openSession?, hplace]
  rfl

/-- **A page that does not fit ends the session**, and all pages stay in their slots. -/
theorem Showing.apply_misfit (h : Showing v k chapter pages)
    (hpage : ¬ page.Fits ((announced pages).getD page.total)) :
    ∃ v' message, v.apply k (.page page) = (v', .error (.stream message)) ∧
      v'.session = none ∧ v'.Holds pages := by
  obtain ⟨why, surface, hplace, hsurface⟩ :=
    v.place_of_not_admits fun hadmits => hpage (h.admits_iff.mp hadmits)
  refine ⟨{ v with surface, session := none }, why.message, ?_, rfl, ?_⟩
  · simp only [apply, h.openSession?, hplace]
  · intro i p hlast
    rcases hsurface with hsame | ⟨hnone, -⟩
    · rw [hsame]
      exact h.holds i p hlast
    · -- slots are made by the first page only, so that none was placed before
      obtain ⟨hmem, -⟩ := mem_of_lastAt hlast
      cases hp : pages with
      | nil => simp [hp] at hmem
      | cons first rest =>
        rw [hp] at hnone
        cases hnone

theorem Showing.apply_terminal (h : Showing v k chapter pages) :
    v.apply k .terminal =
      ({ v with session := some { sessionOf k chapter pages with complete := true } },
        .ok (.complete ((announced pages).getD 0))) := by
  simp only [apply, h.openSession?]
  rfl

theorem Showing.fail_eq (h : Showing v k chapter pages) :
    v.fail k = ({ v with session := none }, true) := by
  simp only [fail, h.openSession?]

theorem Showing.stray (h : Showing v k chapter pages) {other : Nat} (hother : other ≠ k) :
    v.isOpen other = false := by
  rw [← openSession?_eq_none, Option.eq_none_iff_forall_not_mem]
  intro s hs
  obtain ⟨hsession, hid, -⟩ := openSession?_eq_some.mp hs
  rw [h.session, Option.some.injEq] at hsession
  rw [← hid, ← hsession] at hother
  exact hother rfl

/-! ### What the slots hold -/

theorem slots_run {ops : List Op} {t : Ticket} {first : PageDescriptor}
    {rest : List PageDescriptor} (hopen : (v.step op).2 = .opened t)
    (hcontinues : ∀ m ∈ (v.step op).1.moves ops, m.continues)
    (hpages : (v.step op).1.deliveries t.session ops = first :: rest) :
    ((v.step op).1.run ops).1.surface.slots = slotsOf v.assets first.total (first :: rest) ∧
      0 < first.total := by
  have heffect := step_effect v op
  obtain ⟨hshowing, hassets⟩ := showing_run (heffect.showing_of_opened hopen) hcontinues
  rw [hpages, List.nil_append] at hshowing
  have hslots := hshowing.slots
  rw [hassets, heffect.assets_eq] at hslots
  exact ⟨hslots, (hshowing.fits first List.mem_cons_self).1.1⟩

/-- **The last page for a slot counts, and the order of arrival does not.** After a session was
opened, let its pages come, with anything between them that neither opens nor ends a session. There
are as many slots as the first page says; each holds the last page that belongs there; the pages on
show are those of the slots in their order; and all slots are filled just when every one has got a
page. Every other run that places the same pages in any order leaves the same slots, if all pages
say the same number of slots and pages for one slot are alike. -/
theorem slots_of_deliveries (v : Viewer) (op : Op) (t : Ticket) (ops : List Op)
    (first : PageDescriptor) (rest : List PageDescriptor)
    (hopen : (v.step op).2 = .opened t)
    (hcontinues : ∀ m ∈ (v.step op).1.moves ops, m.continues)
    (hpages : (v.step op).1.deliveries t.session ops = first :: rest) :
    let surface := ((v.step op).1.run ops).1.surface
    let slot := fun i => (lastAt (first :: rest) i).map fun p => v.assets.servedPath p.path
    surface.slots.length = first.total ∧
      (∀ i < first.total, surface.slots[i]? = some (slot i)) ∧
      surface.rendered = (List.range first.total).filterMap slot ∧
      (surface.isFilled ↔ ∀ i < first.total, ∃ p ∈ first :: rest, p.index = i) ∧
      ∀ (v' : Viewer) (op' : Op) (t' : Ticket) (ops' : List Op),
        (v'.step op').2 = .opened t' → (∀ m ∈ (v'.step op').1.moves ops', m.continues) →
        v'.assets = v.assets →
        ((v'.step op').1.deliveries t'.session ops').Perm (first :: rest) →
        (∀ p ∈ first :: rest, p.total = first.total) →
        (∀ p ∈ first :: rest, ∀ q ∈ first :: rest, p.index = q.index → p.path = q.path) →
        ((v'.step op').1.run ops').1.surface.slots = surface.slots := by
  intro surface slot
  obtain ⟨hslots, hpos⟩ := slots_run hopen hcontinues hpages
  have hslots' : surface.slots = slotsOf v.assets first.total (first :: rest) := hslots
  refine ⟨?_, fun i hi => ?_, ?_, ?_, ?_⟩
  · rw [hslots', length_slotsOf]
  · rw [hslots', getElem?_slotsOf hi]
  · rw [Surface.rendered, hslots', filterMap_slotsOf]
  · have hne : surface.slots.isEmpty = false := by
      rw [hslots', List.isEmpty_eq_false_iff, ← List.length_pos_iff, length_slotsOf]
      exact hpos
    rw [Surface.isFilled, hne, Bool.not_false, Bool.true_and, hslots', all_isSome_slotsOf]
  · intro v' op' t' ops' hopen' hcontinues' hassets hperm htotal halike
    obtain ⟨first', rest', hpages'⟩ :
        ∃ first' rest', (v'.step op').1.deliveries t'.session ops' = first' :: rest' := by
      cases hd : (v'.step op').1.deliveries t'.session ops' with
      | nil =>
        rw [hd] at hperm
        exact absurd hperm.length_eq (by simp)
      | cons first' rest' => exact ⟨first', rest', rfl⟩
    obtain ⟨hrun, -⟩ := slots_run hopen' hcontinues' hpages'
    rw [hpages'] at hperm
    rw [hrun, hslots', hassets, htotal first' (hperm.mem_iff.mp List.mem_cons_self)]
    exact slotsOf_perm hperm halike

def ofOne : Viewer := { index := .ofGroups [(.chapter, [(7, "1")])] }

/-- A chapter of two pages whose first page comes twice, between a page of an old session and
another tab, and the same pages the other way round. -/
theorem slots_of_deliveries_resent :
    let opened : Viewer := (ofOne.step (.select ⟨.chapter, 0⟩)).1
    let one := opened.run [.event 1 (.page ⟨1, 2, "b"⟩), .setTab .volume,
      .event 1 (.page ⟨0, 2, "a"⟩), .event 0 (.page ⟨0, 9, "x"⟩), .event 1 (.page ⟨0, 2, "a"⟩)]
    let other := opened.run [.event 1 (.page ⟨0, 2, "a"⟩), .navigate .next,
      .event 1 (.page ⟨0, 2, "a"⟩), .event 1 (.page ⟨1, 2, "b"⟩)]
    one.1.surface.isFilled ∧ other.1.surface.slots = one.1.surface.slots := by
  intro opened one other
  obtain ⟨-, -, -, hfilled, hsame⟩ :=
    slots_of_deliveries ofOne (.select ⟨.chapter, 0⟩) ⟨1, ⟨7, "1", .chapter, 0⟩⟩
      [.event 1 (.page ⟨1, 2, "b"⟩), .setTab .volume, .event 1 (.page ⟨0, 2, "a"⟩),
        .event 0 (.page ⟨0, 9, "x"⟩), .event 1 (.page ⟨0, 2, "a"⟩)]
      ⟨1, 2, "b"⟩ [⟨0, 2, "a"⟩, ⟨0, 2, "a"⟩] (by decide) (by decide) (by decide)
  refine ⟨hfilled.mpr (by decide), ?_⟩
  exact hsame ofOne (.select ⟨.chapter, 0⟩) ⟨1, ⟨7, "1", .chapter, 0⟩⟩ _
    (by decide) (by decide) rfl (by decide) (by decide) (by decide)

end MangaReader.Viewer

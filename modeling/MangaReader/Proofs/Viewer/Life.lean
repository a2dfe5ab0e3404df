import MangaReader.Proofs.Viewer.Placement
import MangaReader.Proofs.Viewer.Tickets

/-!
# The life of a session

The events of a session are answered in one way only: some pages are placed, then one event may end
the session, and every other one comes too late (`Life`). While the session is open every operation
goes on with it or shuts it (`Showing.next`), and what is shut stays shut, so that a run tells one
life of every session that it opens (`Showing.life`). Before a session is opened there is none of
its number.

* `Life`, `Life.replies` : a life, and what the events of the session are answered.
* `Viewer.replies` : what the events of a session are answered in a run.
* `Viewer.life_of_every_session` : every session of every run has a life, and the sessions are
  numbered.
-/

namespace MangaReader.Viewer

open Feed

/-! ### Replies -/

def Move.reply? (session : Nat) (m : Move) : Option Answer :=
  match m.op with
  | .event k _ => if k = session then some m.answer else none
  | _ => none

def replies (v : Viewer) (session : Nat) (ops : List Op) : List Answer :=
  (v.moves ops).filterMap (·.reply? session)

/-- The answers to pages that are placed into the slots that the first of them makes. -/
def placedAnswers (pages : List PageDescriptor) : List Answer :=
  pages.map fun p => .outcome (.placed p.index ((announced pages).getD 0))

inductive Ending where
  | complete
  | refused (why : Rejection)
  deriving DecidableEq, Repr

def Ending.reply (slots : Nat) : Ending → Answer
  | .complete => .outcome (.complete slots)
  | .refused why => .refused (.stream why.message)

/-- What comes of the events of a session from its opening on: the pages that are placed, the end if
an event brings it, and the number of events that come too late. All pages go into the slots that
the first of them makes. -/
structure Life where
  pages : List PageDescriptor
  ending : Option Ending
  late : Nat
  fits : ∀ p ∈ pages, p.Fits ((announced pages).getD 0)

/-- The number of slots of a session: 0 if no page was placed. -/
def Life.slots (life : Life) : Nat := (announced life.pages).getD 0

def Life.replies (life : Life) : List Answer :=
  placedAnswers life.pages ++ (life.ending.map (Ending.reply life.slots)).toList ++
    List.replicate life.late (.outcome .stale)

variable {v v' : Viewer} {op : Op} {a : Answer} {k : Nat} {chapter : Chapter}
  {pages : List PageDescriptor} {page : PageDescriptor}

@[simp] theorem reply?_event (v : Viewer) (k session : Nat) (e : PageEvent) (a : Answer) :
    Move.reply? session ⟨v, .event k e, a⟩ = if k = session then some a else none := rfl

theorem replies_cons (v : Viewer) (k : Nat) (op : Op) (ops : List Op) :
    v.replies k (op :: ops) =
      (Move.reply? k ⟨v, op, (v.step op).2⟩).toList ++ (v.step op).1.replies k ops := by
  rw [replies, moves_cons, List.filterMap_cons]
  cases Move.reply? k ⟨v, op, (v.step op).2⟩ <;> rfl

theorem placedAnswers_concat :
    placedAnswers (pages ++ [page]) =
      placedAnswers pages ++
        [.outcome (.placed page.index ((announced pages).getD page.total))] := by
  cases pages <;> simp [placedAnswers, announced]

/-! ### Before and after -/

theorem Effect.reply_of_shut (h : Effect v op v' a) (hshut : v.isOpen k = false) :
    Move.delivered? k ⟨v, op, a⟩ = none ∧
      ∀ reply, Move.reply? k ⟨v, op, a⟩ = some reply → reply = .outcome .stale := by
  cases h with
  | stale e =>
    refine ⟨by cases e <;> rfl, fun reply hreply => ?_⟩
    rw [reply?_event] at hreply
    split at hreply
    · exact (Option.some.inj hreply).symm
    · cases hreply
  | @completed k' _ hs | @placed k' _ _ hs | @rejected k' _ _ _ _ hs =>
    have hne : k' ≠ k := by
      rintro rfl
      rw [isOpen_of_openSession? hs] at hshut
      cases hshut
    simp [Move.delivered?, hne]
  | _ => exact ⟨rfl, fun reply hreply => by cases hreply⟩

theorem replies_of_shut (ops : List Op) (h : ∀ m ∈ v.moves ops, m.before.isOpen k = false) :
    v.deliveries k ops = [] ∧ ∀ reply ∈ v.replies k ops, reply = .outcome .stale := by
  have hmove : ∀ m ∈ v.moves ops, m.delivered? k = none ∧
      ∀ reply, m.reply? k = some reply → reply = .outcome .stale := by
    intro m hm
    have heffect := step_effect m.before m.op
    rw [← answer_eq_of_mem_moves hm] at heffect
    exact heffect.reply_of_shut (h m hm)
  refine ⟨List.filterMap_eq_nil_iff.mpr fun m hm => (hmove m hm).1, fun reply hreply => ?_⟩
  obtain ⟨m, hm, hreply⟩ := List.mem_filterMap.mp hreply
  exact (hmove m hm).2 reply hreply

theorem isOpen_of_mem_moves (hk : k ≤ v.generation) (hshut : v.isOpen k = false) {ops : List Op}
    {m : Move} (hm : m ∈ v.moves ops) : m.before.isOpen k = false := by
  obtain ⟨before, after, -, hbefore⟩ := exists_run_of_mem_moves hm
  rw [hbefore]
  exact isOpen_run hk hshut before

theorem isOpen_of_generation_lt (hv : v.session = none) {ops : List Op}
    (hk : (v.run ops).1.generation < k) {m : Move} (hm : m ∈ v.moves ops) :
    m.before.isOpen k = false := by
  obtain ⟨before, after, rfl, hbefore⟩ := exists_run_of_mem_moves hm
  rw [run_append] at hk
  have hlt : m.before.generation < k :=
    Nat.lt_of_le_of_lt (hbefore ▸ generation_run _ (m.op :: after)) hk
  rw [Bool.eq_false_iff]
  intro hopen
  obtain ⟨s, hs, hid, -⟩ := isOpen_iff.mp hopen
  rw [hbefore] at hs hlt
  have hle := session_le_run hv before hs
  omega

/-! ### While a session is open -/

/-- **Every operation goes on with the open session or shuts it.** It goes on with at most one page
more, and it shuts it with at most one answer. -/
theorem Showing.next (hv : Showing v k chapter pages) (h : Effect v op v' a)
    (hk : k ≤ v.generation) :
    (Showing v' k chapter (pages ++ (Move.delivered? k ⟨v, op, a⟩).toList) ∧
      (Move.reply? k ⟨v, op, a⟩) = (Move.delivered? k ⟨v, op, a⟩).map fun page =>
        .outcome (.placed page.index ((announced pages).getD page.total))) ∨
    (v'.isOpen k = false ∧ Move.delivered? k ⟨v, op, a⟩ = none ∧
      ∃ ending : Option Ending, Move.reply? k ⟨v, op, a⟩ =
        ending.map (Ending.reply ((announced pages).getD 0))) := by
  have hself : ∀ {k' s}, v.openSession? k' = some s → k' = k ∧ s = sessionOf k chapter pages := by
    intro k' s hs
    obtain ⟨hsession, hid, -⟩ := openSession?_eq_some.mp hs
    rw [hv.session, Option.some.injEq] at hsession
    rw [← hid, ← hsession]
    exact ⟨rfl, rfl⟩
  have hgoes := hv.effect h
  cases h with
  | indexReplaced | tabSet | notSelected | stayed | notFailed => exact .inl ⟨hgoes rfl, rfl⟩
  | @stale k' e hstale =>
    have hne : k' ≠ k := by
      rintro rfl
      rw [isOpen_of_openSession? hv.openSession?] at hstale
      cases hstale
    refine .inl ⟨hgoes (by cases e <;> rfl), ?_⟩
    rw [reply?_event, if_neg hne]
    cases e <;> rfl
  | placed hs =>
    obtain ⟨rfl, rfl⟩ := hself hs
    refine .inl ⟨hgoes rfl, ?_⟩
    simp [Move.delivered?, sessionOf]
  | selected | navigated => exact .inr ⟨isOpen_start v _ hk, rfl, none, rfl⟩
  | completed hs =>
    obtain ⟨rfl, rfl⟩ := hself hs
    refine .inr ⟨by simp [isOpen], rfl, some .complete, ?_⟩
    simp [Ending.reply, sessionOf]
  | rejected why hs =>
    obtain ⟨rfl, rfl⟩ := hself hs
    refine .inr ⟨rfl, rfl, some (.refused why), ?_⟩
    simp [Ending.reply]
  | failed | closed => exact .inr ⟨rfl, rfl, none, rfl⟩

/-- **A session lives one life**, of which the pages placed so far are the beginning. -/
theorem Showing.life (hv : Showing v k chapter pages) (hk : k ≤ v.generation) (ops : List Op) :
    ∃ life : Life, life.pages = pages ++ v.deliveries k ops ∧
      placedAnswers pages ++ v.replies k ops = life.replies := by
  induction ops generalizing v pages with
  | nil =>
    refine ⟨⟨pages, none, 0, hv.fits⟩, (List.append_nil _).symm, ?_⟩
    simp [replies, Life.replies]
  | cons op ops ih =>
    have heffect := step_effect v op
    have hk' : k ≤ (v.step op).1.generation := Nat.le_trans hk heffect.generation_le
    rw [replies_cons, deliveries_cons]
    rcases hv.next heffect hk with ⟨hgoes, hreply⟩ | ⟨hshut, hpage, ending, hreply⟩
    · obtain ⟨life, hpages, hreplies⟩ := ih hgoes hk'
      refine ⟨life, by rw [hpages, List.append_assoc], ?_⟩
      rw [hreply, ← hreplies, ← List.append_assoc]
      congr 1
      cases Move.delivered? k ⟨v, op, (v.step op).2⟩ with
      | none => simp
      | some page =>
        rw [Option.map_some, Option.toList_some, Option.toList_some, placedAnswers_concat]
    · obtain ⟨hnone, hlate⟩ :=
        replies_of_shut ops fun m hm => isOpen_of_mem_moves hk' hshut hm
      refine ⟨⟨pages, ending, ((v.step op).1.replies k ops).length, hv.fits⟩, ?_, ?_⟩
      · rw [hpage, hnone]
        exact (List.append_nil _).symm
      · rw [hreply, Life.replies, ← List.eq_replicate_of_mem hlate, List.append_assoc]
        rfl

/-! ### Whole runs -/

/-- **The life of a session.** In every run of a new viewer the sessions are numbered 1, 2, 3, … in
the order of their opening, and the events of each are answered as one life: the pages that the run
places for the session, all of them into the slots that the first of them makes, then at most one
event that completes the session, with the number of its slots, or is refused, and then nothing but
stale events. Events of its number that come before the opening are stale. -/
theorem life_of_every_session (assets : AssetPaths) (ops : List Op) :
    let new : Viewer := { assets }
    (tickets (new.run ops).2).map Ticket.session =
        List.range' 1 (tickets (new.run ops).2).length ∧
      ∀ before op after t, ops = before ++ op :: after →
        ((new.run before).1.step op).2 = .opened t →
          (∀ reply ∈ new.replies t.session before, reply = .outcome .stale) ∧
          ∃ life : Life,
            life.pages = ((new.run before).1.step op).1.deliveries t.session after ∧
            ((new.run before).1.step op).1.replies t.session after = life.replies := by
  intro new
  refine ⟨(sessions_tickets_run new ops).1, fun before op after t _ ht => ?_⟩
  have heffect := step_effect (new.run before).1 op
  have hnumber : (new.run before).1.generation < t.session := heffect.lt_ticket ht
  refine ⟨(replies_of_shut before fun m hm => isOpen_of_generation_lt rfl hnumber hm).2, ?_⟩
  obtain ⟨life, hpages, hreplies⟩ :=
    (heffect.showing_of_opened ht).life (heffect.ticket_le ht) after
  exact ⟨life, hpages, hreplies⟩

/-- A chapter of two pages, the second of which says that there are nine: it ends once, and what
comes before and after it is stale. -/
theorem life_of_every_session_two_pages :
    let early : List Op :=
      [.replaceIndex (.ofGroups [(.chapter, [(7, "1")])]), .event 1 (.page ⟨0, 2, "a"⟩)]
    let late : List Op :=
      [.event 1 (.page ⟨1, 2, "b"⟩), .event 1 (.page ⟨0, 9, "a"⟩), .event 1 .terminal,
        .event 1 .terminal]
    let opened := ((({} : Viewer).run early).1.step (.select ⟨.chapter, 0⟩)).1
    (∀ reply ∈ ({} : Viewer).replies 1 early, reply = .outcome .stale) ∧
      ∃ life : Life, life.pages = [⟨1, 2, "b"⟩, ⟨0, 9, "a"⟩] ∧
        opened.replies 1 late = life.replies ∧
        life.replies =
          [.outcome (.placed 1 2), .outcome (.placed 0 2), .outcome (.complete 2),
            .outcome .stale] := by
  intro early late opened
  obtain ⟨hstale, life, hpages, hreplies⟩ :=
    (life_of_every_session {} (early ++ .select ⟨.chapter, 0⟩ :: late)).2 early
      (.select ⟨.chapter, 0⟩) late ⟨1, ⟨7, "1", .chapter, 0⟩⟩ rfl (by decide)
  refine ⟨hstale, life, hpages.trans ?_, hreplies, hreplies.symm.trans ?_⟩
  · decide
  · decide

end MangaReader.Viewer

import MangaReader.Proofs.Viewer.Effect
import MangaReader.Proofs.Viewer.Moves
import Mathlib.Tactic.SplitIfs

/-!
# Sessions do not disturb each other

Sessions are numbered upwards, so that the number of a ticket is never given out again: a session
that is not open any more stays shut (`Effect.isOpen_eq_false`), for the only way to open one is to
take the next number. An event or a failure of a session that is not open is answered as such and
changes nothing (`Effect.eq_of_isStray`), so that a run without these moves is the same run
(`run_heeded`).

* `Move.isStray` : whether a move is an event or a failure of a session that is not open.
* `Move.ends` : whether a move ends a session that was opened before it.
* `Viewer.heeded` : the moves of a run that are no strays.
* `sessions_isolated` : both facts about a whole run.
-/

namespace MangaReader.Viewer

namespace Move

/-- Whether a move is a page event or a failure of a session that is not open when it comes. -/
def isStray (m : Move) : Bool :=
  match m.op with
  | .event session _ | .fail session => !m.before.isOpen session
  | _ => false

/-- Whether a move ends a session that was opened before it: it refuses a page of the session,
completes it, lets it fail, closes it, or supersedes it. -/
def ends (m : Move) (session : Nat) : Bool :=
  match m.op, m.answer with
  | .event k _, .refused _ | .event k _, .outcome (.complete _) | .fail k, .failed true =>
    k == session
  | .close, _ | _, .opened _ => true
  | _, _ => false

end Move

def heeded (v : Viewer) (ops : List Op) : List Move := (v.moves ops).filter fun m => !m.isStray

variable {v v' : Viewer} {op : Op} {a : Answer} {k : Nat}

/-! ### Numbers are given out once -/

theorem Effect.generation_le (h : Effect v op v' a) : v.generation ≤ v'.generation := by
  cases h with
  | selected | navigated => exact Nat.le_succ _
  | _ => exact Nat.le_refl _

theorem Effect.ticket_le (h : Effect v op v' a) {t : Ticket} (ha : a = .opened t) :
    t.session ≤ v'.generation := by
  cases h with
  | selected | navigated =>
    cases ha
    exact Nat.le_refl _
  | _ => cases ha

theorem Effect.lt_ticket (h : Effect v op v' a) {t : Ticket} (ha : a = .opened t) :
    v.generation < t.session := by
  cases h with
  | selected | navigated =>
    cases ha
    exact Nat.lt_succ_self _
  | _ => cases ha

theorem generation_run (v : Viewer) (ops : List Op) : v.generation ≤ (v.run ops).1.generation :=
  run_keeps (I := fun w => v.generation ≤ w.generation)
    (fun w op h => Nat.le_trans h (step_effect w op).generation_le) (Nat.le_refl _) ops

theorem ticket_le_run {ops : List Op} {t : Ticket} (ht : Answer.opened t ∈ (v.run ops).2) :
    t.session ≤ (v.run ops).1.generation := by
  induction ops generalizing v with
  | nil => simp at ht
  | cons op ops ih =>
    rw [run_cons, List.mem_cons] at ht
    rcases ht with ht | ht
    · exact Nat.le_trans ((step_effect v op).ticket_le ht.symm) (generation_run _ ops)
    · exact ih ht

/-! ### What is shut stays shut -/

theorem isOpen_of_session {s : Session} (h : v.session = some s) :
    v.isOpen k = (s.id == k && !s.complete) := by
  simp [isOpen, h]

theorem isOpen_start (v : Viewer) (c : Chapter) (hk : k ≤ v.generation) :
    (v.start c).1.isOpen k = false := by
  have hne : v.generation + 1 ≠ k := by omega
  simp [isOpen, start, hne]

/-- **A session that is not open is not opened again**: a new one gets a greater number. -/
theorem Effect.isOpen_eq_false (h : Effect v op v' a) (hk : k ≤ v.generation)
    (hshut : v.isOpen k = false) : v'.isOpen k = false := by
  cases h with
  | selected | navigated => exact isOpen_start v _ hk
  | completed => simp [isOpen]
  | placed hs =>
    obtain ⟨hsession, -, -⟩ := openSession?_eq_some.mp hs
    rw [isOpen_of_session hsession] at hshut
    rw [isOpen_of_session rfl]
    exact hshut
  | rejected | failed | closed => rfl
  | indexReplaced | tabSet | notSelected | stayed | stale | notFailed => exact hshut

theorem isOpen_run (hk : k ≤ v.generation) (hshut : v.isOpen k = false) (ops : List Op) :
    (v.run ops).1.isOpen k = false :=
  (run_keeps (I := fun w => k ≤ w.generation ∧ w.isOpen k = false)
    (fun w op h => ⟨Nat.le_trans h.1 (step_effect w op).generation_le,
      (step_effect w op).isOpen_eq_false h.1 h.2⟩)
    ⟨hk, hshut⟩ ops).2

theorem Effect.isOpen_of_ends (h : Effect v op v' a) (hk : k ≤ v.generation)
    (hends : Move.ends ⟨v, op, a⟩ k) : v'.isOpen k = false := by
  cases h with
  | selected | navigated => exact isOpen_start v _ hk
  | completed => simp [isOpen]
  | rejected | failed | closed => rfl
  | _ => simp [Move.ends] at hends

/-! ### Strays change nothing -/

theorem Effect.eq_of_isStray (h : Effect v op v' a) (hstray : Move.isStray ⟨v, op, a⟩) :
    v' = v := by
  cases h with
  | stale | notFailed => rfl
  | completed hs | placed hs | rejected _ hs | failed hs =>
    simp [Move.isStray, isOpen_of_openSession? hs] at hstray
  | _ => simp [Move.isStray] at hstray

theorem Effect.answer_of_isStray (h : Effect v op v' a) (hstray : Move.isStray ⟨v, op, a⟩) :
    (∃ session e, op = .event session e ∧ a = .outcome .stale) ∨
      ∃ session, op = .fail session ∧ a = .failed false := by
  cases h with
  | stale e => exact .inl ⟨_, e, rfl, rfl⟩
  | notFailed => exact .inr ⟨_, rfl, rfl⟩
  | completed hs | placed hs | rejected _ hs | failed hs =>
    simp [Move.isStray, isOpen_of_openSession? hs] at hstray
  | _ => simp [Move.isStray] at hstray

theorem heeded_cons (v : Viewer) (op : Op) (ops : List Op) :
    v.heeded (op :: ops) =
      if Move.isStray ⟨v, op, (v.step op).2⟩ then (v.step op).1.heeded ops
      else ⟨v, op, (v.step op).2⟩ :: (v.step op).1.heeded ops := by
  by_cases hstray : Move.isStray ⟨v, op, (v.step op).2⟩ <;> simp [heeded, hstray]

/-- **A run without its strays is the same run**: the operations that are left get the same answers
and lead to the same viewer. -/
theorem run_heeded (v : Viewer) (ops : List Op) :
    v.run ((v.heeded ops).map Move.op) = ((v.run ops).1, (v.heeded ops).map Move.answer) := by
  induction ops generalizing v with
  | nil => rfl
  | cons op ops ih =>
    have hrest := ih (v.step op).1
    rw [heeded_cons, run_cons_fst]
    split_ifs with hstray
    · have hsame : (v.step op).1 = v := (step_effect v op).eq_of_isStray hstray
      rw [hsame] at hrest ⊢
      exact hrest
    · rw [List.map_cons, run_cons, hrest, List.map_cons]

/-! ### Whole runs -/

/-- **Sessions do not disturb each other.** In every run, with operations of any kind in any order:
a session that was opened and then ended, or is not open for whatever reason, is never open again;
and the page events and failures of sessions that are not open when they come can be left out. They
are answered as stale and as no failure, and without them the other operations get the same answers
and lead to the same viewer, with the same surface. -/
theorem sessions_isolated (v : Viewer) (ops : List Op) :
    (∀ before op after t, ops = before ++ op :: after →
      Answer.opened t ∈ (v.run before).2 →
      ((v.run before).1.isOpen t.session = false ∨
        Move.ends ⟨(v.run before).1, op, ((v.run before).1.step op).2⟩ t.session) →
      (v.run ops).1.isOpen t.session = false) ∧
    v.run ((v.heeded ops).map Move.op) = ((v.run ops).1, (v.heeded ops).map Move.answer) ∧
    ∀ m ∈ v.moves ops, m.isStray →
      (∃ session e, m.op = .event session e ∧ m.answer = .outcome .stale) ∨
        ∃ session, m.op = .fail session ∧ m.answer = .failed false := by
  refine ⟨fun before op after t hops ht hshut => ?_, run_heeded v ops, fun m hm hstray => ?_⟩
  · subst hops
    have heffect := step_effect (v.run before).1 op
    have hk : t.session ≤ (v.run before).1.generation := ticket_le_run ht
    rw [run_append, run_cons_fst]
    refine isOpen_run (Nat.le_trans hk heffect.generation_le) ?_ after
    rcases hshut with hshut | hends
    · exact heffect.isOpen_eq_false hk hshut
    · exact heffect.isOpen_of_ends hk hends
  · have heffect := step_effect m.before m.op
    rw [← answer_eq_of_mem_moves hm] at heffect
    exact heffect.answer_of_isStray hstray

end MangaReader.Viewer

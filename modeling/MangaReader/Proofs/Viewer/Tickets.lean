import MangaReader.Proofs.Viewer.Isolation
import Mathlib.Data.List.Induction

/-!
# Tickets

The tickets of a run are numbered in the order in which they are given out, and the session of a
viewer is the one of the last ticket.

* `Session.ticket`, `Viewer.tickets` : the ticket of a session, and those among some answers.
* `Viewer.sessions_tickets_run` : the numbers of the tickets of a run.
* `Viewer.getLast?_tickets_run` : the session of a viewer has the last ticket.
-/

namespace MangaReader

/-- The ticket that was given out for a session. -/
def Session.ticket (s : Session) : Ticket := ⟨s.id, s.chapter⟩

namespace Viewer

def Answer.ticket? : Answer → Option Ticket
  | .opened t => some t
  | _ => none

def tickets (answers : List Answer) : List Ticket := answers.filterMap Answer.ticket?

variable {v v' : Viewer} {op : Op} {a : Answer}

/-! ### One operation -/

theorem Answer.ticket?_eq_some {t : Ticket} : a.ticket? = some t ↔ a = .opened t := by
  cases a <;> simp [Answer.ticket?]

theorem tickets_cons (a : Answer) (answers : List Answer) :
    tickets (a :: answers) = a.ticket?.toList ++ tickets answers := by
  rw [tickets, List.filterMap_cons]
  cases a.ticket? <;> rfl

theorem tickets_concat (answers : List Answer) (a : Answer) :
    tickets (answers ++ [a]) = tickets answers ++ a.ticket?.toList := by
  rw [tickets, List.filterMap_append]
  cases h : a.ticket? <;> simp [h, tickets]

theorem Effect.sessions_ticket (h : Effect v op v' a) :
    a.ticket?.toList.map Ticket.session = List.range' (v.generation + 1) a.ticket?.toList.length ∧
      v'.generation = v.generation + a.ticket?.toList.length := by
  cases h <;> exact ⟨rfl, rfl⟩

theorem Effect.ticket_of_session (h : Effect v op v' a) {s : Session} (hs : v'.session = some s) :
    a.ticket? = some s.ticket ∨
      a.ticket? = none ∧ ∃ before, v.session = some before ∧ before.ticket = s.ticket := by
  cases h with
  | selected | navigated =>
    cases hs
    exact .inl rfl
  | completed hopen | placed hopen =>
    cases hs
    exact .inr ⟨rfl, _, (openSession?_eq_some.mp hopen).1, rfl⟩
  | rejected | failed | closed => cases hs
  | indexReplaced | tabSet | notSelected | stayed | stale | notFailed =>
    exact .inr ⟨rfl, s, hs, rfl⟩

/-! ### Whole runs -/

/-- **Tickets are numbered in their order**, and the number of tickets is counted. -/
theorem sessions_tickets_run (v : Viewer) (ops : List Op) :
    (tickets (v.run ops).2).map Ticket.session =
        List.range' (v.generation + 1) (tickets (v.run ops).2).length ∧
      (v.run ops).1.generation = v.generation + (tickets (v.run ops).2).length := by
  induction ops generalizing v with
  | nil => exact ⟨rfl, rfl⟩
  | cons op ops ih =>
    obtain ⟨hnumber, hcount⟩ := (step_effect v op).sessions_ticket
    obtain ⟨hnumbers, hcounts⟩ := ih (v.step op).1
    rw [run_cons, tickets_cons, List.map_append, List.length_append, hnumber, hnumbers, hcounts,
      hcount]
    refine ⟨?_, Nat.add_assoc _ _ _⟩
    rw [Nat.add_right_comm, ← List.range'_append_1]

theorem getLast?_tickets_run (hv : v.session = none) (ops : List Op) {s : Session}
    (hs : (v.run ops).1.session = some s) :
    (tickets (v.run ops).2).getLast? = some s.ticket := by
  induction ops using List.reverseRecOn generalizing s with
  | nil =>
    rw [run_nil, hv] at hs
    cases hs
  | append_singleton ops op ih =>
    rw [run_append, run_cons_fst, run_nil] at hs
    have hanswers : (v.run (ops ++ [op])).2 = (v.run ops).2 ++ [((v.run ops).1.step op).2] := by
      rw [run_append, run_cons, run_nil]
    rw [hanswers, tickets_concat]
    have heffect := step_effect (v.run ops).1 op
    rcases heffect.ticket_of_session hs with hnew | ⟨hold, before, hbefore, hsame⟩
    · rw [hnew, Option.toList_some, List.getLast?_concat]
    · rw [hold, Option.toList_none, List.append_nil, ih hbefore, hsame]

theorem session_le_run (hv : v.session = none) (ops : List Op) {s : Session}
    (hs : (v.run ops).1.session = some s) : s.id ≤ (v.run ops).1.generation := by
  have hmem := List.mem_of_getLast? (getLast?_tickets_run hv ops hs)
  obtain ⟨answer, hanswer, hticket⟩ := List.mem_filterMap.mp hmem
  rw [Answer.ticket?_eq_some.mp hticket] at hanswer
  exact ticket_le_run hanswer

end Viewer

end MangaReader

import MangaReader.Viewer.Run

/-!
# The moves of a run

A run of a viewer as the list of its moves: every operation with the viewer that it is applied to
and the answer that it gets. What is said of a whole run is said of its moves.

* `Viewer.Move`, `Viewer.moves` : the moves of a run.
* `Viewer.run_append` : a run in two parts.
* `Viewer.run_keeps_of`, `Viewer.run_keeps` : what every operation keeps, a whole run keeps.
-/

namespace MangaReader.Viewer

structure Move where
  before : Viewer
  op : Op
  answer : Answer
  deriving DecidableEq, Repr

def moves (v : Viewer) : List Op → List Move
  | [] => []
  | op :: ops => ⟨v, op, (v.step op).2⟩ :: (v.step op).1.moves ops

variable (v : Viewer)

/-! ### A run in two parts -/

@[simp] theorem run_nil : v.run [] = (v, []) := rfl

theorem run_cons (op : Op) (ops : List Op) :
    v.run (op :: ops) =
      (((v.step op).1.run ops).1, (v.step op).2 :: ((v.step op).1.run ops).2) := rfl

@[simp] theorem run_cons_fst (op : Op) (ops : List Op) :
    (v.run (op :: ops)).1 = ((v.step op).1.run ops).1 := rfl

@[simp] theorem moves_nil : v.moves [] = [] := rfl

@[simp] theorem moves_cons (op : Op) (ops : List Op) :
    v.moves (op :: ops) = ⟨v, op, (v.step op).2⟩ :: (v.step op).1.moves ops := rfl

theorem run_append (before after : List Op) :
    v.run (before ++ after) =
      (((v.run before).1.run after).1, (v.run before).2 ++ ((v.run before).1.run after).2) := by
  induction before generalizing v with
  | nil => simp
  | cons op ops ih => simp [run_cons, ih]

/-! ### What the moves say -/

variable {v}

theorem answer_eq_of_mem_moves {ops : List Op} {m : Move} (h : m ∈ v.moves ops) :
    m.answer = (m.before.step m.op).2 := by
  induction ops generalizing v with
  | nil => simp at h
  | cons op ops ih =>
    rcases List.mem_cons.mp h with rfl | h
    · rfl
    · exact ih h

theorem exists_run_of_mem_moves {ops : List Op} {m : Move} (h : m ∈ v.moves ops) :
    ∃ before after, ops = before ++ m.op :: after ∧ m.before = (v.run before).1 := by
  induction ops generalizing v with
  | nil => simp at h
  | cons op ops ih =>
    rcases List.mem_cons.mp h with rfl | h
    · exact ⟨[], ops, rfl, rfl⟩
    · obtain ⟨before, after, rfl, hbefore⟩ := ih h
      exact ⟨op :: before, after, rfl, hbefore⟩

/-! ### Invariants -/

theorem run_keeps_of {I : Viewer → Prop} {P : Op → Prop}
    (hstep : ∀ v op, P op → I v → I (v.step op).1) (hv : I v) (ops : List Op)
    (hops : ∀ op ∈ ops, P op) : I (v.run ops).1 := by
  induction ops generalizing v with
  | nil => exact hv
  | cons op ops ih =>
    obtain ⟨hop, hops⟩ := List.forall_mem_cons.mp hops
    exact ih (hstep v op hop hv) hops

theorem run_keeps {I : Viewer → Prop} (hstep : ∀ v op, I v → I (v.step op).1) (hv : I v)
    (ops : List Op) : I (v.run ops).1 :=
  run_keeps_of (P := fun _ => True) (fun v op _ => hstep v op) hv ops fun _ _ => trivial

end MangaReader.Viewer

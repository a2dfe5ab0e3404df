import MangaReader.Reading.Reader

/-!
# The moves of a reader

A run of a reader as the list of its moves: every step with the reader that takes it and the answer
of the call, if it is one.

* `Reader.Move`, `Reader.moves` : the moves of a run.
* `Reader.run_keeps` : what every step keeps, a whole run keeps.
-/

namespace MangaReader.Reader

structure Move where
  before : Reader
  step : Step
  answer : Option Answer
  deriving DecidableEq, Repr

def Move.after (m : Move) : Reader := (m.before.step m.step).1

def moves (r : Reader) : List Step → List Move
  | [] => []
  | s :: rest => ⟨r, s, (r.step s).2⟩ :: (r.step s).1.moves rest

variable (r : Reader)

/-! ### The first step of a run -/

@[simp] theorem run_cons_fst (s : Step) (rest : List Step) :
    (r.run (s :: rest)).1 = ((r.step s).1.run rest).1 := rfl

theorem run_append_fst (before after : List Step) :
    (r.run (before ++ after)).1 = ((r.run before).1.run after).1 := by
  induction before generalizing r with
  | nil => rfl
  | cons s before ih => exact ih (r.step s).1

@[simp] theorem moves_cons (s : Step) (rest : List Step) :
    r.moves (s :: rest) = ⟨r, s, (r.step s).2⟩ :: (r.step s).1.moves rest := rfl

theorem moves_append (before after : List Step) :
    r.moves (before ++ after) = r.moves before ++ (r.run before).1.moves after := by
  induction before generalizing r with
  | nil => rfl
  | cons s before ih =>
    rw [List.cons_append, moves_cons, moves_cons, ih, List.cons_append]
    rfl

/-! ### Invariants -/

variable {r}

theorem run_keeps {I : Reader → Prop} (hstep : ∀ r s, I r → I (r.step s).1) (hr : I r)
    (steps : List Step) : I (r.run steps).1 := by
  induction steps generalizing r with
  | nil => exact hr
  | cons s steps ih => exact ih (hstep r s hr)

end MangaReader.Reader

import MangaReader.Proofs.Reading.Effect
import MangaReader.Proofs.Reading.Moves
import MangaReader.Proofs.Viewer.Isolation

/-!
# What every reader keeps

What the listeners see is the state of the viewer, and neither the feed task nor the call that is
not done knows a session that the viewer has not opened. So a chapter that is opened has a session
that no running task knows.

* `Reader.Reachable` : the readers that some run leads to.
* `Reader.Coherent` : the invariant.
* `Reader.Effect.coherent`, `Reader.Reachable.coherent` : every step keeps it, so that every reader
  has it.
-/

namespace MangaReader.Reader

open Backend Feed

/-- A reader to which some steps lead from the start. -/
inductive Reachable : Reader → Prop
  | run (settings : ReaderSettings) (library : Library) (backend : Backend) (steps : List Step) :
    Reachable ((ofLibrary settings library backend).run steps).1

/-- What the listeners see is the state of the viewer, and all sessions are the viewer's. -/
structure Coherent (r : Reader) : Prop where
  published : r.published = r.viewer.state
  feed : ∀ task, r.feed = some task → task.session ≤ r.viewer.generation
  opening : ∀ ticket, r.pending = some (.opening ticket) → ticket.session ≤ r.viewer.generation

variable {r r' : Reader} {s : Step} {a : Option Answer} {task : FeedTask} {v : Viewer}

theorem coherent_ofLibrary (settings : ReaderSettings) (library : Library) (backend : Backend) :
    Coherent (ofLibrary settings library backend) where
  published := rfl
  feed := by
    intro task htask
    cases htask
  opening := by
    intro ticket hticket
    cases hticket

/-! ### The steps of the feed task -/

theorem Coherent.setStage (hr : Coherent r) (hfeed : r.feed = some task) (stage : FeedStage) :
    Coherent (r.setStage task stage) where
  published := hr.published
  feed := by
    intro other hother
    rw [← Option.some.inj hother]
    exact hr.feed task hfeed
  opening := hr.opening

theorem Coherent.publish_setStage (hr : Coherent r) (hfeed : r.feed = some task)
    (hv : r.viewer.generation ≤ v.generation) (stage : FeedStage) :
    Coherent ((r.publish v).setStage task stage) where
  published := rfl
  feed := by
    intro other hother
    rw [← Option.some.inj hother]
    exact Nat.le_trans (hr.feed task hfeed) hv
  opening := fun ticket hticket => Nat.le_trans (hr.opening ticket hticket) hv

theorem Coherent.tell_setStage (hr : Coherent r) (hfeed : r.feed = some task) (e : ReaderEvent)
    (stage : FeedStage) : Coherent ((r.tell e).setStage task stage) := by
  have htold : Coherent (r.tell e) := ⟨hr.published, hr.feed, hr.opening⟩
  exact htold.setStage hfeed stage

/-! ### All steps -/

theorem Effect.coherent (h : Effect r s r' a) (hr : Coherent r) : Coherent r' := by
  obtain ⟨hpublished, hfeed, hopening⟩ := hr
  cases h with
  | waits | refused | stayed | idle | rests | unanswered | notExpired | indexNotFetched | tabSet
  | recorded => exact ⟨hpublished, hfeed, hopening⟩
  | indexFetched | indexTaken | indexTold =>
    refine ⟨hpublished, hfeed, ?_⟩
    intro ticket hticket
    cases hticket
  | closed =>
    refine ⟨hpublished, ?_, ?_⟩
    · intro task htask
      cases htask
    · intro ticket hticket
      cases hticket
  | opened hpending hop hv =>
    refine ⟨rfl, fun task htask => Nat.le_trans (hfeed task htask) hv.generation_le, ?_⟩
    intro ticket hticket
    cases hticket
    exact hv.ticket_le rfl
  | closing =>
    refine ⟨rfl, hfeed, ?_⟩
    intro ticket hticket
    cases hticket
  | @started ticket hpending =>
    refine ⟨hpublished, ?_, ?_⟩
    · intro task htask
      cases htask
      exact hopening ticket hpending
    · intro other hother
      cases hother
  | @cancelled task hpending htask =>
    refine ⟨hpublished, ?_, hopening⟩
    intro other hother
    rw [← Option.some.inj hother]
    exact hfeed task htask
  | stops htask => exact Coherent.setStage ⟨hpublished, hfeed, hopening⟩ htask _
  | asks h =>
    obtain ⟨backend, stage, -, heq⟩ := r.openFeed_eq _
    rw [heq]
    have hasked : Coherent { r with backend } := ⟨hpublished, hfeed, hopening⟩
    exact hasked.setStage h.feed stage
  | pulls h =>
    obtain ⟨stage, -, heq⟩ := r.pull_eq _ _
    rw [heq]
    exact Coherent.setStage ⟨hpublished, hfeed, hopening⟩ h.feed stage
  | places h hv | completes h hv | stale h hv | rejects h hv | fails h hv =>
    exact Coherent.publish_setStage ⟨hpublished, hfeed, hopening⟩ h.feed hv.generation_le _
  | failsLate h | expires h =>
    exact Coherent.setStage ⟨hpublished, hfeed, hopening⟩ h.feed _
  | tellsPage h | tellsComplete h | tellsFailure h =>
    exact Coherent.tell_setStage ⟨hpublished, hfeed, hopening⟩ h.feed _ _

theorem Coherent.run (hr : Coherent r) (steps : List Step) : Coherent (r.run steps).1 :=
  run_keeps (fun r s hr => (step_effect r s).coherent hr) hr steps

theorem Reachable.run_steps (h : Reachable r) (steps : List Step) :
    Reachable (r.run steps).1 := by
  cases h with
  | run settings library backend before =>
    rw [← run_append_fst]
    exact .run settings library backend (before ++ steps)

theorem Reachable.coherent (h : Reachable r) : Coherent r := by
  cases h with
  | run settings library backend steps => exact (coherent_ofLibrary _ _ _).run steps

end MangaReader.Reader

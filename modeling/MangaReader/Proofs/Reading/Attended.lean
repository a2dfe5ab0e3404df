import MangaReader.Proofs.Reading.Coherent
import MangaReader.Proofs.Viewer.Placement

/-!
# Who brings the pages of a session

A session that is being loaded has a feed task of its own, which nothing has cancelled, unless the
call that has opened it has still to start the task or the reader is shut down.

* `FeedTask.Attends` : a task that works for a session.
* `Reader.Attended` : the invariant.
* `Reader.Effect.attended`, `Reader.Reachable.attended` : every step keeps it, so that every reader
  has it.
-/

namespace MangaReader

open Feed

/-- A task that works for a session, and that is not cancelled. -/
structure FeedTask.Attends (task : FeedTask) (s : Session) : Prop where
  session : task.session = s.id
  chapter : task.chapter = s.chapter
  cancelled : task.cancelled = false
  stage : task.stage.loads

theorem Viewer.Effect.session_of_feed {v v' : Viewer} {op : Viewer.Op} {a : Viewer.Answer} {k : Nat}
    (h : Viewer.Effect v op v' a) (hop : op = .fail k ∨ ∃ e, op = .event k e) {s' : Session}
    (hs' : v'.session = some s') :
    ∃ s, v.session = some s ∧ s.id = s'.id ∧ s.chapter = s'.chapter ∧
      (s'.complete = false → s.complete = false) := by
  cases h with
  | stale | notFailed => exact ⟨s', hs', rfl, rfl, id⟩
  | completed hs | placed hs =>
    obtain ⟨hsession, -, hincomplete⟩ := openSession?_eq_some.mp hs
    cases hs'
    exact ⟨_, hsession, rfl, rfl, fun _ => hincomplete⟩
  | rejected | failed => cases hs'
  | indexReplaced | tabSet | selected | notSelected | navigated | stayed | closed => simp at hop

theorem FeedTask.Attends.absurd_shut {task : FeedTask} {v : Viewer} {s : Session}
    (h : task.Attends s) (hs : v.session = some s)
    (hincomplete : s.complete = false) (hshut : v.isOpen task.session = false) : False := by
  have hopen : v.isOpen task.session := Viewer.isOpen_iff.mpr ⟨s, hs, h.session.symm, hincomplete⟩
  rw [hshut] at hopen
  cases hopen

theorem Viewer.Effect.shut_of_not_failed {v v' : Viewer} {k : Nat}
    (h : Viewer.Effect v (.fail k) v' (.failed false)) : v.isOpen k = false := by
  cases h with
  | notFailed hshut => exact hshut

namespace Reader

/-- Who attends to the session: a task does, unless a call has still to start it. -/
structure Attended (r : Reader) : Prop where
  loading : ¬ r.Stopping → r.down = false → ∀ s, r.viewer.session = some s → s.complete = false →
    ∃ task, r.feed = some task ∧ task.Attends s
  opening : ∀ ticket, r.pending = some (.opening ticket) → ∀ s, r.viewer.session = some s →
    s.id = ticket.session ∧ s.chapter = ticket.chapter
  closing : ∀ shutdown, r.pending = some (.closing shutdown) → r.viewer.session = none
  down : r.down = true → ∀ task, r.feed = some task →
    task.stage = .waiting ∨ task.stage = .ended

variable {r r' : Reader} {s : Step} {a : Option Answer} {task : FeedTask} {stage : FeedStage}
  {v : Viewer}

theorem Stopping.of_pending (hstopping : r.Stopping) (h : r'.pending = r.pending) :
    r'.Stopping := by
  obtain hpending | hpending := hstopping
  · exact .opening (h.trans hpending)
  · exact .closing (h.trans hpending)

theorem not_stopping_of_none (h : r.pending = none) : ¬ r.Stopping := by
  rintro (hpending | hpending) <;> simp [h] at hpending

/-! ### The steps of the feed task -/

theorem Attended.feed_step (hr : Attended r) (hfeed : r.feed = some task)
    (hnext : r'.feed = some { task with stage }) (hpending : r'.pending = r.pending)
    (hdown : r'.down = r.down)
    (hsession : ∀ s', r'.viewer.session = some s' → ∃ s, r.viewer.session = some s ∧
      s.id = s'.id ∧ s.chapter = s'.chapter ∧ (s'.complete = false → s.complete = false))
    (hloads : ∀ s', r'.viewer.session = some s' → s'.complete = false → r.down = false →
      task.Attends s' → stage.loads)
    (hended : r.down = true → stage = .ended) : Attended r' where
  loading := by
    intro hstopping hup s' hs' hincomplete
    have hbefore : ¬ r.Stopping := fun h => hstopping (h.of_pending hpending)
    rw [hdown] at hup
    obtain ⟨s, hs, hid, hchapter, hcomplete⟩ := hsession s' hs'
    obtain ⟨other, hother, hattends⟩ := hr.loading hbefore hup s hs (hcomplete hincomplete)
    have hsame : task = other := Option.some.inj (hfeed.symm.trans hother)
    subst hsame
    have hattends' : task.Attends s' :=
      ⟨hattends.session.trans hid, hattends.chapter.trans hchapter, hattends.cancelled,
        hattends.stage⟩
    exact ⟨_, hnext, hattends'.session, hattends'.chapter, hattends'.cancelled,
      hloads s' hs' hincomplete hup hattends'⟩
  opening := by
    intro ticket hticket s' hs'
    obtain ⟨s, hs, hid, hchapter, -⟩ := hsession s' hs'
    rw [← hid, ← hchapter]
    exact hr.opening ticket (hpending ▸ hticket) s hs
  closing := by
    intro shutdown hshutdown
    cases hs' : r'.viewer.session with
    | none => rfl
    | some s' =>
      obtain ⟨s, hs, -⟩ := hsession s' hs'
      rw [hr.closing shutdown (hpending ▸ hshutdown)] at hs
      cases hs
  down := by
    intro hshut other hother
    rw [hdown] at hshut
    rw [hnext, Option.some.injEq] at hother
    rw [← hother]
    exact .inr (hended hshut)

theorem Attended.setStage (hr : Attended r) (hfeed : r.feed = some task)
    (hnext : r'.feed = some { task with stage }) (hpending : r'.pending = r.pending)
    (hdown : r'.down = r.down) (hviewer : r'.viewer = r.viewer)
    (hloads : ∀ s', r.viewer.session = some s' → s'.complete = false → r.down = false →
      task.Attends s' → stage.loads)
    (hended : r.down = true → stage = .ended) : Attended r' := by
  refine hr.feed_step hfeed hnext hpending hdown ?_ ?_ hended
  · intro s' hs'
    rw [hviewer] at hs'
    exact ⟨s', hs', rfl, rfl, id⟩
  · rw [hviewer]
    exact hloads

theorem Attended.publish (hr : Attended r) {stage : FeedStage} (hrun : r.Runs task stage)
    {op : Viewer.Op} {answer : Viewer.Answer}
    (hop : op = .fail task.session ∨ ∃ e, op = .event task.session e)
    (hv : Viewer.Effect r.viewer op v answer) {next : FeedStage}
    (hloads : ∀ s', v.session = some s' → s'.complete = false → task.Attends s' → next.loads) :
    Attended ((r.publish v).setStage task next) := by
  refine hr.feed_step hrun.feed rfl rfl rfl ?_ ?_ ?_
  · exact fun s' hs' => hv.session_of_feed hop hs'
  · exact fun s' hs' hincomplete _ hattends => hloads s' hs' hincomplete hattends
  · intro hdown
    rw [hrun.down] at hdown
    cases hdown

/-! ### All steps -/

theorem Attended.of_same (hr : Attended r) (hsession : r'.viewer.session = r.viewer.session)
    (hfeed : r'.feed = r.feed) (hdown : r'.down = r.down)
    (hpending : r'.pending = r.pending ∨ ¬ r.Stopping ∧ ¬ r'.Stopping) : Attended r' where
  loading := by
    intro hstopping hup
    have hbefore : ¬ r.Stopping := by
      rcases hpending with hsame | ⟨hnot, -⟩
      · exact fun h => hstopping (h.of_pending hsame)
      · exact hnot
    rw [hsession, hfeed]
    exact hr.loading hbefore (hdown ▸ hup)
  opening := by
    intro ticket hticket
    rw [hsession]
    rcases hpending with hsame | ⟨-, hnot⟩
    · exact hr.opening ticket (hsame ▸ hticket)
    · exact absurd (.opening hticket) hnot
  closing := by
    intro shutdown hshutdown
    rw [hsession]
    rcases hpending with hsame | ⟨-, hnot⟩
    · exact hr.closing shutdown (hsame ▸ hshutdown)
    · exact absurd (.closing hshutdown) hnot
  down := by
    rw [hdown, hfeed]
    exact hr.down

theorem attended_ofLibrary (settings : ReaderSettings) (library : Library)
    (backend : Backend) : Attended (ofLibrary settings library backend) where
  loading := by
    intro _ _ s hs
    cases hs
  opening := by
    intro ticket hticket
    cases hticket
  closing := by
    intro shutdown hshutdown
    cases hshutdown
  down := by
    intro hdown
    cases hdown

theorem Effect.attended (h : Effect r s r' a) (hr : Attended r) : Attended r' := by
  cases h with
  | waits | refused | stayed | idle | rests | unanswered | notExpired => exact hr
  | indexNotFetched | tabSet | recorded => exact hr.of_same rfl rfl rfl (.inl rfl)
  | indexFetched hpending =>
    exact hr.of_same rfl rfl rfl (.inr ⟨not_stopping_of_none hpending, nofun⟩)
  | indexTaken hpending | indexTold hpending =>
    refine hr.of_same rfl rfl rfl (.inr ⟨?_, nofun⟩)
    rintro (hopening | hclosing)
    · rw [hpending] at hopening
      cases hopening
    · rw [hpending] at hclosing
      cases hclosing
  | @opened _ _ _ ticket hpending hop hv =>
    refine ⟨fun hstopping => absurd (.opening rfl) hstopping, ?_, nofun, hr.down⟩
    intro other hother s hs
    cases hother
    have hsession := Option.some.inj ((hv.showing_of_opened rfl).session.symm.trans hs)
    rw [← hsession]
    exact ⟨rfl, rfl⟩
  | closing =>
    exact ⟨fun hstopping => absurd (.closing rfl) hstopping, nofun, fun _ _ => rfl, hr.down⟩
  | @started ticket hpending =>
    refine ⟨?_, nofun, nofun, ?_⟩
    · intro _ _ s hs _
      obtain ⟨hid, hchapter⟩ := hr.opening ticket hpending s hs
      exact ⟨_, rfl, hid.symm, hchapter.symm, rfl, rfl⟩
    · intro _ task htask
      cases htask
      exact .inl rfl
  | @cancelled task hstopping hfeed =>
    have hafter : Stopping { r with feed := some { task with cancelled := true } } :=
      hstopping.of_pending rfl
    refine ⟨fun hnot => absurd hafter hnot, hr.opening, hr.closing, ?_⟩
    intro hdown other hother
    rw [← Option.some.inj hother]
    exact hr.down hdown task hfeed
  | closed hpending =>
    refine ⟨?_, nofun, nofun, fun _ task htask => by cases htask⟩
    intro _ _ s hs
    rw [show r.viewer.session = none from hr.closing _ hpending] at hs
    cases hs
  | @stops task hfeed _ hstop =>
    refine hr.setStage hfeed rfl rfl rfl rfl ?_ fun _ => rfl
    intro _ _ _ hup hattends
    rw [hattends.cancelled, hup] at hstop
    simp at hstop
  | @asks task hrun =>
    obtain ⟨backend, stage, hloads, heq⟩ := r.openFeed_eq task
    rw [heq]
    refine hr.setStage hrun.feed rfl rfl rfl rfl (fun _ _ _ _ _ => hloads) ?_
    simp [hrun.down]
  | @pulls task feed hrun =>
    obtain ⟨stage, hloads, heq⟩ := r.pull_eq task feed
    rw [heq]
    refine hr.setStage hrun.feed rfl rfl rfl rfl (fun _ _ _ _ _ => hloads) ?_
    simp [hrun.down]
  | places hrun hv => exact hr.publish hrun (.inr ⟨_, rfl⟩) hv fun _ _ _ _ => rfl
  | completes hrun hv =>
    refine hr.publish hrun (.inr ⟨_, rfl⟩) hv fun s' hs' hincomplete _ => ?_
    cases hv with
    | completed =>
      cases hs'
      cases hincomplete
  | stale hrun hv =>
    refine hr.publish hrun (.inr ⟨_, rfl⟩) hv fun s' hs' hincomplete hattends => ?_
    cases hv with
    | stale _ hshut => exact (hattends.absurd_shut hs' hincomplete hshut).elim
  | rejects hrun hv =>
    refine hr.publish hrun (.inr ⟨_, rfl⟩) hv fun s' hs' _ _ => ?_
    cases hv with
    | rejected => cases hs'
  | fails hrun hv =>
    refine hr.publish hrun (.inl rfl) hv fun s' hs' _ _ => ?_
    cases hv with
    | failed => cases hs'
  | failsLate hrun hv =>
    refine hr.setStage hrun.feed rfl rfl rfl rfl ?_ fun _ => rfl
    intro s hs hincomplete _ hattends
    exact (hattends.absurd_shut hs hincomplete hv.shut_of_not_failed).elim
  | tellsPage htell =>
    refine hr.setStage htell.feed rfl rfl rfl rfl (fun _ _ _ _ _ => rfl) fun hdown => ?_
    have hstage := hr.down hdown _ htell.feed
    simp [htell.stage] at hstage
  | tellsComplete htell | tellsFailure htell =>
    refine hr.setStage htell.feed rfl rfl rfl rfl ?_ fun _ => rfl
    intro _ _ _ _ hattends
    have hstage := hattends.stage
    rw [htell.stage] at hstage
    cases hstage
  | expires hrun =>
    refine hr.setStage hrun.feed rfl rfl rfl rfl (fun _ _ _ _ _ => rfl) ?_
    simp [hrun.down]

theorem Attended.run (hr : Attended r) (steps : List Step) : Attended (r.run steps).1 :=
  run_keeps (fun r s hr => (r.step_effect s).attended hr) hr steps

theorem Reachable.attended (h : Reachable r) : Attended r := by
  cases h
  exact (attended_ofLibrary _ _ _).run _

end Reader

end MangaReader

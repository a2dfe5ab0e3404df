import MangaReader.Proofs.Reading.Attended
import MangaReader.Proofs.Reading.Chapter
import MangaReader.Proofs.Reading.Published

/-!
# How a chapter that is being loaded comes to its end

A task that attends to a session can go on at every stage, whatever the backend answers and however
the body of the feed ends: the chapter is complete, it fails, or its time runs out. This lasts as
long as the reader is not shut down. A chapter that is opened later finds its task cancelled, and is
being loaded until a call closes it.

* `Reader.Rests` : the task and time alone bring a reader to rest.
* `Reader.Loading` : a reader whose feed task works for the session that is being loaded.
* `Reader.Deserted` : a reader that is shut down, with a session that is being loaded.
* `Reader.loading_attended` : what becomes of a session that is being loaded.
-/

namespace MangaReader.Reader

open Backend Feed

/-- A call that closes the open session or opens another, whatever the viewer's state. -/
def Call.preempts : Call → Bool
  | .select _ | .close | .shutdown => true
  | .loadIndex | .setTab _ | .navigate _ => false

def goOn (r : Reader) (task : FeedTask) : FeedStage → Reader
  | .waiting => r.openFeed task
  | .reading feed => r.pull task feed
  | .received e feed => r.apply task e feed
  | .broken error => r.fail task error
  | .unanswered | .placed _ _ _ | .completed _ | .failed _ | .ended => r

/-- Steps of the feed task, and of time where nothing arrives, bring a reader to rest. -/
def Rests (r : Reader) : Prop :=
  ∃ steps : List Step, (∀ s ∈ steps, s = .feed ∨ s = .expire) ∧ (r.run steps).1.published = .idle

/-- A reader whose feed task, at some stage, works for the session that is being loaded. -/
structure Loading (r : Reader) (s : Session) (task : FeedTask) (stage : FeedStage) : Prop where
  session : r.viewer.session = some s
  incomplete : s.complete = false
  runs : r.Runs task stage
  own : task.session = s.id

/-- A reader that is shut down, with a session and no call that would close it. -/
structure Deserted (r : Reader) (s : Session) : Prop where
  attended : Attended r
  down : r.down = true
  stopping : ¬ r.Stopping
  session : r.viewer.session = some s

variable {r r' : Reader} {s : Session} {task : FeedTask} {stage : FeedStage} {feed : PageFeed}

/-! ### Steps that lead to rest -/

theorem rests_of_idle (h : r.published = .idle) : r.Rests := ⟨[], nofun, h⟩

theorem Rests.of_step {step : Step} (hstep : step = .feed ∨ step = .expire)
    (h : (r.step step).1.Rests) : r.Rests := by
  obtain ⟨steps, hall, hidle⟩ := h
  refine ⟨step :: steps, ?_, hidle⟩
  intro other hother
  rcases List.mem_cons.mp hother with rfl | hmem
  · exact hstep
  · exact hall other hmem

theorem Rests.of_feed (h : r.stepFeed.Rests) : r.Rests := .of_step (.inl rfl) h

theorem Rests.of_expire (h : r.expire.Rests) : r.Rests := .of_step (.inr rfl) h

/-! ### The stages of the task -/

theorem Runs.stepFeed_eq (h : r.Runs task stage) (hstage : stage.yields) :
    r.stepFeed = r.goOn task stage := by
  obtain ⟨hfeed, rfl, hcancelled, hdown⟩ := h
  cases hnow : task.stage with
  | waiting | unanswered | reading | received | broken =>
    simp [stepFeed, goOn, hfeed, hnow, hcancelled, hdown]
  | placed | completed | failed | ended =>
    rw [hnow] at hstage
    cases hstage

theorem Loading.openSession (h : r.Loading s task stage) :
    r.viewer.openSession? task.session = some s :=
  Viewer.openSession?_eq_some.mpr ⟨h.session, h.own.symm, h.incomplete⟩

theorem Loading.setStage (h : r.Loading s task stage) (next : FeedStage) :
    (r.setStage task next).Loading s { task with stage := next } next where
  session := h.session
  incomplete := h.incomplete
  runs := ⟨rfl, rfl, h.runs.cancelled, h.runs.down⟩
  own := h.own

theorem Loading.rests_of_broken {error : ReadError} (h : r.Loading s task (.broken error)) :
    r.Rests := by
  have hstep : r.stepFeed =
      (r.publish { r.viewer with session := none }).setStage task (.failed error) := by
    rw [h.runs.stepFeed_eq rfl]
    simp [goOn, Reader.fail, Viewer.fail, h.openSession]
  apply Rests.of_feed
  apply rests_of_idle
  rw [hstep]
  rfl

theorem Loading.rests_of_unanswered (h : r.Loading s task .unanswered) : r.Rests := by
  have hstep : r.expire = r.setStage task (.broken (late r.settings)) := by
    simp [Reader.expire, h.runs.feed, h.runs.stage, h.runs.cancelled, h.runs.down]
  apply Rests.of_expire
  rw [hstep]
  exact (h.setStage _).rests_of_broken

theorem Loading.rests_of_received {e : PageEvent} (h : r.Loading s task (.received e feed))
    (hreading : ∀ {r : Reader} {s task}, r.Loading s task (.reading feed) → r.Rests) : r.Rests := by
  have hstep : r.stepFeed = r.apply task e feed := h.runs.stepFeed_eq rfl
  apply Rests.of_feed
  rw [hstep]
  cases e with
  | terminal =>
    apply rests_of_idle
    simp [Reader.apply, Viewer.apply, h.openSession, Reader.setStage, Reader.publish, Viewer.state]
  | page page =>
    by_cases hpage : s.Admits page
    · have hplace := r.viewer.place_of_admits hpage
      rw [Reader.apply, Viewer.apply, h.openSession]
      simp only [hplace]
      -- the listeners are told of the page before the next event is waited for
      apply Rests.of_feed
      exact hreading ⟨rfl, h.incomplete, ⟨rfl, rfl, h.runs.cancelled, h.runs.down⟩, h.own⟩
    · obtain ⟨why, surface, hplace, -⟩ := r.viewer.place_of_not_admits hpage
      apply rests_of_idle
      rw [Reader.apply, Viewer.apply, h.openSession]
      simp only [hplace]
      rfl

/-- **A feed that is being read comes to its end**, by induction on what it has still to deliver. -/
theorem Loading.rests_of_reading (h : r.Loading s task (.reading feed)) : r.Rests := by
  induction hn : feed.remaining.length using Nat.strongRecOn generalizing r s task feed with
  | ind n ih =>
    have hstep : r.stepFeed = r.pull task feed := h.runs.stepFeed_eq rfl
    cases hnext : feed.next with
    | mk pull after =>
      cases pull with
      | event e =>
        have hless := PageFeed.remaining_lt_of_event hnext
        apply Rests.of_feed
        rw [hstep, Reader.pull, hnext]
        exact (h.setStage (.received e after)).rests_of_received
          fun hnow => ih _ (hn ▸ hless) hnow rfl
      | blocked =>
        have hexpire : r.expire = r.setStage task (.broken (late r.settings)) := by
          simp [Reader.expire, h.runs.feed, h.runs.stage, h.runs.cancelled, h.runs.down, hnext]
        apply Rests.of_expire
        rw [hexpire]
        exact (h.setStage (.broken _)).rests_of_broken
      | _ =>
        apply Rests.of_feed
        rw [hstep, Reader.pull, hnext]
        exact (h.setStage (.broken _)).rests_of_broken

/-- **A task that works for its session brings it to its end**, from every stage. -/
theorem Loading.rests (h : r.Loading s task stage) (hstage : stage.loads) : r.Rests := by
  cases stage with
  | waiting =>
    have hstep : r.stepFeed = r.openFeed task := h.runs.stepFeed_eq rfl
    apply Rests.of_feed
    rw [hstep, Reader.openFeed]
    have hasked : ∀ backend, Loading { r with backend } s task .waiting :=
      fun _ => ⟨h.session, h.incomplete, ⟨h.runs.feed, h.runs.stage, h.runs.cancelled,
        h.runs.down⟩, h.own⟩
    cases r.library.client.openFeed task.chapter.id r.backend with
    | mk opening backend =>
      cases opening with
      | opened feed => exact ((hasked backend).setStage (.reading feed)).rests_of_reading
      | failed f => exact ((hasked backend).setStage (.broken _)).rests_of_broken
      | blocked => exact ((hasked backend).setStage .unanswered).rests_of_unanswered
  | unanswered => exact h.rests_of_unanswered
  | reading => exact h.rests_of_reading
  | received => exact h.rests_of_received fun hnow => hnow.rests_of_reading
  | placed index total feed =>
    have hstep : r.stepFeed =
        (r.tell (.pageRendered task.session index total)).setStage task (.reading feed) := by
      simp [stepFeed, h.runs.feed, h.runs.stage]
    have htold : Loading (r.tell (.pageRendered task.session index total)) s task
        (.placed index total feed) := ⟨h.session, h.incomplete, ⟨h.runs.feed, h.runs.stage,
          h.runs.cancelled, h.runs.down⟩, h.own⟩
    apply Rests.of_feed
    rw [hstep]
    exact (htold.setStage (.reading feed)).rests_of_reading
  | broken => exact h.rests_of_broken
  | completed | failed | ended => cases hstage

/-! ### After the reader is shut down -/

/-- **No step but of a call that closes the session ends it**, once the reader is shut down. -/
theorem Effect.deserted {step : Step} {a : Option Answer} (h : Effect r step r' a)
    (hr : r.Deserted s) (hs : s.complete = false)
    (hstep : ∀ c, step = .call c → c.preempts = false) : r'.Deserted s := by
  have hgone : ∀ {task stage}, r.Runs task stage → False := by
    intro task stage hrun
    have hdown := hr.down
    rw [hrun.down] at hdown
    cases hdown
  have hsilent : ∀ {task stage}, r.Tells task stage → stage = .waiting ∨ stage = .ended := by
    intro task stage htell
    rw [← htell.stage]
    exact hr.attended.down hr.down task htell.feed
  have hafter : Attended r' := h.attended hr.attended
  cases h with
  | waits | refused | stayed | idle | rests | unanswered | notExpired => exact hr
  | indexNotFetched | tabSet | recorded | stops =>
    exact ⟨hafter, hr.down, fun h => hr.stopping (h.of_pending rfl), hr.session⟩
  | indexFetched | indexTaken | indexTold => exact ⟨hafter, hr.down, nofun, hr.session⟩
  | @opened c op v ticket hpending hop hv =>
    have hc := hstep c rfl
    cases c with
    | navigate d =>
      cases hop
      cases hv with
      | navigated hidle =>
        -- there is no step to another chapter while one is being loaded
        rw [Viewer.state_eq_idle_iff] at hidle
        exact absurd ⟨s, hr.session, hs⟩ hidle
    | select | close | shutdown => cases hc
    | loadIndex | setTab => cases hop
  | @closing c _ _ hclosing =>
    have hc := hstep c rfl
    cases c with
    | select | close | shutdown => cases hc
    | loadIndex | setTab | navigate => cases hclosing
  | started hpending => exact absurd (.opening hpending) hr.stopping
  | cancelled hstopping => exact absurd hstopping hr.stopping
  | closed hpending => exact absurd (.closing hpending) hr.stopping
  | asks hrun | pulls hrun | places hrun | completes hrun | stale hrun | rejects hrun | fails hrun
  | failsLate hrun | expires hrun => exact (hgone hrun).elim
  | tellsPage htell | tellsComplete htell | tellsFailure htell =>
    have hstage := hsilent htell
    simp at hstage

theorem Deserted.run (hr : r.Deserted s) (hs : s.complete = false) (steps : List Step)
    (hsteps : ∀ c, Step.call c ∈ steps → c.preempts = false) : (r.run steps).1.Deserted s := by
  induction steps generalizing r with
  | nil => exact hr
  | cons step steps ih =>
    have hfirst : (r.step step).1.Deserted s := by
      refine (r.step_effect step).deserted hr hs fun c hc => hsteps c ?_
      rw [hc]
      exact List.mem_cons_self
    exact ih hfirst fun c hc => hsteps c (List.mem_cons_of_mem _ hc)

/-- **What becomes of a session that is being loaded**, after any run, when no call has a step left.

While the reader is not shut down, it has a feed task for the session that has not ended and that
nothing has cancelled, and steps of the task and of time alone bring the chapter to its end. Once it
is shut down, whatever follows leaves the session as it is, but for a call that opens or closes
another. -/
theorem loading_attended {session : Nat} {chapter : Int} (hr : Reachable r)
    (hpending : r.pending = none) (hloading : r.viewer.state = .loading session chapter) :
    (r.down = false →
      (∃ task, r.feed = some task ∧ task.session = session ∧ task.chapter.id = chapter ∧
        task.stage ≠ .ended ∧ task.cancelled = false) ∧
      r.Rests) ∧
    (r.down = true → ∀ steps, (∀ c, Step.call c ∈ steps → c.preempts = false) →
      (r.run steps).1.published = .loading session chapter) := by
  obtain ⟨s, hs, hincomplete, rfl, rfl⟩ := Viewer.state_eq_loading_iff.mp hloading
  have hstopping : ¬ r.Stopping := not_stopping_of_none hpending
  refine ⟨fun hup => ?_, fun hdown steps hsteps => ?_⟩
  · obtain ⟨task, hfeed, hattends⟩ := hr.attended.loading hstopping hup s hs hincomplete
    refine ⟨⟨task, hfeed, hattends.session, by rw [hattends.chapter], ?_, hattends.cancelled⟩, ?_⟩
    · intro hended
      have hstage := hattends.stage
      rw [hended] at hstage
      cases hstage
    · have hworks : r.Loading s task task.stage :=
        ⟨hs, hincomplete, ⟨hfeed, rfl, hattends.cancelled, hup⟩, hattends.session⟩
      exact hworks.rests hattends.stage
  · have hdeserted : r.Deserted s := ⟨hr.attended, hdown, hstopping, hs⟩
    have hlast := (hdeserted.run hincomplete steps hsteps).session
    rw [(hr.coherent.run steps).published]
    exact Viewer.state_eq_loading_iff.mpr ⟨s, hlast, hincomplete, rfl, rfl⟩

/-- The only chapter is opened, and the request for its feed is answered. -/
theorem loading_attended_asked :
    ∃ r, (sampleReader.run [.call (.select ⟨.chapter, 0⟩), .proceed, .feed]).1 = r ∧
      r.viewer.state = .loading 1 7 ∧ (∃ task, r.feed = some task ∧ task.stage ≠ .ended) ∧
      r.Rests := by
  have hr := reachable_sampleReader.run_steps [.call (.select ⟨.chapter, 0⟩), .proceed, .feed]
  have hpending : (sampleReader.run [.call (.select ⟨.chapter, 0⟩), .proceed, .feed]).1.pending =
      none := by decide +kernel
  have hstate : (sampleReader.run
      [.call (.select ⟨.chapter, 0⟩), .proceed, .feed]).1.viewer.state = .loading 1 7 := by
    decide +kernel
  obtain ⟨⟨task, hfeed, -, -, hstage, -⟩, hrests⟩ :=
    (loading_attended hr hpending hstate).1 (by decide +kernel)
  exact ⟨_, rfl, hstate, ⟨task, hfeed, hstage⟩, hrests⟩

/-- A chapter that is opened after the reader was shut down: its task ends without a request, and
who waits for the reader to be idle waits in vain. -/
theorem loading_unattended :
    ∃ r, (sampleReader.run [.call .shutdown, .proceed, .call (.select ⟨.chapter, 0⟩), .proceed,
        .feed]).1 = r ∧ Reachable r ∧
      r.pending = none ∧ r.viewer.state = .loading 1 7 ∧
      r.feed = some ⟨1, ⟨7, "1", .chapter, 0⟩, .ended, false⟩ ∧
      r.waitIdle.2 = false := by
  refine ⟨_, rfl, reachable_sampleReader.run_steps _, ?_⟩
  decide +kernel

end MangaReader.Reader

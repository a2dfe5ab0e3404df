import MangaReader.Proofs.Reading.Coherent
import MangaReader.Proofs.Reading.Course

/-!
# The time before a feed task starts

A chapter is open in the viewer before the task that brings its pages starts, for the task before it
is to end first. That task has an older session, so that nothing it does concerns the new one: what
it still tells is about the older session, and the viewer does not heed it. Once cancelled, it ends
within two steps, and the new task starts (`Opens.proceed`, `Opens.stepFeed`).

* `Reader.rank` : a bound of the number of steps until a chapter is at its end.
* `Reader.Opens` : a reader that waits for the end of an older task.
-/

namespace MangaReader

open Feed

/-- A bound of the number of steps for which the end of a task is waited for. -/
def FeedTask.delay (task : FeedTask) : Nat :=
  if task.stage = .ended then 0
  else if task.cancelled then if task.stage.yields then 1 else 2
  else 3

/-- A bound of the number of steps that are left for the chapter of a session whose feed delivers
some number of results, given the task that runs now. -/
def FeedTask.rank (session results : Nat) (task : FeedTask) : Nat :=
  if task.session = session then task.stage.rank results else 3 * results + 5 + task.delay

namespace Reader

/-- A bound of the number of steps until the chapter of a session is at its end. -/
def rank (session results : Nat) (r : Reader) : Nat :=
  (r.feed.map (FeedTask.rank session results)).getD (3 * results + 5)

/-- A reader that has opened a session whose task has not started, with what the listeners were told
of sessions before and since. If no older task is running, they are told nothing. -/
structure Opens (session : Nat) (chapter : Chapter) (before : List ReaderEvent) (atRest : Prop)
    (r : Reader) (late : List ReaderEvent) : Prop where
  up : r.down = false
  pending : r.pending = some (.opening ⟨session, chapter⟩)
  showing : r.viewer.Showing session chapter []
  older : ∀ task, r.feed = some task → task.session < session
  events : r.sessionEvents = before ++ late
  late_older : ∀ e ∈ late, ∃ older < session, e.session? = some older
  rests : atRest → r.FeedOver ∧ late = []

/-- An older task has taken a step, which brings it nearer to its end if it is cancelled. -/
inductive OlderStep (session : Nat) (chapter : Chapter) (before : List ReaderEvent) (atRest : Prop)
    (r r' : Reader) : Prop
  | intro {task : FeedTask} {stage : FeedStage} {late : List ReaderEvent}
      (hfeed : r.feed = some task) (hstage : task.stage ≠ .ended)
      (hnext : r'.feed = some { task with stage })
      (hopens : Opens session chapter before atRest r' late)
      (hdelay : task.cancelled = true → FeedTask.delay { task with stage } < task.delay)

variable {session results : Nat} {chapter : Chapter} {before late : List ReaderEvent}
  {atRest : Prop} {r r' : Reader} {task : FeedTask} {stage : FeedStage} {v : Viewer}

/-! ### Ranks -/

theorem rank_of_feed (h : r.feed = some task) :
    r.rank session results = task.rank session results := by
  rw [rank, h]
  rfl

theorem rank_of_older (h : r.feed = some task) (holder : task.session < session) :
    r.rank session results = 3 * results + 5 + task.delay := by
  rw [rank_of_feed h, FeedTask.rank, if_neg (by omega)]

theorem rank_setStage_of_older (holder : task.session < session) (stage : FeedStage) :
    (r.setStage task stage).rank session results =
      3 * results + 5 + FeedTask.delay { task with stage } :=
  rank_of_older rfl holder

theorem delay_of_ended (h : task.stage = .ended) : task.delay = 0 := by
  rw [FeedTask.delay, if_pos h]

theorem delay_pos (h : task.stage ≠ .ended) : 0 < task.delay := by
  rw [FeedTask.delay, if_neg h]
  split
  · split <;> omega
  · omega

theorem delay_le (task : FeedTask) : task.delay ≤ 3 := by
  unfold FeedTask.delay
  split
  · omega
  · split
    · split <;> omega
    · omega

theorem delay_of_running (h : task.stage ≠ .ended) (hcancelled : task.cancelled = false) :
    task.delay = 3 := by
  rw [FeedTask.delay, if_neg h, hcancelled, if_neg (by decide)]

theorem delay_of_cancelled (hcancelled : task.cancelled = true) : task.delay ≤ 2 := by
  unfold FeedTask.delay
  rw [if_pos hcancelled]
  split
  · omega
  · split <;> omega

theorem Opens.rank_of_feedOver (h : Opens session chapter before atRest r late)
    (hover : r.FeedOver) : r.rank session results = 3 * results + 5 := by
  cases hfeed : r.feed with
  | none =>
    rw [rank, hfeed]
    rfl
  | some task => rw [rank_of_older hfeed (h.older task hfeed), delay_of_ended (hover task hfeed)]

theorem Opens.rank_le (h : Opens session chapter before atRest r late) (n : Nat) :
    r.rank session n ≤ 3 * n + 8 := by
  cases hfeed : r.feed with
  | none =>
    rw [rank, hfeed, Option.map_none, Option.getD_none]
    omega
  | some task =>
    have hdelay := delay_le task
    rw [rank_of_older hfeed (h.older task hfeed)]
    omega

/-! ### What an older task does -/

theorem Opens.setStage (h : Opens session chapter before atRest r late) (hfeed : r.feed = some task)
    (hstage : task.stage ≠ .ended) (stage : FeedStage) :
    Opens session chapter before atRest (r.setStage task stage) late where
  up := h.up
  pending := h.pending
  showing := h.showing
  older := by
    intro other hother
    rw [← Option.some.inj hother]
    exact h.older task hfeed
  events := h.events
  late_older := h.late_older
  rests := fun hrest => absurd ((h.rests hrest).1 task hfeed) hstage

theorem Opens.tell_setStage (h : Opens session chapter before atRest r late)
    (hfeed : r.feed = some task) (hstage : task.stage ≠ .ended) {e : ReaderEvent}
    (he : e.session? = some task.session) (stage : FeedStage) :
    Opens session chapter before atRest ((r.tell e).setStage task stage) (late ++ [e]) where
  up := h.up
  pending := h.pending
  showing := h.showing
  older := by
    intro other hother
    rw [← Option.some.inj hother]
    exact h.older task hfeed
  events := by
    have htold := sessionEvents_tell r (e := e) (by rw [he]; rfl)
    rw [← List.append_assoc, ← h.events]
    exact htold
  late_older := by
    intro other hother
    rcases List.mem_append.mp hother with hlate | hlast
    · exact h.late_older other hlate
    · rw [List.mem_singleton.mp hlast]
      exact ⟨task.session, h.older task hfeed, he⟩
  rests := fun hrest => absurd ((h.rests hrest).1 task hfeed) hstage

theorem Opens.same_viewer (h : Opens session chapter before atRest r late)
    (hfeed : r.feed = some task) {op : Viewer.Op} {a : Viewer.Answer}
    (hop : op = .fail task.session ∨ ∃ e, op = .event task.session e)
    (hv : Viewer.Effect r.viewer op v a) : v = r.viewer := by
  have holder := h.older task hfeed
  have hshut : r.viewer.isOpen task.session = false := h.showing.stray (by omega)
  apply hv.eq_of_isStray
  rcases hop with rfl | ⟨e, rfl⟩
  · simp [Viewer.Move.isStray, hshut]
  · simp [Viewer.Move.isStray, hshut]

theorem Opens.publish (h : Opens session chapter before atRest r late) (hsame : v = r.viewer) :
    Opens session chapter before atRest (r.publish v) late := by
  subst hsame
  exact ⟨h.up, h.pending, h.showing, h.older, h.events, h.late_older, h.rests⟩

theorem Opens.running (h : Opens session chapter before atRest r' late)
    (hrun : r.Runs task stage) (hstage : stage ≠ .ended) (hsame : r'.feed = r.feed)
    (next : FeedStage) :
    OlderStep session chapter before atRest r (r'.setStage task next) := by
  have hfeed : r'.feed = some task := hsame.trans hrun.feed
  have hended : task.stage ≠ .ended := by rwa [hrun.stage]
  refine ⟨hrun.feed, hended, rfl, h.setStage hfeed hended next, fun hcancelled => ?_⟩
  rw [hrun.cancelled] at hcancelled
  cases hcancelled

theorem Opens.telling (h : Opens session chapter before atRest r late) (htell : r.Tells task stage)
    (hstage : stage ≠ .ended) {e : ReaderEvent} (he : e.session? = some task.session)
    {next : FeedStage}
    (hdelay : task.cancelled = true → FeedTask.delay { task with stage := next } < task.delay) :
    OlderStep session chapter before atRest r ((r.tell e).setStage task next) := by
  have hended : task.stage ≠ .ended := by rwa [htell.stage]
  exact ⟨htell.feed, hended, rfl, h.tell_setStage htell.feed hended he next, hdelay⟩

/-- **An older task does not concern the new session**, and comes nearer to its end at every step
once it is cancelled. -/
theorem Opens.stepFeed (h : Opens session chapter before atRest r late) :
    r.FeedOver ∧ r.stepFeed = r ∨ OlderStep session chapter before atRest r r.stepFeed := by
  have heffect := r.effect_feed
  generalize r.stepFeed = next at heffect ⊢
  cases heffect with
  | rests hover => exact .inl ⟨hover, rfl⟩
  | @stops task hfeed hyields =>
    have hstage := FeedStage.ne_ended_of_yields hyields
    refine .inr ⟨hfeed, hstage, rfl, h.setStage hfeed hstage .ended, fun _ => ?_⟩
    rw [delay_of_ended rfl]
    exact delay_pos hstage
  | @unanswered task hrun =>
    have hsame : r.setStage task .unanswered = r := by
      rw [Reader.setStage, ← hrun.stage, ← hrun.feed]
    have hstep := h.running hrun nofun rfl .unanswered
    rw [hsame] at hstep
    exact .inr hstep
  | @asks task hrun =>
    obtain ⟨backend, stage, -, heq⟩ := r.openFeed_eq task
    have hasked : Opens session chapter before atRest { r with backend } late :=
      ⟨h.up, h.pending, h.showing, h.older, h.events, h.late_older, h.rests⟩
    rw [heq]
    exact .inr (hasked.running hrun nofun rfl stage)
  | @pulls task feed hrun =>
    obtain ⟨stage, -, heq⟩ := r.pull_eq task feed
    rw [heq]
    exact .inr (h.running hrun nofun rfl stage)
  | places hrun hv | completes hrun hv | stale hrun hv | rejects hrun hv =>
    have hsame := h.same_viewer hrun.feed (.inr ⟨_, rfl⟩) hv
    exact .inr ((h.publish hsame).running hrun nofun rfl _)
  | fails hrun hv =>
    have hsame := h.same_viewer hrun.feed (.inl rfl) hv
    exact .inr ((h.publish hsame).running hrun nofun rfl _)
  | failsLate hrun => exact .inr (h.running hrun nofun rfl _)
  | tellsPage htell =>
    refine .inr (h.telling htell nofun rfl fun hcancelled => ?_)
    simp [FeedTask.delay, hcancelled, htell.stage, FeedStage.yields]
  | tellsComplete htell | tellsFailure htell =>
    refine .inr (h.telling htell nofun rfl fun _ => ?_)
    rw [delay_of_ended rfl]
    exact delay_pos (by rw [htell.stage]; nofun)

/-! ### The start of the new task -/

/-- **The new task starts when no older one runs**; one that runs is cancelled first. -/
theorem Opens.proceed (h : Opens session chapter before atRest r late)
    (results : List (Except Backend.Failure PageEvent)) :
    r.FeedOver ∧
        Streams session chapter results (before ++ late ++ [.sessionOpened session chapter])
          r.proceed .waiting [] ∨
      ∃ task, r.feed = some task ∧ task.stage ≠ .ended ∧
        r.proceed = { r with feed := some { task with cancelled := true } } ∧
        Opens session chapter before atRest r.proceed late := by
  have hproceed : r.proceed = r.afterFeed (·.start ⟨session, chapter⟩) := by
    simp only [Reader.proceed, h.pending]
  obtain ⟨hover, hnext⟩ | ⟨task, hfeed, hstage, hnext⟩ :=
    r.afterFeed_eq (·.start ⟨session, chapter⟩)
  · refine .inl ⟨hover, ?_⟩
    rw [hproceed, hnext]
    refine ⟨h.up, ?_, rfl, .waiting h.showing, ?_⟩
    · intro rest hrest
      cases hrest
    · have htold := sessionEvents_tell r (e := .sessionOpened session chapter) rfl
      rw [List.append_nil, ← h.events]
      exact htold
  · rw [hproceed]
    refine .inr ⟨task, hfeed, hstage, hnext, ?_⟩
    rw [hnext]
    refine ⟨h.up, h.pending, h.showing, ?_, h.events, h.late_older, ?_⟩
    · intro other hother
      rw [← Option.some.inj hother]
      exact h.older task hfeed
    · exact fun hrest => absurd ((h.rests hrest).1 task hfeed) hstage

end Reader

end MangaReader

import MangaReader.Proofs.Viewer.Effect
import MangaReader.Reading.Reader

/-!
# What one step of a reader does

`Reader.Effect` lists everything that a step can do to a reader, with the answers that go with it,
and `Reader.step_effect` says that there is nothing else. What a step does to the viewer is said as
an effect of a viewer operation.

* `Reader.FeedOver` : no feed task runs.
* `Reader.Stopping` : a call waits for the end of the feed task.
* `FeedStage.yields` : where a task sees that it is cancelled.
* `FeedStage.loads` : where a task has not told the viewer of the end of its session.
* `Reader.Effect`, `Reader.step_effect` : the effects of the steps.
-/

namespace MangaReader

open Backend Feed

/-- Whether a task sees at a stage that it is cancelled. -/
def FeedStage.yields : FeedStage → Bool
  | .waiting | .unanswered | .reading _ | .received _ _ | .broken _ => true
  | .placed _ _ _ | .completed _ | .failed _ | .ended => false

/-- A task at this stage has not told the viewer of the end of its session. -/
def FeedStage.loads : FeedStage → Bool
  | .waiting | .unanswered | .reading _ | .received _ _ | .placed _ _ _ | .broken _ => true
  | .completed _ | .failed _ | .ended => false

theorem FeedStage.ne_ended_of_yields {stage : FeedStage} (h : stage.yields) : stage ≠ .ended := by
  rintro rfl
  cases h

namespace Reader

def Call.opening? : Call → Option Viewer.Op
  | .select place => some (.select place)
  | .navigate d => some (.navigate d)
  | .loadIndex | .setTab _ | .close | .shutdown => none

/-- Whether a call closes the chapter, and if so, whether it shuts the reader down. -/
def Call.closing? : Call → Option Bool
  | .close => some false
  | .shutdown => some true
  | .loadIndex | .setTab _ | .select _ | .navigate _ => none

def FeedOver (r : Reader) : Prop := ∀ task, r.feed = some task → task.stage = .ended

inductive Stopping (r : Reader) : Prop
  | opening {ticket : Ticket} (h : r.pending = some (.opening ticket))
  | closing {shutdown : Bool} (h : r.pending = some (.closing shutdown))

structure Runs (r : Reader) (task : FeedTask) (stage : FeedStage) : Prop where
  feed : r.feed = some task
  stage : task.stage = stage
  cancelled : task.cancelled = false
  down : r.down = false

/-- A feed task that has something to tell, which it does even if it is cancelled. -/
structure Tells (r : Reader) (task : FeedTask) (stage : FeedStage) : Prop where
  feed : r.feed = some task
  stage : task.stage = stage

/-- Everything that a step can do to a reader, and the answer of the call, if it is one. -/
inductive Effect (r : Reader) : Step → Reader → Option Answer → Prop
  -- calls
  | waits {c : Call} (h : r.pending.isSome) : Effect r (.call c) r none
  | indexFetched {index : ChapterIndex} {backend : Backend} (hpending : r.pending = none)
      (hfetch : r.library.chapters r.settings.manga r.backend = (.ok index, backend)) :
    Effect r (.call .loadIndex) { r with backend, pending := some (.loading index) }
      (some (.index index))
  | indexNotFetched {e : ReadError} {backend : Backend} (hpending : r.pending = none)
      (hfetch : r.library.chapters r.settings.manga r.backend = (.error e, backend)) :
    Effect r (.call .loadIndex) { r with backend } (some (.refused e))
  | tabSet {tab : ChapterKind} (hpending : r.pending = none) :
    Effect r (.call (.setTab tab)) { r with viewer := r.viewer.setTab tab } (some .done)
  | opened {c : Call} {op : Viewer.Op} {v : Viewer} {ticket : Ticket} (hpending : r.pending = none)
      (hop : c.opening? = some op) (hv : Viewer.Effect r.viewer op v (.opened ticket)) :
    Effect r (.call c) { r.publish v with pending := some (.opening ticket) }
      (some (.opened ticket))
  | refused {place : Cursor} (e : ReadError) (hpending : r.pending = none)
      (hplace : r.viewer.index.resolve place = none) :
    Effect r (.call (.select place)) r (some (.refused e))
  | stayed {d : Direction} (hpending : r.pending = none)
      (hv : Viewer.Effect r.viewer (.navigate d) r.viewer .stayed) :
    Effect r (.call (.navigate d)) r (some .stayed)
  | closing {c : Call} {shutdown : Bool} (hpending : r.pending = none)
      (hc : c.closing? = some shutdown) :
    Effect r (.call c)
      { r.publish { r.viewer with session := none } with pending := some (.closing shutdown) }
      (some .done)
  -- the other steps of a call
  | idle (hpending : r.pending = none) : Effect r .proceed r none
  | indexTaken {index : ChapterIndex} (hpending : r.pending = some (.loading index)) :
    Effect r .proceed
      { r with viewer := r.viewer.replaceIndex index, pending := some (.loaded index.size) } none
  | indexTold {chapters : Nat} (hpending : r.pending = some (.loaded chapters)) :
    Effect r .proceed { r.tell (.indexLoaded chapters) with pending := none } none
  | started {ticket : Ticket} (hpending : r.pending = some (.opening ticket))
      (hfeed : r.FeedOver) : Effect r .proceed (r.start ticket) none
  | cancelled {task : FeedTask} (hpending : r.Stopping) (hfeed : r.feed = some task)
      (hstage : task.stage ≠ .ended) :
    Effect r .proceed { r with feed := some { task with cancelled := true } } none
  | closed {shutdown : Bool} (hpending : r.pending = some (.closing shutdown))
      (hfeed : r.FeedOver) :
    Effect r .proceed { r with feed := none, pending := none, down := r.down || shutdown } none
  -- the feed task
  | rests (hfeed : r.FeedOver) : Effect r .feed r none
  | stops {task : FeedTask} (hfeed : r.feed = some task) (hstage : task.stage.yields)
      (hstop : task.cancelled = true ∨ r.down = true) :
    Effect r .feed (r.setStage task .ended) none
  | asks {task : FeedTask} (h : r.Runs task .waiting) : Effect r .feed (r.openFeed task) none
  | unanswered {task : FeedTask} (h : r.Runs task .unanswered) : Effect r .feed r none
  | pulls {task : FeedTask} {feed : PageFeed} (h : r.Runs task (.reading feed)) :
    Effect r .feed (r.pull task feed) none
  | places {task : FeedTask} {e : PageEvent} {feed : PageFeed} {v : Viewer} {index total : Nat}
      (h : r.Runs task (.received e feed))
      (hv : Viewer.Effect r.viewer (.event task.session e) v (.outcome (.placed index total))) :
    Effect r .feed ((r.publish v).setStage task (.placed index total feed)) none
  | completes {task : FeedTask} {e : PageEvent} {feed : PageFeed} {v : Viewer} {pages : Nat}
      (h : r.Runs task (.received e feed))
      (hv : Viewer.Effect r.viewer (.event task.session e) v (.outcome (.complete pages))) :
    Effect r .feed ((r.publish v).setStage task (.completed pages)) none
  | stale {task : FeedTask} {e : PageEvent} {feed : PageFeed} {v : Viewer}
      (h : r.Runs task (.received e feed))
      (hv : Viewer.Effect r.viewer (.event task.session e) v (.outcome .stale)) :
    Effect r .feed ((r.publish v).setStage task .ended) none
  | rejects {task : FeedTask} {e : PageEvent} {feed : PageFeed} {v : Viewer} {error : ReadError}
      (h : r.Runs task (.received e feed))
      (hv : Viewer.Effect r.viewer (.event task.session e) v (.refused error)) :
    Effect r .feed ((r.publish v).setStage task (.failed error)) none
  | fails {task : FeedTask} {error : ReadError} {v : Viewer} (h : r.Runs task (.broken error))
      (hv : Viewer.Effect r.viewer (.fail task.session) v (.failed true)) :
    Effect r .feed ((r.publish v).setStage task (.failed error)) none
  | failsLate {task : FeedTask} {error : ReadError} (h : r.Runs task (.broken error))
      (hv : Viewer.Effect r.viewer (.fail task.session) r.viewer (.failed false)) :
    Effect r .feed (r.setStage task .ended) none
  | tellsPage {task : FeedTask} {index total : Nat} {feed : PageFeed}
      (h : r.Tells task (.placed index total feed)) :
    Effect r .feed
      ((r.tell (.pageRendered task.session index total)).setStage task (.reading feed)) none
  | tellsComplete {task : FeedTask} {pages : Nat} (h : r.Tells task (.completed pages)) :
    Effect r .feed
      ((r.tell (.chapterComplete task.session task.chapter.id pages)).setStage task .ended) none
  | tellsFailure {task : FeedTask} {error : ReadError} (h : r.Tells task (.failed error)) :
    Effect r .feed
      ((r.tell (.streamFailed task.session task.chapter.id error)).setStage task .ended) none
  -- time
  | notExpired : Effect r .expire r none
  | expires {task : FeedTask} {stage : FeedStage} (h : r.Runs task stage)
      (hstage : stage = .unanswered ∨
        ∃ feed : PageFeed, stage = .reading feed ∧ feed.next.1 = .blocked) :
    Effect r .expire (r.setStage task (.broken (late r.settings))) none
  -- the history tasks
  | recorded {i : Nat} {backend : Backend} {told : List ReaderEvent} {tasks : List HistoryTask}
      (htold : ∀ e ∈ told, e.isHistory) :
    Effect r (.history i) { r with backend, events := r.events ++ told, history := tasks } none

variable (r : Reader)

/-! ### Calls -/

theorem effect_call (c : Call) (hpending : r.pending = none) :
    Effect r (.call c) (r.call c).1 (some (r.call c).2) := by
  cases c with
  | loadIndex =>
    cases hfetch : r.library.chapters r.settings.manga r.backend with
    | mk result backend =>
      cases result with
      | ok index =>
        simp only [call, exchange, hfetch]
        exact .indexFetched hpending hfetch
      | error e =>
        simp only [call, exchange, hfetch]
        exact .indexNotFetched hpending hfetch
  | setTab tab => exact .tabSet hpending
  | select place =>
    have hv := Viewer.step_effect r.viewer (.select place)
    cases hplace : r.viewer.index.resolve place with
    | some chapter =>
      simp only [Viewer.step, Viewer.select, hplace, Viewer.Answer.ofExcept] at hv
      simp only [call, Viewer.select, hplace]
      exact .opened hpending rfl hv
    | none =>
      simp only [call, Viewer.select, hplace]
      exact .refused _ hpending hplace
  | navigate d =>
    have hv := Viewer.step_effect r.viewer (.navigate d)
    cases hnavigate : r.viewer.navigate d with
    | mk v ticket? =>
      simp only [Viewer.step, hnavigate] at hv
      simp only [call, hnavigate]
      cases ticket? with
      | some ticket => exact .opened hpending rfl hv
      | none =>
        have hsame : v = r.viewer := by
          cases hv with
          | stayed => rfl
        exact .stayed hpending (hsame ▸ hv)
  | close =>
    simp only [call, Viewer.close_fst]
    exact .closing hpending rfl
  | shutdown =>
    simp only [call, Viewer.close_fst]
    exact .closing hpending rfl

theorem afterFeed_eq (next : Reader → Reader) :
    r.FeedOver ∧ r.afterFeed next = next { r with feed := none } ∨
      ∃ task, r.feed = some task ∧ task.stage ≠ .ended ∧
        r.afterFeed next = { r with feed := some { task with cancelled := true } } := by
  cases hfeed : r.feed with
  | none =>
    have hnone : { r with feed := none } = r := by rw [← hfeed]
    refine .inl ⟨fun task htask => ?_, by simp only [afterFeed, hfeed, hnone]⟩
    rw [hfeed] at htask
    cases htask
  | some task =>
    by_cases hended : task.stage = .ended
    · refine .inl ⟨fun other hother => ?_, by simp only [afterFeed, hfeed, if_pos hended]⟩
      rw [hfeed, Option.some.injEq] at hother
      rw [← hother, hended]
    · exact .inr ⟨task, rfl, hended, by simp only [afterFeed, hfeed, if_neg hended]⟩

theorem effect_proceed : Effect r .proceed r.proceed none := by
  cases hpending : r.pending with
  | none =>
    simp only [proceed, hpending]
    exact .idle hpending
  | some pending =>
    cases pending with
    | loading index =>
      simp only [proceed, hpending]
      exact .indexTaken hpending
    | loaded chapters =>
      simp only [proceed, hpending]
      exact .indexTold hpending
    | opening ticket =>
      simp only [proceed, hpending]
      obtain ⟨hover, hnext⟩ | ⟨task, hfeed, hstage, hnext⟩ := r.afterFeed_eq (·.start ticket)
      · rw [hnext]
        exact .started hpending hover
      · rw [hnext]
        exact .cancelled (.opening hpending) hfeed hstage
    | closing shutdown =>
      simp only [proceed, hpending]
      obtain ⟨hover, hnext⟩ | ⟨task, hfeed, hstage, hnext⟩ := r.afterFeed_eq
        fun r => { r with pending := none, down := r.down || shutdown }
      · rw [hnext]
        exact .closed hpending hover
      · rw [hnext]
        exact .cancelled (.closing hpending) hfeed hstage

/-! ### The feed task -/

theorem openFeed_eq (task : FeedTask) :
    ∃ backend stage, stage.loads ∧ r.openFeed task = { r with backend }.setStage task stage := by
  cases hopening : r.library.client.openFeed task.chapter.id r.backend with
  | mk opening backend =>
    unfold openFeed
    rw [hopening]
    cases opening <;> exact ⟨backend, _, rfl, rfl⟩

theorem pull_eq (task : FeedTask) (feed : PageFeed) :
    ∃ stage, stage.loads ∧ r.pull task feed = r.setStage task stage := by
  cases hnext : feed.next with
  | mk pull rest =>
    unfold Reader.pull
    rw [hnext]
    cases pull <;> exact ⟨_, rfl, rfl⟩

section feed
variable {r} {task : FeedTask}

theorem effect_yields {next : Reader} (hfeed : r.feed = some task) (hstage : task.stage.yields)
    (hnext : r.Runs task task.stage → Effect r .feed next none) :
    Effect r .feed (if task.cancelled || r.down then r.setStage task .ended else next) none := by
  by_cases hstop : task.cancelled || r.down
  · rw [if_pos hstop]
    rw [Bool.or_eq_true] at hstop
    exact .stops hfeed hstage hstop
  · rw [if_neg hstop]
    rw [Bool.or_eq_true, not_or, Bool.not_eq_true, Bool.not_eq_true] at hstop
    exact hnext ⟨hfeed, rfl, hstop.1, hstop.2⟩

theorem effect_apply {e : PageEvent} {feed : PageFeed} (h : r.Runs task (.received e feed)) :
    Effect r .feed (r.apply task e feed) none := by
  have hv := Viewer.step_effect r.viewer (.event task.session e)
  cases happly : r.viewer.apply task.session e with
  | mk v result =>
    simp only [Viewer.step, happly] at hv
    simp only [apply, happly]
    cases result with
    | error error => exact .rejects h hv
    | ok outcome =>
      cases outcome with
      | placed index total => exact .places h hv
      | complete pages => exact .completes h hv
      | stale => exact .stale h hv

theorem effect_fail {error : ReadError} (h : r.Runs task (.broken error)) :
    Effect r .feed (r.fail task error) none := by
  have hv := Viewer.step_effect r.viewer (.fail task.session)
  cases hfail : r.viewer.fail task.session with
  | mk v wasOpen =>
    simp only [Viewer.step, hfail] at hv
    simp only [fail, hfail]
    cases wasOpen with
    | true => exact .fails h hv
    | false =>
      have hsame : v = r.viewer := by
        cases hv with
        | notFailed => rfl
      exact .failsLate h (hsame ▸ hv)

end feed

theorem effect_feed : Effect r .feed r.stepFeed none := by
  cases hfeed : r.feed with
  | none =>
    simp only [stepFeed, hfeed]
    refine .rests fun task htask => ?_
    rw [hfeed] at htask
    cases htask
  | some task =>
    cases hstage : task.stage with
    | waiting =>
      simp only [stepFeed, hfeed, hstage]
      exact effect_yields hfeed (by rw [hstage]; rfl) fun h => .asks (hstage ▸ h)
    | unanswered =>
      simp only [stepFeed, hfeed, hstage]
      exact effect_yields hfeed (by rw [hstage]; rfl) fun h => .unanswered (hstage ▸ h)
    | reading feed =>
      simp only [stepFeed, hfeed, hstage]
      exact effect_yields hfeed (by rw [hstage]; rfl) fun h => .pulls (hstage ▸ h)
    | received e feed =>
      simp only [stepFeed, hfeed, hstage]
      exact effect_yields hfeed (by rw [hstage]; rfl) fun h => effect_apply (hstage ▸ h)
    | placed index total feed =>
      simp only [stepFeed, hfeed, hstage]
      exact .tellsPage ⟨hfeed, hstage⟩
    | broken error =>
      simp only [stepFeed, hfeed, hstage]
      exact effect_yields hfeed (by rw [hstage]; rfl) fun h => effect_fail (hstage ▸ h)
    | completed pages =>
      simp only [stepFeed, hfeed, hstage]
      exact .tellsComplete ⟨hfeed, hstage⟩
    | failed error =>
      simp only [stepFeed, hfeed, hstage]
      exact .tellsFailure ⟨hfeed, hstage⟩
    | ended =>
      simp only [stepFeed, hfeed, hstage]
      refine .rests fun other hother => ?_
      rw [hfeed, Option.some.injEq] at hother
      rw [← hother, hstage]

theorem effect_expire : Effect r .expire r.expire none := by
  cases hfeed : r.feed with
  | none =>
    simp only [expire, hfeed]
    exact .notExpired
  | some task =>
    by_cases hstop : task.cancelled || r.down
    · simp only [expire, hfeed, if_pos hstop]
      exact .notExpired
    · have hstop' := hstop
      rw [Bool.or_eq_true, not_or, Bool.not_eq_true, Bool.not_eq_true] at hstop'
      obtain ⟨hcancelled, hdown⟩ := hstop'
      cases hstage : task.stage with
      | unanswered =>
        simp only [expire, hfeed, if_neg hstop, hstage]
        exact .expires ⟨hfeed, hstage, hcancelled, hdown⟩ (.inl rfl)
      | reading feed =>
        simp only [expire, hfeed, if_neg hstop, hstage]
        by_cases hblocked : feed.next.1 = .blocked
        · rw [if_pos hblocked]
          exact .expires ⟨hfeed, hstage, hcancelled, hdown⟩ (.inr ⟨feed, rfl, hblocked⟩)
        · rw [if_neg hblocked]
          exact .notExpired
      | _ =>
        simp only [expire, hfeed, if_neg hstop, hstage]
        exact .notExpired

/-! ### The history tasks -/

theorem effect_history (i : Nat) : Effect r (.history i) (r.stepHistory i) none := by
  have hnothing : ∀ {backend : Backend} {tasks : List HistoryTask},
      Effect r (.history i) { r with backend, history := tasks } none := by
    intro backend tasks
    have heffect : Effect r (.history i)
        { r with backend, events := r.events ++ [], history := tasks } none :=
      .recorded (by simp)
    rwa [List.append_nil] at heffect
  cases htask : r.history[i]? with
  | none =>
    simp only [stepHistory, htask]
    exact hnothing
  | some task =>
    cases hstage : task.stage with
    | recording =>
      by_cases hdown : r.down
      · simp only [stepHistory, htask, hstage, if_pos hdown]
        exact hnothing
      · cases hrecord : r.library.recordReading r.settings.manga task.chapter r.backend with
        | mk result backend =>
          cases result with
          | ok _ =>
            simp only [stepHistory, htask, hstage, if_neg hdown, exchange, hrecord]
            exact .recorded (by simp [ReaderEvent.isHistory])
          | error _ =>
            simp only [stepHistory, htask, hstage, if_neg hdown, exchange, hrecord]
            exact hnothing
    | refreshing =>
      cases hlast : r.library.lastRead r.settings.manga r.backend with
      | mk result backend =>
        cases result with
        | ok last =>
          simp only [stepHistory, htask, hstage, exchange, hlast]
          exact .recorded (by simp [ReaderEvent.isHistory])
        | error _ =>
          simp only [stepHistory, htask, hstage, exchange, hlast]
          exact hnothing

theorem step_effect (s : Step) : Effect r s (r.step s).1 (r.step s).2 := by
  cases s with
  | call c =>
    by_cases hpending : r.pending.isSome
    · simp only [step, if_pos hpending]
      exact .waits hpending
    · simp only [step, if_neg hpending]
      rw [Option.not_isSome_iff_eq_none] at hpending
      exact r.effect_call c hpending
  | proceed => exact r.effect_proceed
  | feed => exact r.effect_feed
  | expire => exact r.effect_expire
  | history i => exact r.effect_history i

end Reader

end MangaReader

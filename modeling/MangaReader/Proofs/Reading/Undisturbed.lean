import MangaReader.Proofs.Reading.Opening
import Mathlib.Algebra.GroupWithZero.Nat

/-!
# A chapter that is not disturbed

A chapter that is open first waits for the end of an older task (`Opens`), then its own task is on
its course (`Streams`). Steps that neither open nor close a chapter keep one or the other, in every
order (`OnCourse.step`, `OnCourse.run`), and the work that they do for the chapter is bounded by its
rank.

* `Reader.Move.keepsChapter` : whether a move neither opens nor closes a chapter.
* `Reader.Move.asks` : whether a move asks for the feed of a session.
* `Reader.Move.works`, `Reader.workOf` : whether a move brings the chapter of a session nearer to
  its end, and how many moves of a run do.
* `Reader.OnCourse` : the invariant of such a run.
-/

namespace MangaReader

open Backend Feed

def Pending.isOpening : Pending → Bool
  | .opening _ => true
  | .loading _ | .loaded _ | .closing _ => false

namespace Reader

namespace Move

/-- Whether a move neither opens nor closes a chapter. A call that has to wait does neither. -/
def keepsChapter (m : Move) : Bool :=
  match m.step, m.answer with
  | .call .close, some _ | .call .shutdown, some _ | .call _, some (.opened _) => false
  | _, _ => true

def asks (session : Nat) (m : Move) : Bool :=
  m.step = .feed && m.before.feed.any fun task => task.session = session && task.stage = .waiting

/-- Whether a move brings the chapter of a session nearer to its end: it changes something, and it
is a step of the session's task, of an older one that is cancelled, or of the call that starts the
task. -/
def works (session : Nat) (m : Move) : Bool :=
  m.after ≠ m.before &&
    match m.step with
    | .proceed => m.before.pending.any Pending.isOpening
    | .feed => m.before.feed.any fun task => task.session = session || task.cancelled
    | .call _ | .expire | .history _ => false

end Move

/-- A reader whose chapter is on its course, with what the listeners were told of sessions before it
was opened. -/
inductive OnCourse (session : Nat) (chapter : Chapter)
    (results : List (Except Failure PageEvent)) (before : List ReaderEvent) (atRest : Prop)
    (r : Reader) : Prop
  | opens {late : List ReaderEvent} (h : Opens session chapter before atRest r late)
  | streams {late told : List ReaderEvent} {stage : FeedStage}
      (hlate : ∀ e ∈ late, ∃ older < session, e.session? = some older) (hrest : atRest → late = [])
      (h : Streams session chapter results (before ++ late ++ [.sessionOpened session chapter])
        r stage told)

variable {session : Nat} {chapter : Chapter} {results : List (Except Failure PageEvent)}
  {before late told : List ReaderEvent} {atRest : Prop} {r r' : Reader} {stage : FeedStage}
  {s : Step} {a : Option Answer}

/-! ### Steps beside the feed task -/

theorem sessionEvents_of_history {events : List ReaderEvent} (h : ∀ e ∈ events, e.isHistory) :
    events.filter (·.session?.isSome) = [] := by
  rw [List.filter_eq_nil_iff]
  intro e he
  have hhistory := h e he
  cases e with
  | historyRecorded | lastRead => simp [ReaderEvent.session?]
  | _ => cases hhistory

theorem Streams.rank_eq (h : Streams session chapter results before r stage told) (n : Nat) :
    r.rank session n = stage.rank n := by
  rw [rank_of_feed h.feed, FeedTask.rank, if_pos rfl]

theorem Streams.not_expired {task : FeedTask}
    (h : Streams session chapter results before r stage told) {stage' : FeedStage}
    (hrun : r.Runs task stage')
    (hstage : stage' = .unanswered ∨
      ∃ feed : PageFeed, stage' = .reading feed ∧ feed.next.1 = .blocked) : False := by
  have hfeed := h.feed
  rw [hrun.feed, Option.some.injEq] at hfeed
  have hsame : stage' = stage := by rw [← hrun.stage, hfeed]
  subst hsame
  have hcourse := h.course
  rcases hstage with rfl | ⟨feed, rfl, hblocked⟩
  · cases hcourse
  · cases hcourse with
    | reading hv hrest hwhole => exact PageFeed.next_ne_blocked hwhole hblocked

theorem Streams.effect (h : Streams session chapter results before r stage told)
    (heffect : Effect r s r' a) (hs : s ≠ .feed) (hkeeps : Move.keepsChapter ⟨r, s, a⟩) :
    Streams session chapter results before r' stage told := by
  obtain ⟨hup, hpending, hfeed, hcourse, hevents⟩ := h
  cases heffect with
  | waits | indexNotFetched | refused | stayed | idle | notExpired =>
    exact ⟨hup, hpending, hfeed, hcourse, hevents⟩
  | indexFetched =>
    refine ⟨hup, ?_, hfeed, hcourse, hevents⟩
    intro rest hrest
    rw [← Option.some.inj hrest]
    rfl
  | tabSet => exact ⟨hup, hpending, hfeed, hcourse.of_same rfl rfl rfl, hevents⟩
  | @opened c => cases c <;> simp [Move.keepsChapter] at hkeeps
  | @closing c _ _ hc => cases c <;> simp [Call.closing?, Move.keepsChapter] at hc hkeeps
  | indexTaken =>
    refine ⟨hup, ?_, hfeed, hcourse.of_same rfl rfl rfl, hevents⟩
    intro rest hrest
    rw [← Option.some.inj hrest]
    rfl
  | indexTold =>
    refine ⟨hup, ?_, hfeed, hcourse, ?_⟩
    · intro rest hrest
      cases hrest
    · rw [← hevents]
      simp [sessionEvents, tell, ReaderEvent.session?]
  | started hopening => cases hpending _ hopening
  | cancelled hstopping =>
    cases hstopping with
    | opening hopening => cases hpending _ hopening
    | closing hclosing => cases hpending _ hclosing
  | closed hclosing => cases hpending _ hclosing
  | expires hrun hstage =>
    exact (Streams.not_expired ⟨hup, hpending, hfeed, hcourse, hevents⟩ hrun hstage).elim
  | recorded htold =>
    refine ⟨hup, hpending, hfeed, hcourse, ?_⟩
    rw [← hevents, sessionEvents, List.filter_append, sessionEvents_of_history htold,
      List.append_nil, sessionEvents]
  | _ => exact absurd rfl hs

/-! ### Every step -/

theorem Opens.effect (h : Opens session chapter before atRest r late)
    (heffect : Effect r s r' a) (hfeed : s ≠ .feed) (hproceed : s ≠ .proceed) (n : Nat) :
    Opens session chapter before atRest r' late ∧ r'.rank session n ≤ r.rank session n := by
  cases heffect with
  | waits | notExpired => exact ⟨h, Nat.le_refl _⟩
  | @expires task stage hrun hstage =>
    have hended : task.stage ≠ .ended := by
      rw [hrun.stage]
      rcases hstage with rfl | ⟨feed, rfl, -⟩ <;> nofun
    refine ⟨h.setStage hrun.feed hended _, ?_⟩
    have holder := h.older task hrun.feed
    have hdelay := delay_le { task with stage := .broken (Reader.late r.settings) }
    rw [rank_of_older hrun.feed holder, delay_of_running hended hrun.cancelled,
      rank_setStage_of_older holder]
    omega
  | recorded htold =>
    refine ⟨⟨h.up, h.pending, h.showing, h.older, ?_, h.late_older, h.rests⟩, Nat.le_refl _⟩
    rw [← h.events, sessionEvents, List.filter_append, sessionEvents_of_history htold,
      List.append_nil, sessionEvents]
  | indexFetched hnone | indexNotFetched hnone | tabSet hnone | opened hnone | refused _ hnone
  | stayed hnone | closing hnone =>
    rw [h.pending] at hnone
    cases hnone
  | _ => first | exact absurd rfl hfeed | exact absurd rfl hproceed

def Move.work (session : Nat) (m : Move) : Nat := if m.works session then 1 else 0

theorem work_of_same (h : (r.step s).1 = r) : Move.work session ⟨r, s, a⟩ = 0 := by
  simp [Move.work, Move.works, Move.after, h]

theorem work_of_beside (hfeed : s ≠ .feed) (hproceed : s ≠ .proceed) :
    Move.work session ⟨r, s, a⟩ = 0 := by
  cases s with
  | feed => exact absurd rfl hfeed
  | proceed => exact absurd rfl hproceed
  | call | expire | history => simp [Move.work, Move.works]

theorem work_le (session : Nat) (m : Move) : m.work session ≤ 1 := by
  unfold Move.work
  split <;> omega

theorem Opens.step_feed (h : Opens session chapter before atRest r late) :
    OnCourse session chapter results before atRest r.stepFeed ∧
      r.stepFeed.rank session results.length + Move.work session ⟨r, .feed, none⟩ ≤
        r.rank session results.length := by
  obtain ⟨-, hsame⟩ | @⟨task, stage, late', htask, hstage, hnext, hopens, hdelay⟩ := h.stepFeed
  · rw [work_of_same (s := .feed) hsame, hsame]
    exact ⟨.opens h, Nat.le_refl _⟩
  · have holder := h.older task htask
    refine ⟨.opens hopens, ?_⟩
    rw [rank_of_older hnext holder, rank_of_older htask holder]
    by_cases hcancelled : task.cancelled
    · have hless := hdelay hcancelled
      have hwork := work_le session ⟨r, .feed, none⟩
      omega
    · rw [Bool.not_eq_true] at hcancelled
      have hmost := delay_le { task with stage }
      have hwork : Move.work session ⟨r, .feed, none⟩ = 0 := by
        have hne : task.session ≠ session := by omega
        simp [Move.work, Move.works, htask, hcancelled, hne]
      rw [hwork, delay_of_running hstage hcancelled]
      omega

theorem Opens.step_proceed (h : Opens session chapter before atRest r late) :
    OnCourse session chapter results before atRest r.proceed ∧
      r.proceed.rank session results.length + Move.work session ⟨r, .proceed, none⟩ ≤
        r.rank session results.length := by
  have hwork := work_le session ⟨r, .proceed, none⟩
  obtain ⟨hover, hstreams⟩ | ⟨task, htask, hstage, hnext, hopens⟩ := h.proceed results
  · refine ⟨.streams h.late_older (fun hrest => (h.rests hrest).2) hstreams, ?_⟩
    rw [hstreams.rank_eq, h.rank_of_feedOver hover, FeedStage.rank]
    omega
  · refine ⟨.opens hopens, ?_⟩
    by_cases hcancelled : task.cancelled
    · have hsame : r.proceed = r := by rw [hnext, ← hcancelled, ← htask]
      rw [work_of_same (s := .proceed) hsame, hsame]
      exact Nat.le_refl _
    · rw [Bool.not_eq_true] at hcancelled
      have holder := h.older task htask
      have hafter : r.proceed.feed = some { task with cancelled := true } := by rw [hnext]
      have hmost : FeedTask.delay { task with cancelled := true } ≤ 2 := delay_of_cancelled rfl
      rw [rank_of_older hafter holder, rank_of_older htask holder,
        delay_of_running hstage hcancelled]
      omega

/-- **One step of a chapter whose task has not started**, and the work that it does. -/
theorem Opens.step (h : Opens session chapter before atRest r late) (s : Step) :
    OnCourse session chapter results before atRest (r.step s).1 ∧
      (r.step s).1.rank session results.length + Move.work session ⟨r, s, (r.step s).2⟩ ≤
        r.rank session results.length := by
  by_cases hfeed : s = .feed
  · subst hfeed
    exact h.step_feed
  by_cases hproceed : s = .proceed
  · subst hproceed
    exact h.step_proceed
  obtain ⟨hopens, hrank⟩ := h.effect (r.step_effect s) hfeed hproceed results.length
  rw [work_of_beside hfeed hproceed]
  exact ⟨.opens hopens, hrank⟩

/-- **One step of a chapter whose task is on its course**, and the work that it does. -/
theorem Streams.step {answer : Backend.Answer}
    (h : Streams session chapter results before r stage told)
    (hkeeps : Move.keepsChapter ⟨r, s, (r.step s).2⟩)
    (hanswer : Move.asks session ⟨r, s, (r.step s).2⟩ → r.feedAnswer? chapter.id = some answer)
    (hserves : Serves answer results) :
    ∃ stage' told', Streams session chapter results before (r.step s).1 stage' told' ∧
      stage'.rank results.length + Move.work session ⟨r, s, (r.step s).2⟩ ≤
        stage.rank results.length := by
  by_cases hfeed : s = .feed
  · subst hfeed
    have hserved : stage = .waiting → r.feedAnswer? chapter.id = some answer := by
      intro hwaiting
      apply hanswer
      simp [Move.asks, h.feed, hwaiting]
    obtain ⟨-, hsame⟩ | ⟨stage', told', hnext, hless⟩ := h.stepFeed hserved hserves
    · refine ⟨stage, told, ?_, ?_⟩
      · show Streams session chapter results before r.stepFeed stage told
        rw [hsame]
        exact h
      · rw [work_of_same (s := .feed) hsame]
        exact Nat.le_refl _
    · have hwork := work_le session ⟨r, .feed, (r.step .feed).2⟩
      exact ⟨stage', told', hnext, by omega⟩
  · refine ⟨stage, told, h.effect (r.step_effect s) hfeed hkeeps, ?_⟩
    have hwork : Move.work session ⟨r, s, (r.step s).2⟩ = 0 := by
      by_cases hproceed : s = .proceed
      · subst hproceed
        have hindex : ¬ r.pending.any Pending.isOpening := by
          cases hrest : r.pending with
          | none => simp
          | some rest =>
            have hisIndex := h.pending rest hrest
            cases rest <;> simp [Pending.isOpening, Pending.isIndex] at hisIndex ⊢
        simp [Move.work, Move.works, hindex]
      · exact work_of_beside hfeed hproceed
    rw [hwork]
    exact Nat.le_refl _

theorem OnCourse.step {answer : Backend.Answer}
    (h : OnCourse session chapter results before atRest r)
    (hkeeps : Move.keepsChapter ⟨r, s, (r.step s).2⟩)
    (hanswer : Move.asks session ⟨r, s, (r.step s).2⟩ → r.feedAnswer? chapter.id = some answer)
    (hserves : Serves answer results) :
    OnCourse session chapter results before atRest (r.step s).1 ∧
      (r.step s).1.rank session results.length + Move.work session ⟨r, s, (r.step s).2⟩ ≤
        r.rank session results.length := by
  cases h with
  | opens h => exact h.step s
  | streams hlate hrest h =>
    obtain ⟨stage', told', hnext, hrank⟩ := h.step hkeeps hanswer hserves
    rw [hnext.rank_eq, h.rank_eq]
    exact ⟨.streams hlate hrest hnext, hrank⟩

/-! ### Whole runs -/

def workOf (session : Nat) (r : Reader) (steps : List Step) : Nat :=
  ((r.moves steps).map (·.work session)).sum

/-- **A run in which a chapter is not disturbed keeps it on its course**, and does no more work for
it than there is. -/
theorem OnCourse.run {answer : Backend.Answer} {steps : List Step}
    (h : OnCourse session chapter results before atRest r)
    (hkeeps : ∀ m ∈ r.moves steps, m.keepsChapter)
    (hanswer : ∀ m ∈ r.moves steps, m.asks session →
      m.before.feedAnswer? chapter.id = some answer)
    (hserves : Serves answer results) :
    OnCourse session chapter results before atRest (r.run steps).1 ∧
      (r.run steps).1.rank session results.length + workOf session r steps ≤
        r.rank session results.length := by
  induction steps generalizing r with
  | nil => exact ⟨h, Nat.le_refl _⟩
  | cons s steps ih =>
    rw [moves_cons, List.forall_mem_cons] at hkeeps hanswer
    obtain ⟨hnext, hfirst⟩ := h.step hkeeps.1 hanswer.1 hserves
    obtain ⟨hlast, hrest⟩ := ih hnext hkeeps.2 hanswer.2
    refine ⟨hlast, ?_⟩
    rw [run_cons_fst, workOf, moves_cons, List.map_cons, List.sum_cons, ← workOf]
    omega

end Reader

end MangaReader

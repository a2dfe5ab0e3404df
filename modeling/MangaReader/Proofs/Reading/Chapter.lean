import MangaReader.Proofs.Reading.Undisturbed

/-!
# One chapter from its opening to its end

A chapter that is opened and not disturbed comes to its end, in every order of the steps of calls
and tasks, and what the listeners are told of it is a matter of the results that its feed delivers.

* `Reader.Finished` : no step brings the chapter of a session nearer to its end.
* `Reader.onCourse_of_opened` : a chapter that is opened is on its course.
* `Reader.chapter_told` : what is told of a chapter, and what is left of it.
-/

namespace MangaReader.Reader

open Backend Feed

/-- No step brings the chapter of a session nearer to its end. -/
def Finished (session : Nat) (r : Reader) : Prop :=
  ∀ s, Move.works session ⟨r, s, (r.step s).2⟩ = false

variable {session : Nat} {chapter : Chapter} {results : List (Except Failure PageEvent)}
  {before late told : List ReaderEvent} {atRest : Prop} {r r' : Reader} {stage : FeedStage}

/-! ### The start and the end -/

/-- **A chapter that is opened is on its course**, and a few steps away from the start of its
task. -/
theorem onCourse_of_opened {c : Call} {ticket : Ticket} (hr : Coherent r) (hup : r.down = false)
    (hopen : r.step (.call c) = (r', some (.opened ticket)))
    (results : List (Except Failure PageEvent)) :
    OnCourse ticket.session ticket.chapter results r.sessionEvents r.FeedOver r' ∧
      r'.rank ticket.session results.length ≤ 3 * results.length + 8 := by
  have heffect := r.step_effect (.call c)
  rw [hopen] at heffect
  cases heffect with
  | @opened _ _ v _ hpending hop hv =>
    have hnew := hv.lt_ticket rfl
    have hopens : Opens ticket.session ticket.chapter r.sessionEvents r.FeedOver
        { r.publish v with pending := some (.opening ticket) } [] := by
      refine ⟨hup, rfl, hv.showing_of_opened rfl, ?_, ?_, ?_, ?_⟩
      · intro task htask
        exact Nat.lt_of_le_of_lt (hr.feed task htask) hnew
      · rw [List.append_nil]
        rfl
      · intro e he
        cases he
      · exact fun hover => ⟨hover, rfl⟩
    exact ⟨.opens hopens, hopens.rank_le _⟩

theorem Opens.not_finished (h : Opens session chapter before atRest r late) :
    ¬ r.Finished session := by
  intro hfinished
  have hproceed : r.proceed = r := by
    have hworks := hfinished .proceed
    simp only [Move.works, h.pending, Option.any_some, Pending.isOpening, Bool.and_true,
      decide_eq_false_iff_not, not_not] at hworks
    exact hworks
  obtain ⟨-, hstreams⟩ | ⟨task, htask, hstage, hnext, -⟩ := h.proceed []
  · rw [hproceed] at hstreams
    exact absurd (h.older _ hstreams.feed) (Nat.lt_irrefl _)
  · have hcancelled : task.cancelled = true := by
      rw [hproceed] at hnext
      rw [hnext, Option.some.injEq] at htask
      rw [← htask]
    have hfeed : r.stepFeed = r := by
      have hworks := hfinished .feed
      simp only [Move.works, htask, Option.any_some, hcancelled, Bool.or_true, Bool.and_true,
        decide_eq_false_iff_not, not_not] at hworks
      exact hworks
    obtain ⟨hover, -⟩ | ⟨hother, -, hafter, -, hdelay⟩ := h.stepFeed
    · exact hstage (hover task htask)
    · rw [htask, Option.some.injEq] at hother
      subst hother
      rw [hfeed, htask, Option.some.injEq] at hafter
      have hless := hdelay hcancelled
      rw [← hafter] at hless
      exact Nat.lt_irrefl _ hless

theorem Streams.ended_of_finished {answer : Backend.Answer}
    (h : Streams session chapter results before r stage told) (hfinished : r.Finished session)
    (hserves : Serves answer results) : stage = .ended := by
  have hsame : r.stepFeed = r := by
    have hworks := hfinished .feed
    simp only [Move.works, h.feed, Option.any_some, decide_true, Bool.true_or, Bool.and_true,
      decide_eq_false_iff_not, not_not] at hworks
    exact hworks
  by_cases hwaiting : stage = .waiting
  · subst hwaiting
    -- the request is sent, whatever comes of it
    have hstep : r.stepFeed = r.openFeed { session, chapter } := by
      simp [Reader.stepFeed, h.feed, h.up]
    have hfeed := congrArg Reader.feed (hstep.symm.trans hsame)
    rw [h.feed] at hfeed
    cases hopening : r.library.client.openFeed chapter.id r.backend with
    | mk opening backend =>
      cases opening <;> simp [openFeed, hopening, setStage] at hfeed
  · obtain ⟨hended, -⟩ | ⟨stage', told', hnext, hless⟩ :=
      h.stepFeed (fun h => absurd h hwaiting) hserves
    · exact hended
    · rw [hsame] at hnext
      have hfeed := hnext.feed
      rw [h.feed, Option.some.injEq, FeedTask.mk.injEq] at hfeed
      rw [hfeed.2.2.1] at hless
      exact absurd hless (Nat.lt_irrefl _)

/-- **What is told of a chapter, and what is left of it.** Let a reader that is not shut down open a
chapter, whatever an older task is doing, and let steps of calls and tasks follow in any order, none
of which opens or closes a chapter. Let the request for the feed be answered with success and a
whole body, of any bytes in any chunks.

The steps that bring the chapter nearer to its end are at most three for each result of the body and
eight more; and where no step does, the chapter is at its end. By then the listeners were told that
the session is open, of each page that is shown, in their order, and at last of the one end: that
the chapter is complete, if all pages fit and the last result is the mark of the end, and else of a
failure, which is not that time ran out. Of no other session were they told anything since, but of
that of an older task, if one was running. The reader is seen to be idle, the session is complete or
closed, and the pages that were shown are in their slots. -/
theorem chapter_told {r opened final : Reader} (c : Call) {ticket : Ticket} (steps : List Step)
    (answer : Backend.Answer) (hr : Reachable r) (hup : r.down = false)
    (hopen : r.step (.call c) = (opened, some (.opened ticket)))
    (hrun : (opened.run steps).1 = final)
    (hkeeps : ∀ m ∈ opened.moves steps, m.keepsChapter)
    (hanswer : ∀ m ∈ opened.moves steps, m.asks ticket.session →
      m.before.feedAnswer? ticket.chapter.id = some answer)
    (hsuccess : answer.isSuccess) (hwhole : answer.body.ending = .complete) :
    workOf ticket.session opened steps ≤ 3 * (resultsOf answer.body).length + 8 ∧
      (final.Finished ticket.session → ∃ late last,
        final.sessionEvents = r.sessionEvents ++ late ++
            .sessionOpened ticket.session ticket.chapter ::
          renderings ticket.session (totalOf (resultsOf answer.body))
            (shownOf (resultsOf answer.body)) ++ [last] ∧
        (∀ e ∈ late, ∃ older < ticket.session, e.session? = some older) ∧
        (r.FeedOver → late = []) ∧
        (Completes (resultsOf answer.body) →
          last = .chapterComplete ticket.session ticket.chapter.id
              (totalOf (resultsOf answer.body)) ∧
            ∃ s, final.viewer.session = some s ∧ s.id = ticket.session ∧ s.complete = true) ∧
        (¬ Completes (resultsOf answer.body) →
          (∃ error, last = .streamFailed ticket.session ticket.chapter.id error ∧
              error.isTimeout = false) ∧
            final.viewer.session = none) ∧
        final.published = .idle ∧
        final.viewer.Holds (shownOf (resultsOf answer.body))) := by
  obtain ⟨hcourse, hrank⟩ :=
    onCourse_of_opened hr.coherent hup hopen (resultsOf answer.body)
  have hserves : Serves answer (resultsOf answer.body) := ⟨hsuccess, hwhole, rfl⟩
  obtain ⟨hend, hwork⟩ := hcourse.run hkeeps hanswer hserves
  have hcoherent : Coherent final := by
    have hopened := (r.step_effect (.call c)).coherent hr.coherent
    rw [hopen] at hopened
    rw [← hrun]
    exact hopened.run steps
  rw [hrun] at hend hwork
  refine ⟨by omega, fun hfinished => ?_⟩
  cases hend with
  | opens h => exact absurd hfinished h.not_finished
  | @streams late told stage hlate hrest h =>
    have hstage := h.ended_of_finished hfinished hserves
    subst hstage
    have hevents := h.events
    have hend := h.course
    cases hend with
    | toldComplete hv =>
      obtain ⟨⟨s, hs, hid, hcomplete⟩, hcompletes, hholds⟩ := hv
      refine ⟨late, _, ?_, hlate, hrest, fun _ => ⟨rfl, s, hs, hid, hcomplete⟩,
        fun hnot => absurd hcompletes hnot, ?_, hholds⟩
      · rw [hevents]
        simp
      · rw [hcoherent.published, Viewer.state, hs]
        simp [hcomplete]
    | toldFailure message hv =>
      obtain ⟨hs, hbreaks, hholds⟩ := hv
      refine ⟨late, _, ?_, hlate, hrest, fun hcompletes => absurd hcompletes hbreaks,
        fun _ => ⟨⟨.stream message, rfl, rfl⟩, hs⟩, ?_, hholds⟩
      · rw [hevents]
        simp
      · rw [hcoherent.published, Viewer.state, hs]

/-! ### A chapter that fails -/

def sampleSettings : ReaderSettings where
  server := { scheme := "http", host := some "reader", path := .segments [""] }
  manga := 3

def sampleLibrary : Library := ⟨⟨sampleSettings.server, none⟩, {}⟩

/-- A backend of one chapter, whose feed is cut inside a line and holds no page. -/
def sampleBackend : Backend where
  origin := some "http://reader"
  routes :=
    [⟨.get, "/api/chapters",
        [.answer ⟨200, ⟨["\x7b\"Chapter\":[\x7b\"id\":7,\"title\":\"1\"\x7d]\x7d".toUTF8.toList],
          .complete⟩⟩]⟩,
      ⟨.get, "/api/pages",
        [.answer ⟨200, ⟨["da".toUTF8.toList, "ta:x\n\n".toUTF8.toList], .complete⟩⟩]⟩]

/-- A reader of that backend that has taken the index. -/
def sampleReader : Reader where
  settings := sampleSettings
  library := sampleLibrary
  backend := { sampleBackend with
    received := [{
      method := .get
      url := { sampleSettings.server with
        path := .segments ["api", "chapters"], query := some "manga_id=3" } }] }
  viewer := ({} : Viewer).replaceIndex (.ofGroups [(.chapter, [(7, "1")])])
  events := [.indexLoaded 1]

theorem reachable_sampleReader : Reachable sampleReader := by
  have hrun : ((ofLibrary sampleSettings sampleLibrary sampleBackend).run
      [.call .loadIndex, .proceed, .proceed]).1 = sampleReader := by decide +kernel
  rw [← hrun]
  exact .run _ _ _ _

/-- The only chapter fails at a text that is no page, with other steps in between. -/
theorem chapter_told_malformed :
    ∃ opened final, sampleReader.step (.call (.select ⟨.chapter, 0⟩)) =
        (opened, some (.opened ⟨1, ⟨7, "1", .chapter, 0⟩⟩)) ∧
      (opened.run [.proceed, .feed, .call (.setTab .misc), .expire, .feed, .feed, .feed]).1 =
        final ∧
      final.published = .idle ∧ final.viewer.session = none := by
  refine ⟨_, _, rfl, rfl, ?_⟩
  obtain ⟨-, hend⟩ := chapter_told (.select ⟨.chapter, 0⟩)
    [.proceed, .feed, .call (.setTab .misc), .expire, .feed, .feed, .feed]
    ⟨200, ⟨["da".toUTF8.toList, "ta:x\n\n".toUTF8.toList], .complete⟩⟩
    reachable_sampleReader rfl rfl rfl (by decide +kernel) (by decide +kernel) rfl rfl
  obtain ⟨late, last, -, -, -, -, hfailed, hidle, -⟩ := hend (by
    intro s
    cases s with
    | proceed | feed => decide +kernel
    | call | expire | history => simp [Move.works])
  refine ⟨hidle, (hfailed ?_).2⟩
  rintro ⟨-, hlast⟩
  exact absurd hlast (by decide +kernel)

end MangaReader.Reader

import MangaReader.Proofs.Reading.Effect
import MangaReader.Proofs.Reading.Results
import MangaReader.Proofs.Viewer.Placement

/-!
# The course of a feed task

While the feed of a chapter is read, the stage of its task, the viewer and what the listeners were
told are determined by the results that were taken from the feed: this is the relation `Course`, one
case per stage. Every step of the task leads from one case to another (`Streams.stepFeed`), and to
one of a lesser rank, so that the task comes to its end.

* `Reader.Completed`, `Reader.Failed` : the viewer at the end of a chapter.
* `Reader.Course` : the stages of a task.
* `Reader.Streams` : a reader whose task is on its course; `Streams.stepFeed` is the next step.
* `FeedStage.rank` : a bound of the number of steps that are left.
-/

namespace MangaReader

open Backend Feed

def Pending.isIndex : Pending → Bool
  | .loading _ | .loaded _ => true
  | .opening _ | .closing _ => false

/-- A bound of the number of steps that are left at a stage: every result takes three. -/
def FeedStage.rank (results : Nat) : FeedStage → Nat
  | .waiting => 3 * results + 4
  | .reading feed => 3 * feed.remaining.length + 3
  | .received _ feed => 3 * feed.remaining.length + 5
  | .placed _ _ feed => 3 * feed.remaining.length + 4
  | .broken _ => 2
  | .completed _ | .failed _ => 1
  | .unanswered | .ended => 0

namespace Reader

/-- The answer of the backend to the request of the feed of a chapter, if one arrives. -/
def feedAnswer? (r : Reader) (chapter : Int) : Option Backend.Answer :=
  match r.library.client.feedRequest chapter with
  | .ok request => (r.backend.send request).1.toOption
  | .error _ => none

/-- A successful answer with a whole body, which holds some results. -/
structure Serves (answer : Backend.Answer) (results : List (Except Failure PageEvent)) : Prop where
  success : answer.isSuccess
  whole : answer.body.ending = .complete
  results : results = resultsOf answer.body

def sessionEvents (r : Reader) : List ReaderEvent := r.events.filter (·.session?.isSome)

def renderings (session total : Nat) (pages : List PageDescriptor) : List ReaderEvent :=
  pages.map fun page => .pageRendered session page.index total

/-- A viewer whose session is complete, with all pages of some results in their slots. -/
structure Completed (session : Nat) (results : List (Except Failure PageEvent)) (v : Viewer) :
    Prop where
  session : ∃ s, v.session = some s ∧ s.id = session ∧ s.complete = true
  completes : Completes results
  holds : v.Holds (shownOf results)

/-- A viewer whose session was closed for an error, with the pages before it in their slots. -/
structure Failed (results : List (Except Failure PageEvent)) (v : Viewer) : Prop where
  session : v.session = none
  breaks : ¬ Completes results
  holds : v.Holds (shownOf results)

/-- **The stages of the task of a chapter** whose feed delivers some results, and what the listeners
were told of its pages and its end. -/
inductive Course (session : Nat) (chapter : Chapter) (results : List (Except Failure PageEvent))
    (v : Viewer) : FeedStage → List ReaderEvent → Prop
  | waiting (hv : v.Showing session chapter []) : Course session chapter results v .waiting []
  | reading {pages : List PageDescriptor} {feed : PageFeed} (hv : v.Showing session chapter pages)
      (hrest : results = asPages pages ++ feed.remaining)
      (hwhole : feed.body.ending = .complete) :
    Course session chapter results v (.reading feed) (renderings session (totalOf results) pages)
  | received {pages : List PageDescriptor} {e : PageEvent} {feed : PageFeed}
      (hv : v.Showing session chapter pages)
      (hrest : results = asPages pages ++ .ok e :: feed.remaining)
      (hlast : e = .terminal → feed.remaining = [])
      (hwhole : feed.body.ending = .complete) :
    Course session chapter results v (.received e feed)
      (renderings session (totalOf results) pages)
  | placed {pages : List PageDescriptor} {page : PageDescriptor} {feed : PageFeed}
      (hv : v.Showing session chapter (pages ++ [page]))
      (hrest : results = asPages (pages ++ [page]) ++ feed.remaining)
      (hwhole : feed.body.ending = .complete) :
    Course session chapter results v (.placed page.index (totalOf results) feed)
      (renderings session (totalOf results) pages)
  | broken {pages : List PageDescriptor} (message : String) (hv : v.Showing session chapter pages)
      (hbreaks : Breaks results pages) :
    Course session chapter results v (.broken (.stream message))
      (renderings session (totalOf results) pages)
  | completed (hv : Completed session results v) :
    Course session chapter results v (.completed (totalOf results))
      (renderings session (totalOf results) (shownOf results))
  | failed (message : String) (hv : Failed results v) :
    Course session chapter results v (.failed (.stream message))
      (renderings session (totalOf results) (shownOf results))
  | toldComplete (hv : Completed session results v) :
    Course session chapter results v .ended
      (renderings session (totalOf results) (shownOf results) ++
        [.chapterComplete session chapter.id (totalOf results)])
  | toldFailure (message : String) (hv : Failed results v) :
    Course session chapter results v .ended
      (renderings session (totalOf results) (shownOf results) ++
        [.streamFailed session chapter.id (.stream message)])

/-- A reader whose feed task is on the course of a chapter, with what the listeners were told of
sessions before and of this one. -/
structure Streams (session : Nat) (chapter : Chapter) (results : List (Except Failure PageEvent))
    (before : List ReaderEvent) (r : Reader) (stage : FeedStage) (told : List ReaderEvent) :
    Prop where
  up : r.down = false
  pending : ∀ rest, r.pending = some rest → rest.isIndex
  feed : r.feed = some { session, chapter, stage }
  course : Course session chapter results r.viewer stage told
  events : r.sessionEvents = before ++ told

variable {session : Nat} {chapter : Chapter} {results : List (Except Failure PageEvent)}
  {before told : List ReaderEvent} {r : Reader} {v v' : Viewer} {stage : FeedStage}
  {pages : List PageDescriptor}

/-! ### Events -/

theorem sessionEvents_tell (r : Reader) {e : ReaderEvent} (he : e.session?.isSome) :
    (r.tell e).sessionEvents = r.sessionEvents ++ [e] := by
  simp [sessionEvents, tell, he]

theorem renderings_concat (total : Nat) (page : PageDescriptor) :
    renderings session total (pages ++ [page]) =
      renderings session total pages ++ [.pageRendered session page.index total] := by
  rw [renderings, List.map_append]
  rfl

/-! ### What a course is about -/

theorem Course.of_same (h : Course session chapter results v stage told)
    (hsession : v'.session = v.session) (hslots : v'.surface.slots = v.surface.slots)
    (hassets : v'.assets = v.assets) : Course session chapter results v' stage told := by
  have hshowing : ∀ {pages}, v.Showing session chapter pages →
      v'.Showing session chapter pages := by
    intro pages hv
    refine ⟨hsession.trans hv.session, ?_, hv.fits⟩
    rw [hslots, hassets, hv.slots]
  have hholds : ∀ {pages}, v.Holds pages → v'.Holds pages := by
    intro pages hv i page hlast
    rw [hslots, hassets]
    exact hv i page hlast
  have hcompleted : Completed session results v → Completed session results v' := by
    rintro ⟨hs, hcompletes, hv⟩
    exact ⟨hsession ▸ hs, hcompletes, hholds hv⟩
  have hfailed : Failed results v → Failed results v' := by
    rintro ⟨hs, hbreaks, hv⟩
    exact ⟨hsession.trans hs, hbreaks, hholds hv⟩
  cases h with
  | waiting hv => exact .waiting (hshowing hv)
  | reading hv hrest hwhole => exact .reading (hshowing hv) hrest hwhole
  | received hv hrest hlast hwhole => exact .received (hshowing hv) hrest hlast hwhole
  | placed hv hrest hwhole => exact .placed (hshowing hv) hrest hwhole
  | broken message hv hbreaks => exact .broken message (hshowing hv) hbreaks
  | completed hv => exact .completed (hcompleted hv)
  | failed message hv => exact .failed message (hfailed hv)
  | toldComplete hv => exact .toldComplete (hcompleted hv)
  | toldFailure message hv => exact .toldFailure message (hfailed hv)

/-! ### The steps of the task -/

theorem openFeed_of_feedAnswer {chapter : Int} {answer : Backend.Answer}
    (h : r.feedAnswer? chapter = some answer) (hsuccess : answer.isSuccess) :
    ∃ backend, r.library.client.openFeed chapter r.backend =
      (.opened { body := answer.body }, backend) := by
  unfold feedAnswer? at h
  cases hrequest : r.library.client.feedRequest chapter with
  | error f => simp [hrequest] at h
  | ok request =>
    cases hsend : r.backend.send request with
    | mk outcome backend =>
      simp only [hrequest, hsend] at h
      cases outcome with
      | error fault => cases h
      | ok arrived =>
        have harrived : arrived = answer := Option.some.inj h
        refine ⟨backend, ?_⟩
        simp only [Client.openFeed, hrequest, hsend, Client.feedOf, harrived, hsuccess, if_true]

theorem Streams.stepFeed_waiting {answer : Backend.Answer}
    (h : Streams session chapter results before r .waiting told)
    (hanswer : r.feedAnswer? chapter.id = some answer) (hserves : Serves answer results) :
    Streams session chapter results before r.stepFeed (.reading { body := answer.body }) told := by
  obtain ⟨backend, hopen⟩ := openFeed_of_feedAnswer hanswer hserves.success
  have hstep : r.stepFeed = { r with backend }.setStage { session, chapter, stage := .waiting }
      (.reading { body := answer.body }) := by
    simp [stepFeed, h.feed, h.up, openFeed, hopen]
  have hcourse := h.course
  cases hcourse with
  | waiting hv =>
    have hread : Course session chapter results r.viewer (.reading { body := answer.body })
        (renderings session (totalOf results) []) := .reading hv hserves.results hserves.whole
    rw [hstep]
    exact ⟨h.up, h.pending, rfl, hread, h.events⟩

theorem Streams.stepFeed_reading {feed : PageFeed}
    (h : Streams session chapter results before r (.reading feed) told) :
    ∃ stage', Streams session chapter results before r.stepFeed stage' told ∧
      stage'.rank results.length < 3 * feed.remaining.length + 3 := by
  have hstep : r.stepFeed = r.pull { session, chapter, stage := .reading feed } feed := by
    simp [stepFeed, h.feed, h.up]
  have hcourse := h.course
  cases hcourse with
  | reading hv hrest hwhole =>
    cases hremaining : feed.remaining with
    | nil =>
      have hover : feed.next.1 = .over := PageFeed.next_of_remaining_nil hwhole hremaining
      rw [hremaining, List.append_nil] at hrest
      refine ⟨.broken earlyEnd, ?_, by simp [FeedStage.rank]⟩
      rw [hstep, pull, ← Prod.eta feed.next, hover]
      exact ⟨h.up, h.pending, rfl, .broken _ hv (.early hrest), h.events⟩
    | cons result others =>
      rw [hremaining] at hrest
      cases result with
      | error f =>
        obtain ⟨hfailed, hothers⟩ := PageFeed.next_of_remaining_error hremaining
        refine ⟨.broken (streamError f), ?_, by simp [FeedStage.rank]⟩
        rw [hstep, pull, ← Prod.eta feed.next, hfailed]
        subst hothers
        exact ⟨h.up, h.pending, rfl, .broken _ hv (.faulty hrest), h.events⟩
      | ok e =>
        obtain ⟨after, hnext, hafter, hending⟩ := PageFeed.next_of_remaining_ok hremaining
        refine ⟨.received e after, ?_, by simp [FeedStage.rank, hafter]; omega⟩
        rw [hstep, pull, hnext]
        rw [← hafter] at hrest
        refine ⟨h.up, h.pending, rfl, .received hv hrest ?_ (hending.trans hwhole), h.events⟩
        intro hterminal
        subst hterminal
        rw [hafter]
        exact PageFeed.remaining_of_terminal hremaining

theorem Streams.stepFeed_received {e : PageEvent} {feed : PageFeed}
    (h : Streams session chapter results before r (.received e feed) told) :
    ∃ stage', Streams session chapter results before r.stepFeed stage' told ∧
      stage'.rank results.length < 3 * feed.remaining.length + 5 := by
  have hstep : r.stepFeed = r.apply { session, chapter, stage := .received e feed } e feed := by
    simp [stepFeed, h.feed, h.up]
  have hcourse := h.course
  cases hcourse with
  | @received pages _ _ hv hrest hlast hwhole =>
    cases e with
    | terminal =>
      rw [hlast rfl] at hrest
      obtain ⟨hshown, hcompletes, htotal⟩ :=
        shownOf_of_terminal hrest (fits_totalOf hrest hv.fits)
      subst hshown
      refine ⟨.completed (totalOf results), ?_, by simp [FeedStage.rank]⟩
      rw [hstep, apply, hv.apply_terminal, ← htotal]
      exact ⟨h.up, h.pending, rfl, .completed ⟨⟨_, rfl, rfl, rfl⟩, hcompletes, hv.holds⟩, h.events⟩
    | page page =>
      have htotal := totalOf_of_page hrest
      by_cases hpage : page.Fits ((announced pages).getD page.total)
      · obtain ⟨v', happly, hv'⟩ := hv.apply_page hpage
        refine ⟨.placed page.index (totalOf results) feed, ?_, by simp [FeedStage.rank]⟩
        rw [hstep, apply, happly, htotal]
        refine ⟨h.up, h.pending, rfl, .placed hv' ?_ hwhole, h.events⟩
        rw [hrest, asPages_concat, List.append_assoc, List.singleton_append]
      · obtain ⟨v', message, happly, hsession, hholds⟩ := hv.apply_misfit hpage
        rw [htotal] at hpage
        obtain ⟨hshown, hbreaks⟩ :=
          (Breaks.misfit hrest hpage).shownOf_eq (fits_totalOf hrest hv.fits)
        subst hshown
        refine ⟨.failed (.stream message), ?_, by simp [FeedStage.rank]⟩
        rw [hstep, apply, happly]
        exact ⟨h.up, h.pending, rfl, .failed message ⟨hsession, hbreaks, hholds⟩, h.events⟩

theorem Streams.stepFeed_broken {error : ReadError}
    (h : Streams session chapter results before r (.broken error) told) :
    ∃ stage', Streams session chapter results before r.stepFeed stage' told ∧
      stage'.rank results.length < 2 := by
  have hstep : r.stepFeed = r.fail { session, chapter, stage := .broken error } error := by
    simp [stepFeed, h.feed, h.up]
  have hcourse := h.course
  cases hcourse with
  | @broken pages message hv hbreaks =>
    have hfits : ∀ p ∈ pages, p.Fits (totalOf results) := by
      cases hbreaks with
      | early hrest => exact fits_totalOf (by rw [hrest, List.append_nil]) hv.fits
      | faulty hrest | misfit hrest => exact fits_totalOf hrest hv.fits
    obtain ⟨hshown, hincomplete⟩ := hbreaks.shownOf_eq hfits
    subst hshown
    refine ⟨.failed (.stream message), ?_, by simp [FeedStage.rank]⟩
    rw [hstep, fail, hv.fail_eq]
    exact ⟨h.up, h.pending, rfl, .failed message ⟨rfl, hincomplete, hv.holds⟩, h.events⟩

theorem Streams.tells (h : Streams session chapter results before r stage told) {e : ReaderEvent}
    {stage' : FeedStage} (he : e.session?.isSome)
    (hcourse : Course session chapter results r.viewer stage' (told ++ [e])) :
    Streams session chapter results before
      ((r.tell e).setStage { session, chapter, stage } stage') stage' (told ++ [e]) := by
  refine ⟨h.up, h.pending, rfl, hcourse, ?_⟩
  rw [← List.append_assoc, ← h.events]
  exact sessionEvents_tell r he

/-- **The task takes one step on its course**, to a lesser rank, unless it has ended. -/
theorem Streams.stepFeed {answer : Backend.Answer}
    (h : Streams session chapter results before r stage told)
    (hanswer : stage = .waiting → r.feedAnswer? chapter.id = some answer)
    (hserves : Serves answer results) :
    stage = .ended ∧ r.stepFeed = r ∨
      ∃ stage' told', Streams session chapter results before r.stepFeed stage' told' ∧
        stage'.rank results.length < stage.rank results.length := by
  have hcourse := h.course
  cases hcourse with
  | waiting =>
    refine .inr ⟨_, _, h.stepFeed_waiting (hanswer rfl) hserves, ?_⟩
    rw [FeedStage.rank, FeedStage.rank, PageFeed.remaining_of_body, ← hserves.results]
    omega
  | reading =>
    obtain ⟨stage', hnext, hrank⟩ := h.stepFeed_reading
    exact .inr ⟨stage', _, hnext, hrank⟩
  | received =>
    obtain ⟨stage', hnext, hrank⟩ := h.stepFeed_received
    exact .inr ⟨stage', _, hnext, hrank⟩
  | broken =>
    obtain ⟨stage', hnext, hrank⟩ := h.stepFeed_broken
    exact .inr ⟨stage', _, hnext, hrank⟩
  | @placed pages page feed hv hrest hwhole =>
    have hstep : r.stepFeed = (r.tell (.pageRendered session page.index (totalOf results))).setStage
        { session, chapter, stage := .placed page.index (totalOf results) feed }
        (.reading feed) := by
      simp [Reader.stepFeed, h.feed]
    have hread := Course.reading hv hrest hwhole
    rw [renderings_concat] at hread
    rw [hstep]
    exact .inr ⟨_, _, h.tells rfl hread, by simp [FeedStage.rank]⟩
  | completed hv =>
    have hstep : r.stepFeed =
        (r.tell (.chapterComplete session chapter.id (totalOf results))).setStage
          { session, chapter, stage := .completed (totalOf results) } .ended := by
      simp [Reader.stepFeed, h.feed]
    rw [hstep]
    exact .inr ⟨_, _, h.tells rfl (.toldComplete hv), by simp [FeedStage.rank]⟩
  | failed message hv =>
    have hstep : r.stepFeed =
        (r.tell (.streamFailed session chapter.id (.stream message))).setStage
          { session, chapter, stage := .failed (.stream message) } .ended := by
      simp [Reader.stepFeed, h.feed]
    rw [hstep]
    exact .inr ⟨_, _, h.tells rfl (.toldFailure message hv), by simp [FeedStage.rank]⟩
  | toldComplete | toldFailure =>
    refine .inl ⟨rfl, ?_⟩
    simp [Reader.stepFeed, h.feed]

end Reader

end MangaReader

import MangaReader.Proofs.Reading.Loading
import MangaReader.Proofs.Reading.Verdict
import MangaReader.Proofs.Viewer.Placement

/-!
# Waiting for the end of a chapter

Who waits for the end of a chapter that was just opened lets its feed task run until it can go no
further, and time run out if the chapter is not at its end then. The number of steps that the task
is given is enough for every answer of the backend: every result takes at most three, and there are
no more results than bytes. So the wait always comes to an end, which is the verdict of the answer.

* `Reader.during` : a reader while the task of a chapter runs; every step leads to another such.
* `Reader.Concludes` : where the task rests, by the verdict.
* `Reader.within_reading`, `Reader.Awaits.settle` : the task comes to rest within its steps.
* `Reader.Awaits`, `Reader.Awaits.await` : the end that is waited for, and what is left.
-/

namespace MangaReader

open Backend Feed

/-- What the events and the failure of a session leave as it is. -/
structure Viewer.SamePlace (v v' : Viewer) : Prop where
  index : v'.index = v.index
  cursor : v'.cursor = v.cursor
  generation : v'.generation = v.generation
  assets : v'.assets = v.assets

/-- A stage from which only time leads on. -/
inductive FeedStage.Stalls : FeedStage → Prop
  | unanswered : Stalls .unanswered
  | reading {feed : PageFeed} (h : feed.next = (.blocked, feed)) : Stalls (.reading feed)

def FeedStage.onOutcome (feed : PageFeed) : Except ReadError Outcome → FeedStage
  | .ok (.placed index total) => .placed index total feed
  | .ok (.complete pages) => .completed pages
  | .ok .stale => .ended
  | .error e => .failed e

def FeedStage.onOpening : Opening → FeedStage
  | .opened feed => .reading feed
  | .failed f => .broken (Reader.streamError f)
  | .blocked => .unanswered

namespace Viewer

variable {v v' w : Viewer} {k : Nat}

theorem SamePlace.refl (v : Viewer) : SamePlace v v := ⟨rfl, rfl, rfl, rfl⟩

theorem SamePlace.trans (h : SamePlace v v') (h' : SamePlace v' w) : SamePlace v w :=
  ⟨h'.index.trans h.index, h'.cursor.trans h.cursor, h'.generation.trans h.generation,
    h'.assets.trans h.assets⟩

theorem samePlace_apply (v : Viewer) (k : Nat) (e : PageEvent) : SamePlace v (v.apply k e).1 := by
  have heffect := step_effect v (.event k e)
  have hsame : (v.step (.event k e)).1 = (v.apply k e).1 := rfl
  rw [hsame] at heffect
  generalize (v.step (.event k e)).2 = a at heffect
  generalize (v.apply k e).1 = v' at heffect
  cases heffect <;> exact ⟨rfl, rfl, rfl, rfl⟩

end Viewer

namespace Reader

/-- A reader while the task of a ticket is at a stage, with a viewer, and with what the listeners
were told since the task started. -/
def during (r : Reader) (t : Ticket) (v : Viewer) (stage : FeedStage) (told : List ReaderEvent) :
    Reader :=
  { r.publish v with
    feed := some { session := t.session, chapter := t.chapter, stage }
    events := r.events ++ told }

/-- Whether some of the next steps of the feed task, at most so many, lead to a reader of a kind. -/
def Within (r : Reader) (n : Nat) (P : Reader → Prop) : Prop := ∃ m ≤ n, P (r.stepFeeds m)

/-- The task of a ticket is at its end, and the verdict was told. -/
inductive Ends (r : Reader) (t : Ticket) (v : Viewer) (verdict : Verdict) : Reader → Prop
  | intro {v' : Viewer} {told : List ReaderEvent} (hplace : v.SamePlace v')
      (hidle : v'.state = .idle)
      (hpages : ∀ pages, verdict = .complete pages → v'.surface.rendered = pages)
      (htold : milestonesOf told = [verdict.milestone t]) :
    Ends r t v verdict (r.during t v' .ended told)

/-- Where the task of a ticket rests: at its end, or where only time leads on. -/
inductive Concludes (r : Reader) (t : Ticket) (v : Viewer) : Verdict → Reader → Prop
  | ended {verdict : Verdict} {x : Reader} (h : Ends r t v verdict x) : Concludes r t v verdict x
  | stalled {v' : Viewer} {pages : List PageDescriptor} {stage : FeedStage}
      {told : List ReaderEvent} (hplace : v.SamePlace v')
      (hv : v'.Showing t.session t.chapter pages) (hstage : stage.Stalls)
      (htold : milestonesOf told = []) :
    Concludes r t v .late (r.during t v' stage told)

variable {r x y : Reader} {t : Ticket} {v w : Viewer} {stage : FeedStage}
  {told : List ReaderEvent} {verdict : Verdict} {pages : List PageDescriptor} {feed : PageFeed}
  {n m : Nat} {P Q : Reader → Prop}

/-! ### A number of steps -/

theorem stepFeeds_add (r : Reader) (m n : Nat) :
    r.stepFeeds (m + n) = (r.stepFeeds m).stepFeeds n := by
  induction m generalizing r with
  | zero => rw [Nat.zero_add, stepFeeds]
  | succ m ih => rw [Nat.add_right_comm, stepFeeds, stepFeeds, ih]

theorem stepFeeds_of_rests (h : r.stepFeed = r) (n : Nat) : r.stepFeeds n = r := by
  induction n with
  | zero => rfl
  | succ n ih => rw [stepFeeds, h, ih]

theorem Within.now (h : P r) : r.Within n P := ⟨0, Nat.zero_le n, h⟩

theorem Within.of_step (hstep : r.stepFeed = x) (h : x.Within n P) : r.Within (n + 1) P := by
  obtain ⟨m, hm, hP⟩ := h
  refine ⟨m + 1, Nat.succ_le_succ hm, ?_⟩
  rw [stepFeeds, hstep]
  exact hP

theorem Within.mono (h : r.Within n P) (hle : n ≤ m) : r.Within m P := by
  obtain ⟨k, hk, hP⟩ := h
  exact ⟨k, hk.trans hle, hP⟩

theorem Within.imp (h : r.Within n P) (hPQ : ∀ x, P x → Q x) : r.Within n Q := by
  obtain ⟨k, hk, hP⟩ := h
  exact ⟨k, hk, hPQ _ hP⟩

theorem Within.stepFeeds (h : r.Within n P) (hrests : ∀ x, P x → x.stepFeed = x) :
    P (r.stepFeeds n) := by
  obtain ⟨m, hm, hP⟩ := h
  rw [← Nat.add_sub_cancel' hm, stepFeeds_add, stepFeeds_of_rests (hrests _ hP)]
  exact hP

theorem settle_of_within (hrests : ∀ x, P x → x.stepFeed = x ∧ x.history = [])
    (hstep : x.stepFeed = y) (h : y.Within y.feedSteps P) : P x.settle := by
  have hlast := h.stepFeeds fun z hz => (hrests z hz).1
  rw [settle, hstep]
  simp only [(hrests _ hlast).2]
  exact hlast

/-! ### The steps of the task -/

section steps
variable (hup : r.down = false)
include hup

theorem stepFeed_reading {e : PageEvent} {after : PageFeed} (h : feed.next = (.event e, after)) :
    (r.during t v (.reading feed) told).stepFeed = r.during t v (.received e after) told := by
  simp [stepFeed, during, publish, pull, h, setStage, hup]

theorem stepFeed_blocked {after : PageFeed} (h : feed.next = (.blocked, after)) :
    (r.during t v (.reading feed) told).stepFeed = r.during t v (.reading after) told := by
  simp [stepFeed, during, publish, pull, h, setStage, hup]

theorem stepFeed_failing {f : Failure} (h : feed.next.1 = .failed f) :
    (r.during t v (.reading feed) told).stepFeed =
      r.during t v (.broken (streamError f)) told := by
  obtain ⟨after, hnext⟩ : ∃ after, feed.next = (.failed f, after) := ⟨_, Prod.ext h rfl⟩
  simp [stepFeed, during, publish, pull, hnext, setStage, hup]

theorem stepFeed_over (h : feed.next.1 = .over) :
    (r.during t v (.reading feed) told).stepFeed = r.during t v (.broken earlyEnd) told := by
  obtain ⟨after, hnext⟩ : ∃ after, feed.next = (.over, after) := ⟨_, Prod.ext h rfl⟩
  simp [stepFeed, during, publish, pull, hnext, setStage, hup]

theorem stepFeed_received {e : PageEvent} {outcome : Except ReadError Outcome}
    (h : v.apply t.session e = (w, outcome)) :
    (r.during t v (.received e feed) told).stepFeed =
      r.during t w (.onOutcome feed outcome) told := by
  rcases outcome with e | (_ | _ | _) <;>
    simp [stepFeed, during, publish, Reader.apply, h, setStage, hup, FeedStage.onOutcome]

theorem stepFeed_broken {error : ReadError} (h : v.fail t.session = (w, true)) :
    (r.during t v (.broken error) told).stepFeed = r.during t w (.failed error) told := by
  simp [stepFeed, during, publish, Reader.fail, h, setStage, hup]

omit hup

theorem stepFeed_placed {index total : Nat} :
    (r.during t v (.placed index total feed) told).stepFeed =
      r.during t v (.reading feed) (told ++ [.pageRendered t.session index total]) := by
  simp [stepFeed, during, publish, setStage, tell]

theorem stepFeed_completed {pages : Nat} :
    (r.during t v (.completed pages) told).stepFeed =
      r.during t v .ended (told ++ [.chapterComplete t.session t.chapter.id pages]) := by
  simp [stepFeed, during, publish, setStage, tell]

theorem stepFeed_failed {error : ReadError} :
    (r.during t v (.failed error) told).stepFeed =
      r.during t v .ended (told ++ [.streamFailed t.session t.chapter.id error]) := by
  simp [stepFeed, during, publish, setStage, tell]

end steps

/-! ### Where the task rests -/

theorem Ends.rests (h : Ends r t v verdict x) : x.stepFeed = x ∧ x.history = r.history := by
  cases h with
  | intro => exact ⟨by simp [stepFeed, during, publish], rfl⟩

theorem Concludes.rests (hup : r.down = false) (h : Concludes r t v verdict x) :
    x.stepFeed = x ∧ x.history = r.history := by
  cases h with
  | ended h => exact h.rests
  | stalled hplace hv hstage =>
    cases hstage with
    | unanswered => exact ⟨by simp [stepFeed, during, publish, hup], rfl⟩
    | reading h => exact ⟨stepFeed_blocked hup h, rfl⟩

theorem within_failed (error : ReadError) (hplace : v.SamePlace w) (hidle : w.state = .idle)
    (htold : milestonesOf told = []) :
    (r.during t w (.failed error) told).Within 1 (Ends r t v (.ofError error)) := by
  refine .of_step stepFeed_failed (.now (.intro hplace hidle ?_ ?_))
  · intro pages hpages
    unfold Verdict.ofError at hpages
    split at hpages <;> cases hpages
  · rw [milestonesOf_append, htold, Verdict.ofError]
    cases herror : error.isTimeout <;>
      simp [milestonesOf, ReaderEvent.milestone?, Verdict.milestone, herror]

theorem within_broken (error : ReadError) (hup : r.down = false) (hplace : v.SamePlace w)
    (hw : w.Showing t.session t.chapter pages) (htold : milestonesOf told = []) :
    (r.during t w (.broken error) told).Within 2 (Ends r t v (.ofError error)) := by
  refine .of_step (stepFeed_broken hup hw.fail_eq) (within_failed _ ?_ rfl htold)
  exact hplace.trans ⟨rfl, rfl, rfl, rfl⟩

theorem within_terminal (hup : r.down = false) (hplace : v.SamePlace w)
    (hw : w.Showing t.session t.chapter pages) (htold : milestonesOf told = []) :
    (r.during t w (.received .terminal feed) told).Within 2 (Ends r t v
      (.complete ((slotsOf v.assets ((announced pages).getD 0) pages).filterMap id))) := by
  refine .of_step (stepFeed_received hup hw.apply_terminal) (.of_step stepFeed_completed
    (.now (.intro (hplace.trans ⟨rfl, rfl, rfl, rfl⟩) rfl ?_ ?_)))
  · intro shown hshown
    rw [← Verdict.complete.inj hshown, ← hplace.assets]
    exact congrArg (List.filterMap id) hw.slots
  · rw [milestonesOf_append, htold]
    rfl

theorem within_misfit (hup : r.down = false) (hplace : v.SamePlace w)
    (hw : w.Showing t.session t.chapter pages) {page : PageDescriptor}
    (hpage : ¬ page.Fits ((announced pages).getD page.total)) (htold : milestonesOf told = []) :
    (r.during t w (.received (.page page) feed) told).Within 2 (Ends r t v .failed) := by
  obtain ⟨after, message, happly, hclosed, -⟩ := hw.apply_misfit hpage
  have hsame := w.samePlace_apply t.session (.page page)
  rw [happly] at hsame
  have hidle : after.state = .idle := by rw [Viewer.state, hclosed]
  exact .of_step (stepFeed_received hup happly)
    (within_failed (.stream message) (hplace.trans hsame) hidle htold)

/-- **A feed that is being read comes to rest**, by induction on what it has still to deliver. -/
theorem within_reading (hup : r.down = false) {results : List (Except Failure PageEvent)}
    (hplace : v.SamePlace w) (hw : w.Showing t.session t.chapter pages)
    (hrest : results = asPages pages ++ feed.remaining) (hopen : feed.finished = false)
    (htold : milestonesOf told = []) :
    (r.during t w (.reading feed) told).Within (3 * feed.remaining.length + 3)
      (Concludes r t v (.ofResults v.assets results feed.body.ending)) := by
  have hfits := fits_totalOf hrest hw.fits
  induction hleft : feed.remaining generalizing w feed pages told with
  | nil =>
    obtain ⟨decoder, hnext⟩ := PageFeed.next_of_exhausted hopen hleft
    rw [hleft, List.append_nil] at hrest
    rw [Verdict.ofResults_of_pages hrest hfits]
    cases hending : feed.body.ending with
    | complete =>
      rw [hending] at hnext
      exact .of_step (stepFeed_over hup (congrArg Prod.fst hnext))
        ((within_broken earlyEnd hup hplace hw htold).imp fun _ => .ended)
    | cut =>
      rw [hending] at hnext
      exact .of_step (stepFeed_failing hup (congrArg Prod.fst hnext))
        ((within_broken (streamError (.transport .cut)) hup hplace hw htold).imp
          fun _ => .ended)
    | hang =>
      rw [hending] at hnext
      exact .of_step (stepFeed_blocked hup hnext) (.now (.stalled hplace hw (.reading rfl) htold))
  | cons result others ih =>
    rw [hleft] at hrest
    cases result with
    | error f =>
      obtain ⟨hnext, rfl⟩ := PageFeed.next_of_remaining_error hleft
      rw [Verdict.ofResults_of_break (.faulty hrest) (List.cons_ne_nil _ _) hrest hfits]
      refine (Within.of_step (stepFeed_failing hup hnext) ?_).mono (Nat.le_add_left 3 _)
      exact (within_broken (streamError f) hup hplace hw htold).imp fun _ => .ended
    | ok e =>
      cases e with
      | terminal =>
        obtain ⟨after, hnext, -⟩ := PageFeed.next_of_remaining_ok hleft
        rw [PageFeed.remaining_of_terminal hleft] at hrest ⊢
        rw [Verdict.ofResults_of_terminal hrest hfits]
        refine (Within.of_step (stepFeed_reading hup hnext) ?_).mono (Nat.le_add_left 3 _)
        exact (within_terminal hup hplace hw htold).imp fun _ => .ended
      | page page =>
        obtain ⟨after, hnext, hafter, hothers, hending⟩ := PageFeed.next_of_remaining_page hleft
        have htotal := totalOf_of_page hrest
        by_cases hpage : page.Fits (totalOf results)
        · obtain ⟨next, happly, hnextShowing⟩ := hw.apply_page (htotal.symm ▸ hpage)
          have hsame := w.samePlace_apply t.session (.page page)
          rw [happly] at hsame
          have hlater : results = asPages (pages ++ [page]) ++ after.remaining := by
            rw [hrest, hothers, asPages_concat, List.append_assoc, List.singleton_append]
          have hquiet : milestonesOf
              (told ++ [.pageRendered t.session page.index ((announced pages).getD page.total)]) =
              [] := by
            rw [milestonesOf_append, htold]
            rfl
          have hgo := ih (hplace.trans hsame) hnextShowing hlater hafter hquiet
            (fits_totalOf hlater hnextShowing.fits) hothers
          rw [hending] at hgo
          -- the page is taken, placed and told of before the next result is waited for
          exact .of_step (stepFeed_reading hup hnext)
            (.of_step (stepFeed_received hup happly) (.of_step stepFeed_placed hgo))
        · rw [Verdict.ofResults_of_break (.misfit hrest hpage) (List.cons_ne_nil _ _) hrest hfits]
          refine (Within.of_step (stepFeed_reading hup hnext) ?_).mono (Nat.le_add_left 3 _)
          exact (within_misfit hup hplace hw (htotal.symm ▸ hpage) htold).imp fun _ => .ended

/-! ### Letting the task run -/

theorem ends_late (hup : r.down = false) (hhistory : r.history = []) (hplace : v.SamePlace w)
    (hw : w.Showing t.session t.chapter pages) (hstage : stage.Stalls)
    (htold : milestonesOf told = []) :
    Ends r t v .late (r.during t w stage told).expire.settle := by
  have hexpire : (r.during t w stage told).expire =
      r.during t w (.broken (late r.settings)) told := by
    cases hstage with
    | unanswered => simp [expire, during, publish, setStage, hup]
    | reading h => simp [expire, during, publish, setStage, hup, h]
  have hclosed : v.SamePlace { w with session := none } := hplace.trans ⟨rfl, rfl, rfl, rfl⟩
  have htells := within_failed (r := r) (t := t) (late r.settings) hclosed rfl htold
  rw [hexpire]
  refine settle_of_within (fun x hx => ⟨hx.rests.1, hx.rests.2.trans hhistory⟩)
    (stepFeed_broken hup hw.fail_eq) (htells.mono ?_)
  exact (by decide : 1 ≤ 4)

/-- A reader whose task for a ticket has just started, before any end of its session was told. -/
structure Awaits (r : Reader) (t : Ticket) : Prop where
  up : r.down = false
  history : r.history = []
  feed : r.feed = some { session := t.session, chapter := t.chapter }
  published : r.published = r.viewer.state
  showing : r.viewer.Showing t.session t.chapter []
  untold : ∀ m ∈ r.milestones, m.isOpening ∨ m.session ≠ t.session

variable {opening : Opening} {backend : Backend}

theorem Awaits.stepFeed (h : r.Awaits t)
    (hopening : r.library.client.openFeed t.chapter.id r.backend = (opening, backend)) :
    r.stepFeed = { r with backend }.during t r.viewer (.onOpening opening) [] := by
  cases opening <;>
    simp [Reader.stepFeed, h.feed, h.up, openFeed, hopening, during, publish, setStage,
      h.published, FeedStage.onOpening]

theorem feed_of_opened {client : Client} {chapter : Int} {before : Backend}
    (h : client.openFeed chapter before = (.opened feed, backend)) :
    feed = { body := feed.body } := by
  have hfeed : ∀ a : Backend.Answer, Client.feedOf a = .opened feed →
      feed = { body := feed.body } := by
    intro a ha
    unfold Client.feedOf at ha
    split at ha
    · cases ha
      rfl
    · split at ha <;> cases ha
  unfold Client.openFeed at h
  split at h
  · cases h
  · split at h
    · exact hfeed _ (congrArg Prod.fst h)
    · cases h

theorem Awaits.settle (h : r.Awaits t)
    (hopening : r.library.client.openFeed t.chapter.id r.backend = (opening, backend)) :
    Concludes { r with backend } t r.viewer (.ofOpening r.viewer.assets opening) r.settle := by
  have hup : ({ r with backend } : Reader).down = false := h.up
  refine settle_of_within (fun x hx => ⟨(hx.rests hup).1, (hx.rests hup).2.trans h.history⟩)
    (h.stepFeed hopening) ?_
  cases opening with
  | opened feed =>
    obtain ⟨body, rfl⟩ : ∃ body, feed = { body } := ⟨_, feed_of_opened hopening⟩
    have hlength := length_resultsOf_le body
    refine (within_reading hup (.refl _) h.showing (PageFeed.remaining_of_body body).symm rfl
      milestonesOf_nil).mono ?_
    show _ ≤ 3 * (body.bytes.length + 0) + 8
    rw [PageFeed.remaining_of_body]
    omega
  | failed f =>
    have hbroken := within_broken (streamError f) hup (.refl _) h.showing milestonesOf_nil
    exact (hbroken.imp fun _ => .ended).mono (by decide : 2 ≤ 4)
  | blocked => exact .now (.stalled (.refl _) h.showing .unanswered milestonesOf_nil)

theorem Awaits.ending (h : r.Awaits t) (backend : Backend) (w : Viewer)
    (htold : milestonesOf told = [verdict.milestone t]) :
    ∃ result, ({ r with backend }.during t w .ended told).ending t = some result ∧
      Reports verdict result := by
  have hmilestones : ({ r with backend }.during t w .ended told).milestones =
      r.milestones ++ [verdict.milestone t] := by
    rw [← htold]
    exact milestonesOf_append _ _
  exact ending_of_milestones hmilestones h.untold

theorem Awaits.ending_eq_none (h : r.Awaits t) (backend : Backend) (w : Viewer)
    (stage : FeedStage) (htold : milestonesOf told = []) :
    ({ r with backend }.during t w stage told).ending t = none := by
  refine Reader.ending_eq_none fun m hm => h.untold m ?_
  have hsame : milestonesOf (r.events ++ told) = r.milestones := by
    rw [milestonesOf_append, htold, List.append_nil]
    rfl
  exact hsame ▸ hm

/-- **The wait for the end of a chapter ends with the verdict of the answer of the backend**, which
the listeners are told; if the chapter is complete, the pages on show are those of the verdict. -/
theorem Awaits.await (h : r.Awaits t)
    (hopening : r.library.client.openFeed t.chapter.id r.backend = (opening, backend))
    (hverdict : Verdict.ofOpening r.viewer.assets opening = verdict) :
    ∃ v told result,
      r.await t = ({ r with backend }.during t v .ended told, result) ∧
      r.viewer.SamePlace v ∧ v.state = .idle ∧
      (∀ pages, verdict = .complete pages → v.surface.rendered = pages) ∧
      milestonesOf told = [verdict.milestone t] ∧ Reports verdict result := by
  have hsettle := h.settle hopening
  rw [hverdict] at hsettle
  generalize hx : r.settle = x at hsettle
  cases hsettle with
  | ended hends =>
    cases hends with
    | @intro v told hplace hidle hpages htold =>
      obtain ⟨result, hending, hreports⟩ := h.ending backend v htold
      refine ⟨v, told, result, ?_, hplace, hidle, hpages, htold, hreports⟩
      rw [Reader.await, hx]
      simp only [hending]
  | @stalled w pages stage told hplace hw hstage htold =>
    have hnone := h.ending_eq_none backend w stage htold
    have hends := ends_late (r := { r with backend }) h.up h.history hplace hw hstage htold
    generalize hy : ({ r with backend }.during t w stage told).expire.settle = y at hends
    cases hends with
    | @intro v told hplace hidle hpages htold =>
      obtain ⟨result, hending, hreports⟩ := h.ending backend v htold
      refine ⟨v, told, result, ?_, hplace, hidle, hpages, htold, hreports⟩
      rw [Reader.await, hx]
      simp only [hnone, hy, hending, Option.getD_some]

end Reader

end MangaReader

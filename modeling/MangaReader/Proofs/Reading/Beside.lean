import MangaReader.Proofs.Backend.Agree
import MangaReader.Proofs.Reading.Chapter

/-!
# What is recorded does not disturb what is read

The tasks that record the opened chapters share the backend and the listeners with the calls and the
feed task. They write nothing that these read but the answers about the history that the backend has
still to give. So two readers whose backends agree on all else go through the same steps together,
whatever their history tasks do in between.

* `Reader.Beside` : two readers that differ in nothing but the history.
* `Reader.Beside.step` : one step of both, which is not of a history task.
* `Reader.Beside.stepHistory` : one step of a history task of the first.
* `Reader.undisturbed_by_history` : two whole runs.
-/

namespace MangaReader.Reader

open Backend Feed

def Step.isHistory : Step → Bool
  | .history _ => true
  | .call _ | .proceed | .feed | .expire => false

def readingEvents (r : Reader) : List ReaderEvent := r.events.filter (!·.isHistory)

/-- Two readers that differ in nothing but the history: whether chapters are recorded, what the
backend answers there, the tasks and what they tell. -/
structure Beside (r r' : Reader) : Prop where
  settings : { r'.settings with recordHistory := r.settings.recordHistory } = r.settings
  library : r'.library = r.library
  viewer : r'.viewer = r.viewer
  published : r'.published = r.published
  feed : r'.feed = r.feed
  pending : r'.pending = r.pending
  down : r'.down = r.down
  backend : r.library.client.Agree r.backend r'.backend
  events : r'.readingEvents = r.readingEvents

variable {r r' : Reader} {task : FeedTask}

theorem Beside.symm (h : Beside r r') : Beside r' r where
  settings := by
    rw [← h.settings]
  library := h.library.symm
  viewer := h.viewer.symm
  published := h.published.symm
  feed := h.feed.symm
  pending := h.pending.symm
  down := h.down.symm
  backend := by
    rw [h.library]
    exact h.backend.symm
  events := h.events.symm

theorem Beside.manga (h : Beside r r') : r'.settings.manga = r.settings.manga := by
  rw [← h.settings]

theorem Beside.late (h : Beside r r') : late r'.settings = late r.settings := by
  rw [← h.settings]
  rfl

/-! ### What both do -/

theorem Beside.withFeed (h : Beside r r') (feed : Option FeedTask) :
    Beside { r with feed } { r' with feed } := { h with feed := rfl }

theorem Beside.withPending (h : Beside r r') (pending : Option Pending) :
    Beside { r with pending } { r' with pending } := { h with pending := rfl }

theorem Beside.publish (h : Beside r r') (v : Viewer) : Beside (r.publish v) (r'.publish v) :=
  { h with viewer := rfl, published := rfl }

theorem Beside.setStage (h : Beside r r') (task : FeedTask) (stage : FeedStage) :
    Beside (r.setStage task stage) (r'.setStage task stage) := h.withFeed _

theorem Beside.tell (h : Beside r r') (e : ReaderEvent) : Beside (r.tell e) (r'.tell e) := by
  refine { h with events := ?_ }
  have hevents := h.events
  unfold readingEvents at hevents
  simp only [readingEvents, Reader.tell, List.filter_append, hevents]

theorem Beside.meet (h : Beside r r') {need : Need} (hneed : need.isHistory = false) :
    (r.library.client.meet need r'.backend).1 = (r.library.client.meet need r.backend).1 ∧
      Beside { r with backend := (r.library.client.meet need r.backend).2 }
        { r' with backend := (r.library.client.meet need r'.backend).2 } := by
  obtain ⟨hsame, hafter⟩ := h.backend.reads hneed
  exact ⟨hsame.symm, { h with backend := hafter }⟩

theorem Beside.afterFeed (h : Beside r r') {next : Reader → Reader}
    (hnext : ∀ {r r'}, Beside r r' → Beside (next r) (next r')) :
    Beside (r.afterFeed next) (r'.afterFeed next) := by
  unfold Reader.afterFeed
  rw [h.feed]
  cases r.feed with
  | none => exact hnext h
  | some task =>
    by_cases hended : task.stage = .ended
    · simp only [if_pos hended]
      exact hnext (h.withFeed none)
    · simp only [if_neg hended]
      exact h.withFeed _

theorem Beside.start (h : Beside r r') (ticket : Ticket) :
    Beside (r.start ticket) (r'.start ticket) :=
  { h.tell (.sessionOpened ticket.session ticket.chapter) with feed := rfl, pending := rfl }

/-! ### Calls -/

theorem Beside.loadIndex (h : Beside r r') :
    Beside (r.call .loadIndex).1 (r'.call .loadIndex).1 ∧
      (r'.call .loadIndex).2 = (r.call .loadIndex).2 := by
  obtain ⟨read, hchapters⟩ := r.library.chapters_eq_view r.settings.manga
  have hneed : (Need.chapters r.settings.manga).isHistory = false := rfl
  obtain ⟨hsame, hafter⟩ := h.meet hneed
  have hother : r'.library.chapters r'.settings.manga r'.backend =
      (read (r.library.client.meet (.chapters r.settings.manga) r.backend).1,
        (r.library.client.meet (.chapters r.settings.manga) r'.backend).2) := by
    rw [h.library, h.manga, hchapters, hsame]
  simp only [Reader.call, exchange, hchapters, hother]
  cases read (r.library.client.meet (.chapters r.settings.manga) r.backend).1 with
  | ok index => exact ⟨hafter.withPending _, rfl⟩
  | error e => exact ⟨hafter, rfl⟩

theorem Beside.call (h : Beside r r') (c : Call) :
    Beside (r.call c).1 (r'.call c).1 ∧ (r'.call c).2 = (r.call c).2 := by
  have hopening : ∀ v ticket, Beside (r.opening v ticket).1 (r'.opening v ticket).1 :=
    fun v _ => (h.publish v).withPending _
  cases c with
  | loadIndex => exact h.loadIndex
  | setTab tab =>
    unfold Reader.call
    rw [h.viewer]
    exact ⟨{ h with viewer := rfl }, rfl⟩
  | select place =>
    cases hselect : r.viewer.select place with
    | mk v result =>
      cases result with
      | ok ticket =>
        simp only [Reader.call, h.viewer, hselect]
        exact ⟨hopening v ticket, rfl⟩
      | error e =>
        simp only [Reader.call, h.viewer, hselect]
        exact ⟨h, trivial⟩
  | navigate d =>
    cases hnavigate : r.viewer.navigate d with
    | mk v ticket? =>
      cases ticket? with
      | some ticket =>
        simp only [Reader.call, h.viewer, hnavigate]
        exact ⟨hopening v ticket, rfl⟩
      | none =>
        simp only [Reader.call, h.viewer, hnavigate]
        exact ⟨h, trivial⟩
  | close | shutdown =>
    unfold Reader.call
    rw [h.viewer]
    exact ⟨(h.publish _).withPending _, rfl⟩

theorem Beside.proceed (h : Beside r r') : Beside r.proceed r'.proceed := by
  unfold Reader.proceed
  rw [h.pending]
  cases r.pending with
  | none => exact h
  | some rest =>
    cases rest with
    | loading index =>
      simp only [h.viewer]
      exact { h with viewer := rfl, pending := rfl }
    | loaded chapters => exact (h.tell _).withPending _
    | opening ticket => exact h.afterFeed fun hended => hended.start ticket
    | closing shutdown =>
      refine h.afterFeed fun hended => ?_
      simp only [hended.down]
      exact { hended with pending := rfl, down := rfl }

/-! ### The feed task -/

theorem Beside.openFeed (h : Beside r r') (task : FeedTask) :
    Beside (r.openFeed task) (r'.openFeed task) := by
  obtain ⟨view, hview⟩ := r.library.client.openFeed_eq_view task.chapter.id
  have hneed : (Need.pages task.chapter.id).isHistory = false := rfl
  obtain ⟨hsame, hafter⟩ := h.meet hneed
  have hother : r'.library.client.openFeed task.chapter.id r'.backend =
      (view (r.library.client.meet (.pages task.chapter.id) r.backend).1,
        (r.library.client.meet (.pages task.chapter.id) r'.backend).2) := by
    rw [h.library, hview, hsame]
  simp only [Reader.openFeed, hview, hother]
  exact hafter.setStage _ _

theorem Beside.pull (h : Beside r r') (task : FeedTask) (feed : PageFeed) :
    Beside (r.pull task feed) (r'.pull task feed) := by
  unfold Reader.pull
  rcases feed.next with ⟨pull, rest⟩
  cases pull <;> exact h.setStage _ _

theorem Beside.apply (h : Beside r r') (task : FeedTask) (e : PageEvent) (feed : PageFeed) :
    Beside (r.apply task e feed) (r'.apply task e feed) := by
  unfold Reader.apply
  rw [h.viewer]
  exact (h.publish _).setStage _ _

theorem Beside.fail (h : Beside r r') (task : FeedTask) (error : ReadError) :
    Beside (r.fail task error) (r'.fail task error) := by
  unfold Reader.fail
  rw [h.viewer]
  rcases r.viewer.fail task.session with ⟨v, _ | _⟩
  · exact h.setStage _ _
  · exact (h.publish v).setStage _ _

theorem Beside.stepFeed (h : Beside r r') : Beside r.stepFeed r'.stepFeed := by
  unfold Reader.stepFeed
  rw [h.feed]
  cases r.feed with
  | none => exact h
  | some task =>
    have hyields : ∀ {next next' : Reader}, Beside next next' →
        Beside (if task.cancelled || r.down then r.setStage task .ended else next)
          (if task.cancelled || r'.down then r'.setStage task .ended else next') := by
      intro next next' hnext
      rw [h.down]
      split
      · exact h.setStage _ _
      · exact hnext
    cases hstage : task.stage <;> simp only [hstage]
    case waiting => exact hyields (h.openFeed task)
    case unanswered => exact hyields h
    case reading feed => exact hyields (h.pull task feed)
    case received e feed => exact hyields (h.apply task e feed)
    case broken error => exact hyields (h.fail task error)
    case placed | completed | failed => exact (h.tell _).setStage _ _
    case ended => exact h

theorem Beside.expire (h : Beside r r') : Beside r.expire r'.expire := by
  unfold Reader.expire
  rw [h.feed, h.down, h.late]
  cases r.feed with
  | none => exact h
  | some task =>
    by_cases hstop : (task.cancelled || r.down) = true
    · simp only [if_pos hstop]
      exact h
    · simp only [if_neg hstop]
      cases task.stage with
      | unanswered => exact h.setStage _ _
      | reading feed =>
        by_cases hblocked : feed.next.1 = .blocked
        · simp only [if_pos hblocked]
          exact h.setStage _ _
        · simp only [if_neg hblocked]
          exact h
      | _ => exact h

/-! ### One step -/

/-- **Both take a step that is not of a history task**, and it has the same answer. -/
theorem Beside.step (h : Beside r r') {s : Step} (hs : s.isHistory = false) :
    Beside (r.step s).1 (r'.step s).1 ∧ (r'.step s).2 = (r.step s).2 := by
  cases s with
  | call c =>
    unfold Reader.step
    rw [h.pending]
    by_cases hpending : r.pending.isSome = true
    · simp only [if_pos hpending]
      exact ⟨h, trivial⟩
    · simp only [if_neg hpending]
      exact ⟨(h.call c).1, congrArg some (h.call c).2⟩
  | proceed => exact ⟨h.proceed, rfl⟩
  | feed => exact ⟨h.stepFeed, rfl⟩
  | expire => exact ⟨h.expire, rfl⟩
  | history => cases hs

theorem Beside.recorded (h : Beside r r') {backend : Backend}
    (hbackend : r.library.client.Agree backend r'.backend) {told : List ReaderEvent}
    (htold : ∀ e ∈ told, e.isHistory = true) (tasks : List HistoryTask) :
    Beside { r with backend, events := r.events ++ told, history := tasks } r' := by
  refine { h with backend := hbackend, events := ?_ }
  have hnone : told.filter (!·.isHistory) = [] := by
    rw [List.filter_eq_nil_iff]
    intro e he
    simp [htold e he]
  rw [h.events, readingEvents, readingEvents, List.filter_append, hnone, List.append_nil]

theorem Beside.stepHistory (h : Beside r r') (i : Nat) : Beside (r.stepHistory i) r' := by
  cases htask : r.history[i]? with
  | none =>
    simp only [Reader.stepHistory, htask]
    exact h
  | some task =>
    cases hstage : task.stage with
    | recording =>
      obtain ⟨read, hrecord⟩ := r.library.fetch_eq_view
        (.updateHistory r.settings.manga task.chapter) fun _ => ()
      have hneed : (Need.recording r.settings.manga task.chapter).isHistory = true := rfl
      have hasked := h.backend.skips hneed
      by_cases hdown : r.down = true
      · simp only [Reader.stepHistory, htask, hstage, if_pos hdown]
        exact { h with }
      · simp only [Reader.stepHistory, htask, hstage, if_neg hdown, exchange,
          Library.recordReading, hrecord]
        cases read (Client.exchange (r.library.client.request
            (.updateHistory r.settings.manga task.chapter)) r.backend).1 with
        | ok _ => exact h.recorded hasked (by simp [ReaderEvent.isHistory]) _
        | error _ => exact { h with backend := hasked }
    | refreshing =>
      obtain ⟨read, hlast⟩ := r.library.fetch_eq_view (.manga r.settings.manga)
        fun record => (SeriesSummary.ofRecord r.library.assets record).lastReadChapter
      have hneed : (Need.lastRead r.settings.manga).isHistory = true := rfl
      have hasked := h.backend.skips hneed
      simp only [Reader.stepHistory, htask, hstage, exchange, Library.lastRead, hlast]
      cases read (Client.exchange (r.library.client.request (.manga r.settings.manga))
          r.backend).1 with
      | ok last => exact h.recorded hasked (by simp [ReaderEvent.isHistory]) _
      | error _ => exact { h with backend := hasked }

/-! ### Whole runs -/

theorem Step.exists_of_isHistory {s : Step} (hs : s.isHistory = true) : ∃ i, s = .history i := by
  cases s with
  | history i => exact ⟨i, rfl⟩
  | call | proceed | feed | expire => cases hs

theorem Beside.run (h : Beside r r') {steps steps' : List Step}
    (hsteps : Aligned (!·.isHistory) steps steps') :
    Beside (r.run steps).1 (r'.run steps').1 ∧ (r'.run steps').2 = (r.run steps).2 := by
  induction hsteps generalizing r r' with
  | nil => exact ⟨h, rfl⟩
  | both hs _ ih =>
    obtain ⟨hnext, hanswer⟩ := h.step (by simpa using hs)
    obtain ⟨hlast, hanswers⟩ := ih hnext
    refine ⟨hlast, ?_⟩
    simp only [Reader.run, hanswer, hanswers]
  | left hs _ ih =>
    obtain ⟨i, rfl⟩ := Step.exists_of_isHistory (by simpa using hs)
    exact ih (h.stepHistory i)
  | right hs _ ih =>
    obtain ⟨i, rfl⟩ := Step.exists_of_isHistory (by simpa using hs)
    exact ih (h.symm.stepHistory i).symm

theorem beside_ofLibrary (settings : ReaderSettings) (recordHistory : Bool) (library : Library)
    {backend backend' : Backend} (hbackend : library.client.Agree backend backend') :
    Beside (ofLibrary settings library backend)
      (ofLibrary { settings with recordHistory } library backend') :=
  ⟨rfl, rfl, rfl, rfl, rfl, rfl, rfl, hbackend, rfl⟩

/-- **What is recorded does not disturb what is read.** Let two readers of one series differ in
whether they record the history and in what their backends answer about it, and let them go through
the same steps of calls, of the feed task and of time, with any steps of history tasks in between,
in the one as in the other. Then their calls have the same answers, their listeners are told the
same of all but the history and see the same state, and both show the same at the end. -/
theorem undisturbed_by_history (settings : ReaderSettings) (recordHistory : Bool)
    (library : Library) {backend backend' : Backend} (steps steps' : List Step)
    (hbackend : library.client.Agree backend backend')
    (hsteps : steps.filter (!·.isHistory) = steps'.filter (!·.isHistory)) :
    let run := (ofLibrary settings library backend).run steps
    let run' := (ofLibrary { settings with recordHistory } library backend').run steps'
    run'.2 = run.2 ∧
      run'.1.events.filter (!·.isHistory) = run.1.events.filter (!·.isHistory) ∧
      run'.1.viewer = run.1.viewer ∧
      run'.1.published = run.1.published := by
  intro run run'
  have hstart := beside_ofLibrary settings recordHistory library hbackend
  obtain ⟨hend, hanswers⟩ := hstart.run (.of_filter_eq hsteps)
  exact ⟨hanswers, hend.events, hend.viewer, hend.published⟩

/-- A backend that takes what is recorded, but says nothing of what was read last. -/
def recordingBackend : Backend :=
  { sampleBackend with
    routes :=
      ⟨.put, "/user/history",
        [.answer ⟨200, ⟨["\x7b\"success\":true\x7d".toUTF8.toList], .complete⟩⟩]⟩ ::
      ⟨.get, "/api/manga?manga_id=3", [.dropped]⟩ :: sampleBackend.routes }

theorem agree_recordingBackend : sampleLibrary.client.Agree sampleBackend recordingBackend := by
  have hput : ServesApart (Need.request sampleLibrary.client) Need.isHistory
      recordingBackend.routes[0] := ⟨.recording 3 7, _, rfl, rfl, by decide +kernel⟩
  have hget : ServesApart (Need.request sampleLibrary.client) Need.isHistory
      recordingBackend.routes[1] := ⟨.lastRead 3, _, rfl, rfl, by decide +kernel⟩
  refine Client.SameButHistory.agree ⟨rfl, ?_⟩
  exact ((routesBut_cons_of_apart hput).trans (routesBut_cons_of_apart hget)).symm

/-- A chapter that fails is read in the same way where it is recorded and where it is not. -/
theorem undisturbed_by_history_recording :
    ∃ run run', (ofLibrary sampleSettings sampleLibrary sampleBackend).run
          [.call .loadIndex, .proceed, .proceed, .call (.select ⟨.chapter, 0⟩), .proceed,
            .history 0, .feed, .feed, .feed, .feed] = run ∧
      (ofLibrary { sampleSettings with recordHistory := true } sampleLibrary recordingBackend).run
          [.call .loadIndex, .proceed, .proceed, .call (.select ⟨.chapter, 0⟩), .proceed, .feed,
            .feed, .history 0, .feed, .history 0, .feed] = run' ∧
      run'.2 = run.2 ∧ run'.1.viewer = run.1.viewer := by
  refine ⟨_, _, rfl, rfl, ?_⟩
  obtain ⟨hanswers, -, hviewer, -⟩ := undisturbed_by_history sampleSettings true sampleLibrary
    [.call .loadIndex, .proceed, .proceed, .call (.select ⟨.chapter, 0⟩), .proceed,
      .history 0, .feed, .feed, .feed, .feed]
    [.call .loadIndex, .proceed, .proceed, .call (.select ⟨.chapter, 0⟩), .proceed, .feed,
      .feed, .history 0, .feed, .history 0, .feed]
    agree_recordingBackend rfl
  exact ⟨hanswers, hviewer⟩

end MangaReader.Reader

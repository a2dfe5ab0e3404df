import MangaReader.Proofs.Reading.Beside
import MangaReader.Proofs.Reading.Moves

/-!
# The chapter that was read last

Every chapter that is opened is recorded by a task of its own, and nothing keeps these tasks in
order: the backend may be told of a chapter after it was told of one that was opened later. What it
holds to be read last is the chapter that it was told of last.

* `Backend.recordings`, `Backend.lastRecorded` : what a backend was told.
* `Reader.due` : the chapters that the backend is still to be told of.
* `Reader.Move.loses`, `Reader.Move.overtakes` : steps of history tasks that fail, and that pass an
  older task.
* `Reader.Accounts` : the chapters that were opened between two states, and those that the backend
  was told of. `Reader.step_accounts` is one step, `Reader.run_accounts` a whole run.
* `Reader.last_read_is_last_told` : what is held to be read last.
* `Reader.last_read_overtaken` : it need not be the chapter that was opened last.
-/

namespace MangaReader

open Backend

/-! ### What the backend was told -/

namespace Backend

/-- The chapter that a request sets as the one read last, as it is written. -/
def Request.recorded? (request : Request) : Option String :=
  if request.method = .put then request.form.bind (·.lookup "chapter_id") else none

def recordings (b : Backend) : List String := b.received.filterMap Request.recorded?

/-- The chapter that a backend was told of last, which it holds to be read last. -/
def lastRecorded (b : Backend) : Option String := b.recordings.getLast?

variable {b after : Backend} {request : Request}

theorem Request.recorded?_of_get (h : request.method = .get) : request.recorded? = none := by
  have hput : ¬ request.method = .put := by
    rw [h]
    decide
  exact if_neg hput

theorem recordings_send_of_none (h : request.recorded? = none) (b : Backend) :
    (b.send request).2.recordings = b.recordings := by
  unfold send
  split_ifs
  · rfl
  · rfl
  · simp [recordings, h]

theorem recordings_send_of_ok {a : Answer} (h : b.send request = (.ok a, after)) :
    after.recordings = b.recordings ++ request.recorded?.toList := by
  unfold send at h
  split_ifs at h
  · cases h
  · cases h
  · obtain ⟨-, rfl⟩ := Prod.mk.inj h
    unfold recordings
    rw [List.filterMap_append]
    cases hrecorded : request.recorded? <;> simp [hrecorded]

end Backend

variable {manga chapter : Int} {b after : Backend}

namespace Client

variable {client : Client}

theorem recordings_meet (need : Need) (hneed : need.method = .get) (b : Backend) :
    (client.meet need b).2.recordings = b.recordings := by
  unfold meet
  cases hrequest : need.request client with
  | error f => rfl
  | ok request =>
    have hmethod : request.method = .get := (url_of_request hrequest).1.trans hneed
    exact recordings_send_of_none (Request.recorded?_of_get hmethod) b

theorem recordings_openFeed (chapter : Int) (b : Backend) :
    (client.openFeed chapter b).2.recordings = b.recordings := by
  obtain ⟨view, hview⟩ := client.openFeed_eq_view chapter
  rw [hview]
  exact recordings_meet (.pages chapter) rfl b

theorem recorded?_updateHistory {request : Request}
    (h : client.request (.updateHistory manga chapter) = .ok request) :
    request.recorded? = some (toString chapter) := by
  unfold Client.request at h
  split at h
  · cases h
  · cases h
    rfl

end Client

namespace Library

variable {library : Library}

theorem recordings_chapters (manga : Int) (b : Backend) :
    (library.chapters manga b).2.recordings = b.recordings := by
  obtain ⟨read, hread⟩ := library.chapters_eq_view manga
  rw [hread]
  exact Client.recordings_meet (.chapters manga) rfl b

theorem recordings_lastRead (manga : Int) (b : Backend) :
    (library.lastRead manga b).2.recordings = b.recordings := by
  obtain ⟨read, hread⟩ := library.fetch_eq_view (.manga manga)
    fun record => (SeriesSummary.ofRecord library.assets record).lastReadChapter
  unfold lastRead
  rw [hread]
  exact Client.recordings_meet (.lastRead manga) rfl b

theorem recordings_recordReading
    (h : library.recordReading manga chapter b = (.ok (), after)) :
    after.recordings = b.recordings ++ [toString chapter] := by
  unfold recordReading fetch at h
  rw [Client.perform_eq] at h
  cases hrequest : library.client.request (.updateHistory manga chapter) with
  | error f =>
    rw [hrequest] at h
    cases h
  | ok request =>
    rw [hrequest] at h
    simp only [Client.exchange, Client.ask] at h
    cases hsend : b.send request with
    | mk outcome sent =>
      rw [hsend] at h
      cases outcome with
      | error fault => cases h
      | ok answer =>
        obtain ⟨-, rfl⟩ := Prod.mk.inj h
        rw [recordings_send_of_ok hsend, Client.recorded?_updateHistory hrequest]
        rfl

end Library

namespace Reader

/-! ### Chapters that are opened, and of which the backend is still to be told -/

def Answer.opened? : Answer → Option Int
  | .opened ticket => some ticket.chapter.id
  | _ => none

def openedBy (answers : List Answer) : List Int := answers.filterMap Answer.opened?

end Reader

def Pending.opened? : Pending → Option Int
  | .opening ticket => some ticket.chapter.id
  | _ => none

def HistoryTask.due? (task : HistoryTask) : Option Int :=
  if task.stage = .recording then some task.chapter else none

namespace Reader

/-- The chapters that the backend is still to be told of, in the order in which they were opened. -/
def due (r : Reader) : List Int :=
  r.history.filterMap HistoryTask.due? ++ (r.pending.bind Pending.opened?).toList

def dueAt? (r : Reader) (i : Nat) : Option Int := r.history[i]?.bind HistoryTask.due?

/-- Whether a move is the failure of an update. -/
def Move.loses (m : Move) : Bool :=
  match m.step with
  | .history i =>
    match m.before.dueAt? i with
    | some chapter =>
      !m.before.down &&
        !(m.before.library.recordReading m.before.settings.manga chapter m.before.backend).1.isOk
    | none => false
  | _ => false

/-- Whether a move tells the backend of a chapter before one that was opened earlier. -/
def Move.overtakes (m : Move) : Bool :=
  match m.step with
  | .history i =>
    (m.before.dueAt? i).isSome && (m.before.history.take i).any (·.due?.isSome)
  | _ => false

/-- Between two states of a reader some chapters were opened, and the backend was told of some: it
was told of each once, or is still to be. Where the updates are in order, it was told of them in the
order in which they were opened. -/
structure Accounts (r r' : Reader) (opened : List Int) (inOrder : Prop) (told : List Int) :
    Prop where
  recordings : r'.backend.recordings = r.backend.recordings ++ told.map toString
  each : (told ++ r'.due).Perm (r.due ++ opened)
  order : inOrder → told ++ r'.due = r.due ++ opened

variable {r r' r'' : Reader} {opened opened' told told' : List Int} {inOrder inOrder' : Prop}

theorem Accounts.trans (h : Accounts r r' opened inOrder told)
    (h' : Accounts r' r'' opened' inOrder' told') :
    Accounts r r'' (opened ++ opened') (inOrder ∧ inOrder') (told ++ told') where
  recordings := by
    rw [h'.recordings, h.recordings, List.map_append, List.append_assoc]
  each := by
    have hsecond := h'.each.append_left told
    rw [← List.append_assoc told r'.due] at hsecond
    have hfirst := h.each.append_right opened'
    rw [List.append_assoc, ← List.append_assoc r.due]
    exact hsecond.trans hfirst
  order := by
    rintro ⟨hin, hin'⟩
    rw [List.append_assoc, h'.order hin', ← List.append_assoc, h.order hin, List.append_assoc]

theorem Accounts.of_order {p q : Prop} (h : Accounts r r' opened p told) (hpq : q → p) :
    Accounts r r' opened q told :=
  ⟨h.recordings, h.each, fun hq => h.order (hpq hq)⟩

/-! ### Steps of calls and of the feed task -/

theorem Effect.accounts {s : Step} {a : Option Answer} (h : Effect r s r' a)
    (hs : s.isHistory = false) (hrecord : r.settings.recordHistory = true) :
    r'.backend.recordings = r.backend.recordings ∧ r'.due = r.due ++ openedBy a.toList := by
  cases h with
  | indexFetched hpending hfetch =>
    have hrecordings := r.library.recordings_chapters r.settings.manga r.backend
    rw [hfetch] at hrecordings
    exact ⟨hrecordings, by simp [due, openedBy, Answer.opened?, Pending.opened?, hpending]⟩
  | indexNotFetched hpending hfetch =>
    have hrecordings := r.library.recordings_chapters r.settings.manga r.backend
    rw [hfetch] at hrecordings
    exact ⟨hrecordings, by simp [due, openedBy, Answer.opened?, hpending]⟩
  | opened hpending =>
    exact ⟨rfl, by simp [due, openedBy, Answer.opened?, Pending.opened?, publish, hpending]⟩
  | closing hpending =>
    exact ⟨rfl, by simp [due, openedBy, Answer.opened?, Pending.opened?, publish, hpending]⟩
  | indexTaken hpending | indexTold hpending | closed hpending =>
    exact ⟨rfl, by simp [due, openedBy, Pending.opened?, tell, hpending]⟩
  | started hpending =>
    refine ⟨rfl, ?_⟩
    simp [due, openedBy, Pending.opened?, start, tell, hpending, hrecord, HistoryTask.due?]
  | @asks task =>
    refine ⟨?_, by simp [due, openedBy, openFeed, setStage]⟩
    exact r.library.client.recordings_openFeed task.chapter.id r.backend
  | @pulls task feed =>
    obtain ⟨stage, -, hpull⟩ := r.pull_eq task feed
    rw [hpull]
    exact ⟨rfl, by simp [due, openedBy, setStage]⟩
  | recorded => cases hs
  | _ =>
    exact ⟨rfl, by simp [due, openedBy, Answer.opened?, publish, setStage, tell]⟩

theorem Effect.settings {s : Step} {a : Option Answer} (h : Effect r s r' a) :
    r'.settings = r.settings := by
  cases h with
  | @pulls task feed =>
    obtain ⟨stage, -, hpull⟩ := r.pull_eq task feed
    rw [hpull]
    rfl
  | _ => rfl

theorem Effect.down {s : Step} {a : Option Answer} (h : Effect r s r' a) (hdown : r.down = true) :
    r'.down = true := by
  cases h with
  | @pulls task feed =>
    obtain ⟨stage, -, hpull⟩ := r.pull_eq task feed
    rw [hpull]
    exact hdown
  | closed => simp [hdown]
  | _ => exact hdown

/-! ### Steps of history tasks -/

theorem filterMap_around {α β : Type} (f : α → Option β) {l : List α} {i : Nat} {a : α}
    (h : l[i]? = some a) :
    l.filterMap f = (l.take i).filterMap f ++ (f a).toList ++ (l.drop (i + 1)).filterMap f := by
  obtain ⟨hi, rfl⟩ := List.getElem?_eq_some_iff.mp h
  conv_lhs => rw [← List.take_append_drop i l, List.drop_eq_getElem_cons hi]
  rw [List.filterMap_append, List.filterMap_cons, List.append_assoc]
  cases f l[i] <;> rfl

theorem due_setHistory {i : Nat} {task : HistoryTask} (htask : r.history[i]? = some task)
    (next : Option HistoryTask) (hnext : next.bind HistoryTask.due? = none) :
    (r.setHistory i next).due =
      (r.history.take i).filterMap HistoryTask.due? ++
        (r.history.drop (i + 1)).filterMap HistoryTask.due? ++
        (r.pending.bind Pending.opened?).toList := by
  obtain ⟨hi, -⟩ := List.getElem?_eq_some_iff.mp htask
  cases next with
  | none =>
    unfold due
    simp only [setHistory, List.eraseIdx_eq_take_drop_succ, List.filterMap_append]
  | some task' =>
    have hdone : task'.due? = none := hnext
    unfold due
    simp only [setHistory, List.set_eq_take_append_cons_drop, if_pos hi, List.filterMap_append,
      List.filterMap_cons, hdone]

theorem due_around {i : Nat} {task : HistoryTask} (htask : r.history[i]? = some task) :
    r.due = (r.history.take i).filterMap HistoryTask.due? ++ task.due?.toList ++
      (r.history.drop (i + 1)).filterMap HistoryTask.due? ++
      (r.pending.bind Pending.opened?).toList := by
  rw [due, filterMap_around HistoryTask.due? htask]

/-- **A step of a history task** whose update does not fail tells the backend of its chapter, once.
-/
theorem stepHistory_accounts (hup : r.down = false) {i : Nat} {a : Option Answer}
    (hkeeps : Move.loses ⟨r, .history i, a⟩ = false) :
    ∃ told, Accounts r (r.stepHistory i) []
      (Move.overtakes ⟨r, .history i, a⟩ = false) told := by
  have hnothing {r' : Reader} (hrecordings : r'.backend.recordings = r.backend.recordings)
      (hdue : r'.due = r.due) {p : Prop} : ∃ told, Accounts r r' [] p told :=
    ⟨[], ⟨by simp [hrecordings], by simp [hdue], fun _ => by simp [hdue]⟩⟩
  cases htask : r.history[i]? with
  | none =>
    simp only [stepHistory, htask]
    exact hnothing rfl rfl
  | some task =>
    have haround := due_around htask
    obtain ⟨chapter, stage⟩ := task
    cases stage with
    | refreshing =>
      have hdue (backend : Backend) (events : List ReaderEvent) :
          ({ r with backend, events }.setHistory i none).due = r.due := by
        have hgone := due_setHistory (r := { r with backend, events }) htask none rfl
        rw [hgone, haround]
        simp [HistoryTask.due?]
      have hrecordings := r.library.recordings_lastRead r.settings.manga r.backend
      cases hlast : r.library.lastRead r.settings.manga r.backend with
      | mk result backend =>
        rw [hlast] at hrecordings
        cases result with
        | ok last =>
          simp only [stepHistory, htask, exchange, hlast]
          exact hnothing hrecordings (hdue backend _)
        | error e =>
          simp only [stepHistory, htask, exchange, hlast]
          exact hnothing hrecordings (hdue backend _)
    | recording =>
      have hat : r.dueAt? i = some chapter := by simp [dueAt?, htask, HistoryTask.due?]
      cases hrecord : r.library.recordReading r.settings.manga chapter r.backend with
      | mk result backend =>
        cases result with
        | error e => simp [Move.loses, hat, hup, hrecord, Except.isOk, Except.toBool] at hkeeps
        | ok done =>
          have hstep : r.stepHistory i =
              Reader.setHistory
                { r with backend, events := r.events ++ [.historyRecorded chapter] } i
                (some ⟨chapter, .refreshing⟩) := by
            simp only [stepHistory, htask, hup, exchange, hrecord]
            rfl
          have hdone := due_setHistory
            (r := { r with backend, events := r.events ++ [.historyRecorded chapter] }) htask
            (some ⟨chapter, .refreshing⟩) rfl
          simp only [HistoryTask.due?, if_pos, Option.toList_some] at haround
          rw [hstep]
          refine ⟨[chapter], Library.recordings_recordReading hrecord, ?_, fun hfirst => ?_⟩
          · rw [hdone, haround, List.append_nil]
            simp only [List.append_assoc, List.singleton_append]
            exact List.perm_middle.symm
          · have hnone : (r.history.take i).filterMap HistoryTask.due? = [] := by
              simp only [Move.overtakes, hat, Option.isSome_some, Bool.true_and, List.any_eq_false]
                at hfirst
              rw [List.filterMap_eq_nil_iff]
              exact fun task htask => Option.not_isSome_iff_eq_none.mp (hfirst task htask)
            rw [hdone, haround, hnone]
            simp

/-! ### One step and a whole run -/

theorem step_accounts (hrecord : r.settings.recordHistory = true) (hup : r.down = false) (s : Step)
    (hkeeps : Move.loses ⟨r, s, (r.step s).2⟩ = false) :
    ∃ told, Accounts r (r.step s).1 (openedBy (r.step s).2.toList)
      (Move.overtakes ⟨r, s, (r.step s).2⟩ = false) told := by
  by_cases hs : s.isHistory = true
  · obtain ⟨i, rfl⟩ := Step.exists_of_isHistory hs
    exact stepHistory_accounts hup hkeeps
  · obtain ⟨hrecordings, hdue⟩ :=
      (r.step_effect s).accounts (Bool.not_eq_true _ ▸ hs) hrecord
    exact ⟨[], by simp [hrecordings], by simp [hdue], fun _ => by simp [hdue]⟩

theorem down_of_run {steps : List Step} (h : (r.run steps).1.down = false) : r.down = false := by
  by_contra hdown
  rw [Bool.not_eq_false] at hdown
  have hend := run_keeps (I := fun r => r.down = true)
    (fun r s hr => (r.step_effect s).down hr) hdown steps
  rw [h] at hend
  cases hend

theorem openedBy_append (answers answers' : List Answer) :
    openedBy (answers ++ answers') = openedBy answers ++ openedBy answers' :=
  List.filterMap_append

/-- **A whole run** of a reader that records, is not shut down and loses no update. -/
theorem run_accounts (hrecord : r.settings.recordHistory = true) {steps : List Step}
    (hup : (r.run steps).1.down = false) (hkeeps : ∀ m ∈ r.moves steps, m.loses = false) :
    ∃ told, Accounts r (r.run steps).1 (openedBy (r.run steps).2)
      (∀ m ∈ r.moves steps, m.overtakes = false) told := by
  induction steps generalizing r with
  | nil => exact ⟨[], by simp [run], by simp [run, openedBy], fun _ => by simp [run, openedBy]⟩
  | cons s steps ih =>
    obtain ⟨hfirst, hrest⟩ := List.forall_mem_cons.mp hkeeps
    obtain ⟨told, hstep⟩ := step_accounts hrecord (down_of_run hup) s hfirst
    have hrecord' : (r.step s).1.settings.recordHistory = true := by
      rw [(r.step_effect s).settings]
      exact hrecord
    obtain ⟨told', hrun⟩ := ih hrecord' hup hrest
    refine ⟨told ++ told', ?_⟩
    have hboth := hstep.trans hrun
    rw [← openedBy_append] at hboth
    exact hboth.of_order List.forall_mem_cons.mp

/-! ### What was read last -/

theorem lastRecorded_of_recordings {b : Backend} {before : List String} {c : Int}
    (h : b.recordings = before ++ told.map toString) (hlast : told.getLast? = some c) :
    b.lastRecorded = some (toString c) := by
  unfold lastRecorded
  rw [h, List.getLast?_append, List.getLast?_map, hlast]
  rfl

/-- **Where no update overtakes another** after the last opening, the chapter opened there is the
one that the backend is told of last. -/
theorem lastRecorded_of_order (hrecord : r.settings.recordHistory = true) {c : Call}
    {ticket : Ticket} (hopen : r.step (.call c) = (r', some (.opened ticket))) {steps : List Step}
    (hup : (r'.run steps).1.down = false) (hkeeps : ∀ m ∈ r'.moves steps, m.loses = false)
    (hlast : openedBy (r'.run steps).2 = [])
    (horder : ∀ m ∈ r'.moves steps, m.overtakes = false) (hdue : (r'.run steps).1.due = []) :
    (r'.run steps).1.backend.lastRecorded = some (toString ticket.chapter.id) := by
  have heffect := r.step_effect (.call c)
  rw [hopen] at heffect
  have hopened : r'.due = r.due ++ [ticket.chapter.id] := (heffect.accounts rfl hrecord).2
  have hrecord' : r'.settings.recordHistory = true := by
    rw [heffect.settings]
    exact hrecord
  obtain ⟨told, haccounts⟩ := run_accounts hrecord' hup hkeeps
  have htold : told = r.due ++ [ticket.chapter.id] := by
    have hall := haccounts.order horder
    rwa [hdue, hlast, List.append_nil, List.append_nil, hopened] at hall
  exact lastRecorded_of_recordings haccounts.recordings (by rw [htold, List.getLast?_concat])

/-- **What was read last is what the backend was told of last.** Let a reader that records what is
opened take any steps of calls and tasks, in any order, without being shut down, and let no update
fail.

The backend was told of each chapter that was opened, once for each time, or is still to be told of
it. When it is to be told of none, and some were opened, it holds one of them to be read last, the
one that it was told of last. That is the one that was opened last if from its opening on no chapter
was told before one that had been opened earlier. -/
theorem last_read_is_last_told (settings : ReaderSettings) (library : Library) (backend : Backend)
    (steps : List Step) (hrecord : settings.recordHistory = true)
    (hup : ((ofLibrary settings library backend).run steps).1.down = false)
    (hkeeps : ∀ m ∈ (ofLibrary settings library backend).moves steps, m.loses = false) :
    let start := ofLibrary settings library backend
    let last := (start.run steps).1
    let opened := openedBy (start.run steps).2
    ∃ told : List Int, last.backend.recordings = backend.recordings ++ told.map toString ∧
      (told ++ last.due).Perm opened ∧
      (last.due = [] → opened ≠ [] → ∃ c ∈ opened, told.getLast? = some c ∧
        last.backend.lastRecorded = some (toString c)) ∧
      ∀ before c after, steps = before ++ .call c :: after →
        ∀ next ticket, (start.run before).1.step (.call c) = (next, some (.opened ticket)) →
          openedBy (next.run after).2 = [] → (∀ m ∈ next.moves after, m.overtakes = false) →
          last.due = [] → last.backend.lastRecorded = some (toString ticket.chapter.id) := by
  intro start last opened
  obtain ⟨told, haccounts⟩ := run_accounts (r := start) hrecord hup hkeeps
  have heach : (told ++ last.due).Perm opened := haccounts.each
  refine ⟨told, haccounts.recordings, heach, fun hdue hopened => ?_, ?_⟩
  · rw [hdue, List.append_nil] at heach
    have hne : told ≠ [] := fun htold => hopened (List.nil_perm.mp (htold ▸ heach))
    have hlast := List.getLast?_eq_some_getLast hne
    exact ⟨told.getLast hne, heach.mem_iff.mp (List.getLast_mem hne), hlast,
      lastRecorded_of_recordings haccounts.recordings hlast⟩
  · rintro before c after rfl next ticket hopen hnomore horder hdue
    have hsettings : (start.run before).1.settings = settings :=
      run_keeps (I := fun r => r.settings = settings)
        (fun r s hr => (r.step_effect s).settings.trans hr) rfl before
    have hlast : last = (next.run after).1 := by
      show (start.run _).1 = _
      rw [run_append_fst, run_cons_fst, hopen]
    have hrest : ∀ m ∈ next.moves after, m.loses = false := by
      intro m hm
      refine hkeeps m ?_
      rw [moves_append, moves_cons, hopen]
      exact List.mem_append_right _ (List.mem_cons_of_mem _ hm)
    rw [hlast] at hdue ⊢
    exact lastRecorded_of_order (by rw [hsettings, hrecord]) hopen (hlast ▸ hup) hrest hnomore
      horder hdue

def updates : Route :=
  ⟨.put, "/user/history", [.answer ⟨200, ⟨["\x7b\x7d".toUTF8.toList], .complete⟩⟩]⟩

def twoChapters : Route :=
  ⟨.get, "/api/chapters",
    [.answer ⟨200, ⟨[("\x7b\"Chapter\":[\x7b\"id\":1,\"title\":\"\"\x7d," ++
      "\x7b\"id\":2,\"title\":\"\"\x7d]\x7d").toUTF8.toList], .complete⟩⟩]⟩

def updatedBackend (route : Route) : Backend where
  origin := some "http://reader"
  routes := [updates, route]

def loading : List Step := [.call .loadIndex, .proceed, .proceed]

/-- The steps that open both chapters, the second before the backend was told of the first. -/
def openingBoth : List Step :=
  [.call (.select ⟨.chapter, 0⟩), .proceed, .call (.select ⟨.chapter, 1⟩), .proceed, .feed,
    .proceed]

/-- The steps that open the first chapter, tell the backend of it, shut the reader down and open the
second. -/
def openingShut : List Step :=
  [.call (.select ⟨.chapter, 0⟩), .proceed, .history 0, .call .shutdown, .proceed, .feed, .proceed,
    .call (.select ⟨.chapter, 1⟩), .proceed]

structure Ledger where
  /-- The chapters that were opened. -/
  opened : List Int
  /-- Those that the backend is still to be told of. -/
  due : List Int
  /-- Whether an update has failed. -/
  lost : Bool
  /-- Whether an update has overtaken an older one. -/
  overtaken : Bool
  /-- Whether the reader was shut down. -/
  down : Bool
  /-- What the backend holds to be read last. -/
  last : Option String
  deriving DecidableEq

def ledger (r : Reader) (steps : List Step) : Ledger where
  opened := openedBy (r.run steps).2
  due := (r.run steps).1.due
  lost := (r.moves steps).any (·.loses)
  overtaken := (r.moves steps).any (·.overtakes)
  down := (r.run steps).1.down
  last := (r.run steps).1.backend.lastRecorded

theorem of_ledger {steps : List Step} {l : Ledger} (h : ledger r steps = l)
    (hlost : l.lost = false) (hovertaken : l.overtaken = false) :
    (∀ m ∈ r.moves steps, m.loses = false) ∧ (∀ m ∈ r.moves steps, m.overtakes = false) ∧
      (r.run steps).1.down = l.down ∧ (r.run steps).1.due = l.due := by
  subst h
  simp only [ledger, List.any_eq_false, Bool.not_eq_true] at hlost hovertaken
  exact ⟨hlost, hovertaken, rfl, rfl⟩

/-- The backend is told of both chapters in the order of their openings. -/
theorem last_read_is_last_told_in_order :
    let start := ofLibrary sampleSettings sampleLibrary (updatedBackend twoChapters)
    (start.run (loading ++ openingBoth ++ [.history 0, .history 1])).1.backend.lastRecorded =
      some "2" := by
  intro start
  have hledger : start.ledger (loading ++ openingBoth ++ [.history 0, .history 1]) =
      ⟨[1, 2], [], false, false, false, some "2"⟩ := by decide +kernel
  obtain ⟨hkeeps, horder, hup, hdue⟩ := of_ledger hledger rfl rfl
  obtain ⟨told, -, -, -, hlast⟩ := last_read_is_last_told sampleSettings sampleLibrary
    (updatedBackend twoChapters) _ rfl hup hkeeps
  have hopened : ((start.run (loading ++ openingBoth.take 2)).1.step
      (.call (.select ⟨.chapter, 1⟩))).2 = some (.opened ⟨2, ⟨2, "", .chapter, 1⟩⟩) := by
    decide +kernel
  have hsplit : loading ++ openingBoth ++ [.history 0, .history 1] =
      loading ++ openingBoth.take 2 ++ .call (.select ⟨.chapter, 1⟩) ::
        (openingBoth.drop 3 ++ [.history 0, .history 1]) := rfl
  refine hlast _ _ _ hsplit _ _ (Prod.ext rfl hopened) rfl (fun m hm => ?_) hdue
  refine horder m ?_
  rw [hsplit, moves_append, moves_cons]
  exact List.mem_append_right _ (List.mem_cons_of_mem _ hm)

/-- **The chapter that was opened last need not be the one that was read last.** With no update lost
and none due: where the update of the first chapter comes after that of the second; and where the
second is opened by a reader that is shut down, which tells nobody. -/
theorem last_read_overtaken :
    let start := ofLibrary sampleSettings sampleLibrary (updatedBackend twoChapters)
    sampleSettings.recordHistory = true ∧
    ledger start (loading ++ openingBoth ++ [.history 1, .history 0]) =
      ⟨[1, 2], [], false, true, false, some "1"⟩ ∧
    ledger start (loading ++ openingShut ++ [.history 1]) =
      ⟨[1, 2], [], false, false, true, some "1"⟩ := by
  exact ⟨rfl, by decide +kernel, by decide +kernel⟩

end Reader

end MangaReader

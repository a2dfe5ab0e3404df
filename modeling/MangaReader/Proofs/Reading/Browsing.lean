import MangaReader.Proofs.Reading.Awaited
import MangaReader.Proofs.Viewer.Neighbour

/-!
# From chapter to chapter

Chapters are read one after the other, each when the one before it is complete, up to the first that
fails. Which of them are opened, and how each ends, is a matter of what the backend answers to the
requests for their feeds, in their order. A reader goes from one to the next by itself: when a
chapter was waited for, it has told of its end and can open another.

* `readings` : the chapters that are read, each with its verdict, and the backend after them.
* `story` : what the listeners are told of the openings and ends of chapters.
* `readings_in_order` : the chapters that are read come first, and only the last of them may fail.
* `Reader.Browses`, `Reader.Shows` : a reader between two chapters, and one that has opened one.
* `Reader.Browses.selects`, `navigates`, `stays`, `Reader.Shows.await` : from one to the other.
-/

namespace MangaReader

open Backend Feed

/-- The chapters that are read out of some, in their order, each with how its loading ends, and the
backend after that. The next one is read when the one before it is complete. -/
def readings (library : Library) : List Chapter → Backend → List (Chapter × Verdict) × Backend
  | [], backend => ([], backend)
  | chapter :: rest, backend =>
    let (opening, backend) := library.client.openFeed chapter.id backend
    let verdict := Verdict.ofOpening library.assets opening
    if verdict.isComplete then
      let (more, backend) := readings library rest backend
      ((chapter, verdict) :: more, backend)
    else ([(chapter, verdict)], backend)

/-- What the listeners are told of chapters that are read one after the other, with sessions from
some number on. -/
def story (session : Nat) : List (Chapter × Verdict) → List Milestone
  | [] => []
  | (chapter, verdict) :: rest =>
    .opened session chapter :: verdict.milestone ⟨session, chapter⟩ :: story (session + 1) rest

variable {library : Library} {index : ChapterIndex} {chapters rest : List Chapter}
  {chapter : Chapter} {backend after : Backend} {opening : Opening} {verdict : Verdict}

/-! ### The chapters that are read -/

theorem readings_of_complete
    (hopening : library.client.openFeed chapter.id backend = (opening, after))
    (hverdict : .ofOpening library.assets opening = verdict) (hcomplete : verdict.isComplete) :
    readings library (chapter :: rest) backend =
      ((chapter, verdict) :: (readings library rest after).1, (readings library rest after).2) := by
  rw [readings, hopening]
  simp only [hverdict, hcomplete, if_true]

theorem readings_of_failed
    (hopening : library.client.openFeed chapter.id backend = (opening, after))
    (hverdict : .ofOpening library.assets opening = verdict)
    (hfailed : verdict.isComplete = false) :
    readings library (chapter :: rest) backend = ([(chapter, verdict)], after) := by
  rw [readings, hopening]
  simp only [hverdict, hfailed]
  rfl

theorem readings_in_order (library : Library) (chapters : List Chapter) (backend : Backend) :
    let opened := (readings library chapters backend).1
    opened.map (·.1) <+: chapters ∧ (∀ x ∈ opened.dropLast, x.2.isComplete) ∧
      (opened.map (·.1) = chapters ∨ ∃ x, opened.getLast? = some x ∧ x.2.isComplete = false) := by
  induction chapters generalizing backend with
  | nil => exact ⟨List.nil_prefix, nofun, .inl rfl⟩
  | cons chapter rest ih =>
    cases hopening : library.client.openFeed chapter.id backend with
    | mk opening after =>
      cases hcomplete : (Verdict.ofOpening library.assets opening).isComplete with
      | true =>
        rw [readings_of_complete hopening rfl hcomplete]
        obtain ⟨hsome, hall, hend⟩ := ih after
        cases hmore : (readings library rest after).1 with
        | nil =>
          rw [hmore] at hend
          refine ⟨?_, nofun, .inl ?_⟩
          · exact List.cons_prefix_cons.mpr ⟨rfl, List.nil_prefix⟩
          · obtain hnil | ⟨x, hx, -⟩ := hend
            · rw [← hnil]
              rfl
            · cases hx
        | cons x more =>
          rw [hmore] at hsome hall hend
          refine ⟨List.cons_prefix_cons.mpr ⟨rfl, hsome⟩, ?_, ?_⟩
          · intro y hy
            rw [List.dropLast_cons_cons] at hy
            rcases List.mem_cons.mp hy with rfl | hy
            · exact hcomplete
            · exact hall y hy
          · rw [List.getLast?_cons_cons]
            exact hend.imp_left fun hsame => by rw [List.map_cons, hsame]
      | false =>
        rw [readings_of_failed hopening rfl hcomplete]
        exact ⟨List.cons_prefix_cons.mpr ⟨rfl, List.nil_prefix⟩, nofun, .inr ⟨_, rfl, hcomplete⟩⟩

namespace Reader

variable {r r' : Reader} {t : Ticket} {before : List Milestone} {c : Call} {v : Viewer}

/-- A reader of a library and an index that records nothing, and no call of which is under way. -/
structure Quiet (r : Reader) (library : Library) (index : ChapterIndex) : Prop where
  up : r.down = false
  pending : r.pending = none
  history : r.history = []
  unrecorded : r.settings.recordHistory = false
  assets : r.viewer.assets = library.assets
  index : r.viewer.index = index
  library : r.library = library

/-- A reader that has taken an index and shows a group of it. -/
def listing (settings : ReaderSettings) (library : Library) (index : ChapterIndex)
    (tab : ChapterKind) (backend : Backend) : Reader :=
  { ofLibrary settings library backend with
    viewer := (({ assets := library.assets } : Viewer).replaceIndex index).setTab tab
    events := [.indexLoaded index.size] }

/-- A reader between two chapters, with what was told of those before. -/
structure Browses (r : Reader) (library : Library) (index : ChapterIndex)
    (before : List Milestone) : Prop extends r.Quiet library index where
  feedOver : r.FeedOver
  told : r.milestones = before
  older : ∀ m ∈ before, m.session ≤ r.viewer.generation

/-- A reader that has opened a chapter, with what was told of those before. -/
structure Shows (r : Reader) (library : Library) (index : ChapterIndex) (before : List Milestone)
    (t : Ticket) : Prop extends r.Quiet library index where
  awaits : r.Awaits t
  cursor : r.viewer.cursor = some t.chapter.cursor
  generation : r.viewer.generation = t.session
  told : r.milestones = before ++ [.opened t.session t.chapter]
  older : ∀ m ∈ before, m.session < t.session

/-! ### Where calls lead -/

theorem leads_advance (r : Reader) : r.Leads r.advance := by
  unfold advance
  split
  · exact .trans (.trans (.step .proceed) (leads_stepFeeds 2)) (.step .proceed)
  · exact .trans (.trans (.step .proceed) (leads_stepFeeds 2)) (.step .proceed)
  · exact .step .proceed

theorem leads_perform (hpending : r.pending = none) (c : Call) : r.Leads (r.perform c).1 := by
  have hcall : (r.step (.call c)).1 = (r.call c).1 := by simp [step, hpending]
  have hfirst : r.Leads (r.call c).1 := hcall ▸ .step (.call c)
  exact .trans hfirst (.trans (leads_advance _) (leads_advance _))

theorem leads_await (r : Reader) (t : Ticket) : r.Leads (r.await t).1 := by
  simp only [await]
  split
  · exact leads_settle
  · exact .trans leads_settle (.trans (.step .expire) leads_settle)

/-! ### From chapter to chapter -/

theorem perform_loadIndex (settings : ReaderSettings) {manga : Int}
    (hmanga : settings.manga = manga)
    (hindex : library.chapters manga backend = (.ok index, after)) :
    (ofLibrary settings library backend).perform .loadIndex =
      ({ ofLibrary settings library after with
          viewer := ({ assets := library.assets } : Viewer).replaceIndex index
          events := [.indexLoaded index.size] }, .index index) := by
  simp only [perform, call, exchange, ofLibrary, hmanga, hindex]
  rfl

theorem browses_listing (settings : ReaderSettings) (library : Library) (index : ChapterIndex)
    (tab : ChapterKind) (backend : Backend) (hunrecorded : settings.recordHistory = false) :
    (listing settings library index tab backend).Browses library index [] where
  up := rfl
  pending := rfl
  history := rfl
  unrecorded := hunrecorded
  assets := rfl
  index := rfl
  library := rfl
  feedOver := nofun
  told := rfl
  older := nofun

theorem finish_of_done (hpending : r.pending = none) : r.finish = r := by
  have hproceed : r.proceed = r := by simp only [proceed, hpending]
  have hadvance : r.advance = r := by simp only [advance, hproceed, hpending]
  rw [finish, hadvance, hadvance]

theorem proceed_of_opening (hpending : r.pending = some (.opening t)) (hover : r.FeedOver) :
    r.proceed = r.start t := by
  simp only [proceed, hpending]
  obtain ⟨-, hnext⟩ | ⟨task, hfeed, hstage, -⟩ := r.afterFeed_eq (·.start t)
  · rw [hnext]
    rfl
  · exact absurd (hover task hfeed) hstage

theorem perform_of_opening (hover : r.FeedOver) (hcall : r.call c = r.opening v t) :
    r.perform c = ((r.publish v).start t, .opened t) := by
  have hadvance : (r.opening v t).1.advance = (r.publish v).start t := by
    rw [advance, proceed_of_opening (r := (r.opening v t).1) rfl hover]
    rfl
  rw [perform, hcall]
  show ((r.opening v t).1.advance.advance, Answer.opened t) = _
  rw [hadvance]
  rfl

theorem Browses.perform (h : r.Browses library index before) (chapter : Chapter)
    (hcall : r.call c = r.opening (r.viewer.start chapter).1 (r.viewer.start chapter).2) :
    ∃ r', r.perform c = (r', .opened ⟨r.viewer.generation + 1, chapter⟩) ∧ r.Leads r' ∧
      r'.Shows library index before ⟨r.viewer.generation + 1, chapter⟩ ∧
      r'.backend = r.backend := by
  have hperform := perform_of_opening h.feedOver hcall
  have hleads := leads_perform h.pending c
  rw [hperform] at hleads
  refine ⟨_, hperform, hleads, ?_, rfl⟩
  let started := (r.publish (r.viewer.start chapter).1).start (r.viewer.start chapter).2
  have htold : started.milestones = before ++ [.opened (r.viewer.generation + 1) chapter] := by
    rw [← h.told]
    exact milestonesOf_append _ _
  have hhistory : started.history = [] := by
    rw [← h.history]
    exact if_neg (by simp [publish, h.unrecorded])
  have holder : ∀ m ∈ before, m.session < r.viewer.generation + 1 :=
    fun m hm => Nat.lt_succ_of_le (h.older m hm)
  refine ⟨⟨h.up, rfl, hhistory, h.unrecorded, h.assets, h.index, h.library⟩,
    ⟨h.up, hhistory, rfl, rfl, Viewer.showing_start _ _, ?_⟩, rfl, rfl, htold, holder⟩
  intro m hm
  rcases List.mem_append.mp (htold ▸ hm) with hm | hm
  · exact .inr (Nat.ne_of_lt (holder m hm))
  · rw [List.mem_singleton.mp hm]
    exact .inl rfl

theorem Browses.selects (h : r.Browses library index before) (place : Cursor)
    (hplace : place.position < (index.group place.group).length) :
    ∃ r' t, r.perform (.select place) = (r', .opened t) ∧ r.Leads r' ∧
      r'.Shows library index before t ∧ r'.backend = r.backend ∧
      t.session = r.viewer.generation + 1 ∧ index.resolve place = some t.chapter := by
  obtain ⟨chapter, hchapter⟩ := index.exists_resolve hplace
  have hselect := Viewer.select_of_resolve (h.index.symm ▸ hchapter)
  obtain ⟨r', hperform, hleads, hshows, hbackend⟩ :=
    h.perform (c := .select place) chapter (by simp only [call, hselect])
  exact ⟨r', _, hperform, hleads, hshows, hbackend, rfl, hchapter⟩

theorem Browses.navigates (h : r.Browses library index before) {place : Cursor}
    (hidle : r.viewer.state = .idle) (hcursor : r.viewer.cursor = some place)
    (hnext : index.adjacent place .next = some chapter) :
    ∃ r', r.perform (.navigate .next) = (r', .opened ⟨r.viewer.generation + 1, chapter⟩) ∧
      r.Leads r' ∧ r'.Shows library index before ⟨r.viewer.generation + 1, chapter⟩ ∧
      r'.backend = r.backend := by
  apply h.perform chapter
  rw [← h.index] at hnext
  simp only [call, Viewer.navigate, hidle, hcursor, Option.bind_some, hnext]

theorem Browses.stays (h : r.Browses library index before) {place : Cursor}
    (hcursor : r.viewer.cursor = some place) (hnext : index.adjacent place .next = none) :
    r.perform (.navigate .next) = (r, .stayed) := by
  have hstays : r.viewer.navigate .next = (r.viewer, none) := by
    apply Viewer.navigate_of_stays
    rw [hcursor, Option.bind_some, h.index]
    exact .inr hnext
  have hcall : r.call (.navigate .next) = (r, .stayed) := by simp only [call, hstays]
  rw [Reader.perform, hcall]
  exact Prod.ext (finish_of_done h.pending) rfl

/-- **When a chapter was waited for, the reader is between two chapters again.** -/
theorem Shows.await (h : r.Shows library index before t)
    (hopening : library.client.openFeed t.chapter.id r.backend = (opening, after))
    (hverdict : .ofOpening library.assets opening = verdict) :
    ∃ r' result, r.await t = (r', result) ∧ r.Leads r' ∧ Reports verdict result ∧
      r'.Browses library index (before ++ [.opened t.session t.chapter, verdict.milestone t]) ∧
      r'.backend = after ∧ r'.viewer.state = .idle ∧ r'.viewer.cursor = some t.chapter.cursor ∧
      r'.viewer.generation = t.session ∧
      ∀ pages, verdict = .complete pages → r'.viewer.surface.rendered = pages := by
  rw [← h.library] at hopening
  rw [← h.assets] at hverdict
  obtain ⟨v, told, result, hawait, hplace, hidle, hpages, htold, hreports⟩ :=
    h.awaits.await hopening hverdict
  have hgeneration : v.generation = t.session := hplace.generation.trans h.generation
  have hleads := leads_await r t
  rw [hawait] at hleads
  refine ⟨_, result, hawait, hleads, hreports, ⟨⟨h.up, h.pending, h.history, h.unrecorded,
    hplace.assets.trans h.assets, hplace.index.trans h.index, h.library⟩, ?_, ?_, ?_⟩, rfl, hidle,
    hplace.cursor.trans h.cursor, hgeneration, hpages⟩
  · intro task htask
    cases htask
    rfl
  · have hbefore : milestonesOf r.events = before ++ [.opened t.session t.chapter] := h.told
    rw [milestones, during, milestonesOf_append, htold, hbefore, List.append_assoc]
    rfl
  · intro m hm
    show m.session ≤ v.generation
    rw [hgeneration]
    rcases List.mem_append.mp hm with hm | hm
    · exact Nat.le_of_lt (h.older m hm)
    · rcases List.mem_pair.mp hm with rfl | rfl
      · exact Nat.le_refl _
      · exact Nat.le_of_eq (verdict.session_milestone t)

end Reader

end MangaReader

import MangaReader.Proofs.Backend.Agree
import MangaReader.Proofs.Command.Action
import MangaReader.Proofs.Except
import MangaReader.Proofs.Reading.Browsing
import MangaReader.Proofs.Reading.Chapter

/-!
# What reading chapters shows

A command that reads chapters writes each when it is complete. Its output and its exit status are a
matter of the chapters that are read and of how each ends.

* `statusOf`, `shownTexts` : the exit status and the output that some readings lead to.
* `Readout` : what comes of reading chapters.
* `readout` : what comes of a chapter that is opened, and so many after it.
* `read_opens_and_prints` : what the whole command does.
-/

namespace MangaReader.Command

open Backend Feed Output Command.Action

def statusOf (opened : List (Chapter × Verdict)) : Nat :=
  (opened.getLast?.map fun x => x.2.exit).getD 0

def shownText (o : Options) : Chapter × Verdict → String
  | (chapter, .complete pages) =>
    written ((pagesReport o.colored chapter pages).text o.output)
  | (_, .failed) | (_, .late) => ""

def shownTexts (o : Options) (opened : List (Chapter × Verdict)) : String :=
  String.join (opened.map (shownText o))

def exitOf {α : Type} : Except CommandError α → Nat
  | .ok _ => 0
  | .error e => e.exit

/-- What comes of reading chapters from a session on: the exit status, the backend, what was
written, and a reader to which the first one was led and which has told the story. -/
structure Readout (o : Options) (r : Reader) (before : List Milestone) (session : Nat)
    (opened : List (Chapter × Verdict)) (after : Backend) (s : Session)
    (ran : Except CommandError Unit × Session) : Prop where
  status : exitOf ran.1 = statusOf opened
  backend : ran.2.backend = after
  output : ran.2.output = s.output ++ shownTexts o opened
  told : ∃ last : Reader, r.Leads last ∧ last.backend = after ∧
    last.milestones = before ++ story session opened

def readOn (o : Options) (r : Reader) (t : Ticket) (follow : Nat) : Action Unit := do
  let r ← readFrom o r t follow
  modify fun s => { s with backend := r.backend }

/-- What is done after a chapter is written: the next one is read, if so many are to follow. -/
def readAfter (o : Options) (r : Reader) (title : String) :
    Nat → Session → Except CommandError Unit × Session
  | 0, s => (.ok (), { s with backend := r.backend })
  | follow + 1, s =>
    match r.perform (.navigate .next) with
    | (r, .opened next) => (readOn o r next follow).run s
    | (r, _) =>
      (.ok (), { s with
        notes := s.notes ++ (title ++ " is the last chapter") ++ "\n"
        backend := r.backend })

variable {o : Options} {r : Reader} {t : Ticket} {before : List Milestone} {s : Session}
  {follow : Nat} {library : Library} {index : ChapterIndex} {rest : List Chapter}
  {chapter : Chapter} {backend after : Backend} {verdict : Verdict}

/-! ### What some readings lead to -/

theorem shownTexts_plain (hplain : o.output = .plain) (opened : List (Chapter × Verdict)) :
    shownTexts o opened =
      String.join (opened.map fun x => written ("\n".intercalate x.2.pages)) := by
  refine congrArg String.join (List.map_congr_left fun x _ => ?_)
  rcases x with ⟨chapter, pages | _ | _⟩
  · rw [shownText, hplain]
    rfl
  · rfl
  · rfl

theorem statusOf_cons_of_complete (hcomplete : verdict.isComplete)
    (opened : List (Chapter × Verdict)) :
    statusOf ((chapter, verdict) :: opened) = statusOf opened := by
  cases opened with
  | nil =>
    cases verdict with
    | complete pages => rfl
    | failed | late => cases hcomplete
  | cons x more => rw [statusOf, List.getLast?_cons_cons, statusOf]

/-! ### From a chapter on -/

theorem run_readOn (hloud : o.quiet = false) :
    (readOn o r t follow).run s =
      match r.await t with
      | (r, .error e) => (.error e, { s with backend := r.backend })
      | (r, .ok ()) =>
        readAfter o r t.chapter.title follow { s with
          output := s.output ++
            shownText o (t.chapter, .complete r.viewer.surface.rendered) } := by
  rw [readOn, readFrom.eq_def]
  rcases r.await t with ⟨r', e | _⟩
  · rfl
  · cases follow with
    | zero =>
      simp only [run_bind, run_report hloud]
      rfl
    | succ follow =>
      simp only [run_bind, run_report hloud, readAfter, shownText]
      rcases r'.perform (.navigate .next) with ⟨last, answer⟩
      cases answer with
      | opened next => simp only [readOn, run_bind]
      | _ =>
        simp only [run_bind, run_say hloud]
        rfl

/-! ### One chapter after the other -/

theorem readout_of_done (hbrowses : r.Browses library index before) (session : Nat)
    (notes : String) :
    Readout o r before session [] r.backend s (.ok (), { s with notes, backend := r.backend }) :=
  ⟨rfl, rfl, String.append_empty.symm, r, .refl r, rfl,
    hbrowses.told.trans (List.append_nil before).symm⟩

theorem Readout.of_leads {r' : Reader} {session : Nat} {opened : List (Chapter × Verdict)}
    {ran : Except CommandError Unit × Session} (hleads : r.Leads r')
    (h : Readout o r' before session opened after s ran) :
    Readout o r before session opened after s ran := by
  obtain ⟨last, hlast, htold⟩ := h.told
  exact ⟨h.status, h.backend, h.output, last, hleads.trans hlast, htold⟩

theorem Readout.cons {session : Nat} {opened : List (Chapter × Verdict)} {pages : List String}
    {ran : Except CommandError Unit × Session}
    (h : Readout o r
      (before ++ [.opened session chapter, .complete session chapter.id]) (session + 1) opened after
      { s with output := s.output ++ shownText o (chapter, .complete pages) } ran) :
    Readout o r before session ((chapter, .complete pages) :: opened) after s ran := by
  obtain ⟨hstatus, hbackend, houtput, last, hlast, hlastBackend, htold⟩ := h
  refine ⟨?_, hbackend, ?_, last, hlast, hlastBackend, ?_⟩
  · rw [hstatus, statusOf_cons_of_complete rfl]
  · rw [houtput, shownTexts, shownTexts, List.map_cons, String.join_cons, String.append_assoc]
  · rw [htold, List.append_assoc]
    rfl

/-- **A chapter ends the reading if it fails**, and else leaves it to the chapters after it. -/
theorem readout_of_first (hloud : o.quiet = false) (h : r.Shows library index before t)
    (hrest : ∀ r' before' s', r'.Browses library index before' → r'.viewer.state = .idle →
      r'.viewer.cursor = some t.chapter.cursor → r'.viewer.generation = t.session →
      Readout o r' before' (t.session + 1) (readings library rest r'.backend).1
        (readings library rest r'.backend).2 s' (readAfter o r' t.chapter.title follow s')) :
    Readout o r before t.session (readings library (t.chapter :: rest) r.backend).1
      (readings library (t.chapter :: rest) r.backend).2 s ((readOn o r t follow).run s) := by
  rcases hopening : library.client.openFeed t.chapter.id r.backend with ⟨opening, after⟩
  generalize hverdict : Verdict.ofOpening library.assets opening = verdict
  obtain ⟨r', result, hawait, hleads, hreports, hbrowses, rfl, hidle, hcursor, hgeneration,
    hpages⟩ := h.await hopening hverdict
  rw [run_readOn hloud, hawait]
  refine .of_leads hleads ?_
  cases verdict with
  | complete pages =>
    rw [readings_of_complete hopening hverdict rfl, hreports.complete rfl]
    simp only [hpages pages rfl]
    exact .cons (hrest r' _ _ hbrowses hidle hcursor hgeneration)
  | failed | late =>
    obtain ⟨e, rfl, hexit⟩ := hreports.failed rfl
    rw [readings_of_failed hopening hverdict rfl]
    exact ⟨hexit, rfl, String.append_empty.symm, r', .refl r', rfl, hbrowses.told⟩

theorem readout (follow : Nat) (hloud : o.quiet = false) (hnumbered : index.Numbered)
    (hcounted : (index.group t.chapter.kind).length ≤ 1 <<< 64)
    (h : r.Shows library index before t) :
    let chapters := t.chapter ::
      ((index.group t.chapter.kind).drop (t.chapter.position + 1)).take follow
    Readout o r before t.session (readings library chapters r.backend).1
      (readings library chapters r.backend).2 s ((readOn o r t follow).run s) := by
  induction follow generalizing r t before s with
  | zero =>
    refine readout_of_first hloud h fun r' before' s' hbrowses _ _ _ => ?_
    exact readout_of_done hbrowses _ s'.notes
  | succ follow ih =>
    refine readout_of_first hloud h fun r' before' s' hbrowses hidle hcursor hgeneration => ?_
    have hadjacent := ChapterIndex.adjacent_next t.chapter.cursor hcounted
    cases hnext : (index.group t.chapter.kind)[t.chapter.position + 1]? with
    | none =>
      rw [List.drop_eq_nil_of_le (List.getElem?_eq_none_iff.mp hnext), List.take_nil, readAfter,
        hbrowses.stays hcursor (hadjacent.trans hnext)]
      exact readout_of_done hbrowses _ _
    | some next =>
      obtain ⟨hlt, hget⟩ := List.getElem?_eq_some_iff.mp hnext
      obtain ⟨r'', hperform, hleads, hshows, hbackend⟩ :=
        hbrowses.navigates hidle hcursor (hadjacent.trans hnext)
      have hplace : next.cursor = ⟨t.chapter.kind, t.chapter.position + 1⟩ := hnumbered _ _ hnext
      obtain ⟨hkind, hposition⟩ := Cursor.mk.inj hplace
      have hrest := ih (s := s') (hkind ▸ hcounted) hshows
      rw [List.drop_eq_getElem_cons hlt, hget, List.take_succ_cons, readAfter, hperform, ← hbackend,
        ← hgeneration]
      rw [hkind, hposition] at hrest
      exact .of_leads hleads hrest

/-! ### The whole command -/

def settingsOf (settings : ReaderSettings) (q : ReadingRequest) : ReaderSettings :=
  { settings with recordHistory := settings.recordHistory && !q.withoutHistory }

theorem run_readerOf {q : ReadingRequest} {settings : ReaderSettings}
    (hsettings : o.readerSettings s.machine q.manga = .ok settings)
    (hlibrary : Library.connect s.machine.files settings.access settings.assets settings.server =
      .ok library)
    (hindex : library.chapters settings.manga s.backend = (.ok index, backend)) :
    (readerOf o q).run s =
      (.ok (.listing (settingsOf settings q) library index q.group backend),
        { s with backend }) := by
  have hconnect : Reader.connect s.machine.files (settingsOf settings q) s.backend =
      .ok (.ofLibrary (settingsOf settings q) library s.backend) := by
    simp only [Reader.connect, settingsOf, hlibrary, Except.map]
  have hload := Reader.perform_loadIndex (settingsOf settings q) rfl hindex
  unfold settingsOf at hconnect hload
  rw [readerOf]
  simp only [run_bind, run_machine, hsettings, run_check_ok, run_get, hconnect, run_modify, hload]
  rfl

theorem numbered_chapters {manga : Int} {before : Backend}
    (h : library.chapters manga before = (.ok index, after)) : index.Numbered := by
  rw [Library.chapters, Client.bind_apply] at h
  split at h
  · obtain ⟨parsed, -, rfl⟩ := map_eq_ok (congrArg Prod.fst h)
    exact ChapterIndex.numbered_ofGroups parsed
  · cases h

theorem run_read_of_no_chapter {q : ReadingRequest}
    (hreader : (readerOf o q).run s = (.ok r, { s with backend }))
    (hplace : r.viewer.index.resolve ⟨q.group, q.position⟩ = none) :
    ∃ e, (read o q).run s = (.error e, { s with backend }) ∧ e.exit = 2 := by
  have hrefused : ∃ reason, (r.perform (.select ⟨q.group, q.position⟩)).2 =
      .refused (.invalidSelection ⟨q.group, q.position⟩ reason) := by
    simp only [Reader.perform, Reader.call, Viewer.select, hplace]
    exact ⟨_, rfl⟩
  obtain ⟨reason, hrefused⟩ := hrefused
  rcases hperform : r.perform (.select ⟨q.group, q.position⟩) with ⟨r', answer⟩
  rw [hperform] at hrefused
  subst hrefused
  refine ⟨.ofRead (.invalidSelection ⟨q.group, q.position⟩ reason), ?_, rfl⟩
  simp only [read, run_bind, hreader, hperform]
  rfl

theorem run_read_of_opened {q : ReadingRequest} {r' : Reader}
    (hreader : (readerOf o q).run s = (.ok r, { s with backend }))
    (hopens : r.perform (.select ⟨q.group, q.position⟩) = (r', .opened t)) :
    (read o q).run s = (readOn o r' t q.follow).run { s with backend } := by
  simp only [read, run_bind, hreader, hopens, readOn]

/-- **What reading chapters does**, after the index was loaded, where nothing is recorded and 64
bits count the positions of the group. The chapters that are read are those of the group from the
position on, and so many after it, as long as each is complete: what comes after the first that
fails is left out. They are opened in their order, each one after the one before was complete. If
the position is not in the group, none is.

What is written of each chapter that is complete is its report; as plain output these are the pages
in its slots, a line for each. The exit status is 0 if no chapter fails, 8 if time has run out for
one, and 1 if one fails otherwise; it is 2 if the position is not in the group. -/
theorem read_opens_and_prints (o : Options) (q : ReadingRequest) (s : Session)
    (settings : ReaderSettings) (library : Library) (index : ChapterIndex) (backend : Backend)
    (hloud : o.quiet = false)
    (hsettings : o.readerSettings s.machine q.manga = .ok settings)
    (hhistory : (settings.recordHistory && !q.withoutHistory) = false)
    (hlibrary : Library.connect s.machine.files settings.access settings.assets settings.server =
      .ok library)
    (hindex : library.chapters settings.manga s.backend = (.ok index, backend))
    (hcounted : (index.group q.group).length ≤ 1 <<< 64) :
    let group := index.group q.group
    let chapters := (group.drop q.position).take (q.follow + 1)
    let opened := (readings library chapters backend).1
    let after := (readings library chapters backend).2
    let ran := (read o q).run s
    (group.length ≤ q.position → opened = [] ∧ after = backend ∧ exitOf ran.1 = 2) ∧
      (q.position < group.length → exitOf ran.1 = statusOf opened) ∧
      opened.map (·.1) <+: chapters ∧ (∀ x ∈ opened.dropLast, x.2.isComplete) ∧
      (opened.map (·.1) = chapters ∨ ∃ x, opened.getLast? = some x ∧ x.2.isComplete = false) ∧
      ran.2.backend = after ∧
      ran.2.output = s.output ++ shownTexts o opened ∧
      (o.output = .plain → shownTexts o opened =
        String.join (opened.map fun x => written ("\n".intercalate x.2.pages))) ∧
      ∃ r last, (readerOf o q).run s = (.ok r, { s with backend }) ∧ r.Leads last ∧
        last.backend = after ∧ last.milestones = story 1 opened := by
  intro group chapters opened after ran
  have hnumbered := numbered_chapters hindex
  have hreader := run_readerOf (q := q) hsettings hlibrary hindex
  have hbrowses := Reader.browses_listing (settingsOf settings q) library index q.group backend
    hhistory
  obtain ⟨hsome, hcomplete, hend⟩ := readings_in_order library chapters backend
  rcases Nat.lt_or_ge q.position group.length with hlt | hge
  · obtain ⟨r, t, hperform, hleads, hshows, hbackend, hsession, hchapter⟩ :=
      hbrowses.selects ⟨q.group, q.position⟩ hlt
    obtain ⟨hkind, hposition⟩ := Cursor.mk.inj (hnumbered _ _ hchapter)
    have hchapters : t.chapter ::
        ((index.group t.chapter.kind).drop (t.chapter.position + 1)).take q.follow = chapters := by
      obtain ⟨_, hget⟩ := List.getElem?_eq_some_iff.mp hchapter
      rw [hkind, hposition, ← hget, ← List.take_succ_cons, ← List.drop_eq_getElem_cons]
    have hreadout := readout (s := { s with backend }) q.follow hloud hnumbered
      (hkind ▸ hcounted) hshows
    rw [hchapters, hbackend, hsession, ← run_read_of_opened hreader hperform] at hreadout
    obtain ⟨last, hlast, hlastBackend, htold⟩ := hreadout.told
    have hnot : ¬ group.length ≤ q.position := Nat.not_le.mpr hlt
    exact ⟨fun hle => absurd hle hnot, fun _ => hreadout.status, hsome, hcomplete, hend,
      hreadout.backend, hreadout.output, fun hplain => shownTexts_plain hplain _, _, last, hreader,
      hleads.trans hlast, hlastBackend, htold⟩
  · obtain ⟨e, hread, hexit⟩ :=
      run_read_of_no_chapter hreader (ChapterIndex.resolve_eq_none_iff.mpr hge)
    have hchapters : chapters = [] := by
      show (group.drop q.position).take (q.follow + 1) = []
      rw [List.drop_eq_nil_of_le hge, List.take_nil]
    have hreadings : readings library chapters backend = ([], backend) := by
      rw [hchapters]
      rfl
    have hopened : opened = [] := congrArg Prod.fst hreadings
    have hafter : after = backend := congrArg Prod.snd hreadings
    have hran : ran = (.error e, { s with backend }) := hread
    have hstatus : exitOf ran.1 = 2 := by
      rw [hran]
      exact hexit
    refine ⟨fun _ => ⟨hopened, hafter, hstatus⟩, fun hlt => absurd hlt (Nat.not_lt.mpr hge),
      hsome, hcomplete, hend, ?_, ?_, fun hplain => shownTexts_plain hplain _, _, _, hreader,
      .refl _, hafter.symm, ?_⟩
    · rw [hran, hafter]
    · rw [hran, hopened]
      exact String.append_empty.symm
    · rw [hopened]
      rfl

/-! ### A chapter that is late -/

def sampleOptions : Options := { server := some "http://reader", output := .plain }

def sampleRequest : ReadingRequest := { manga := 3, follow := 5, withoutHistory := true }

def sampleIndex : ChapterIndex := .ofGroups [(.chapter, [(1, ""), (2, "")])]

/-- Two pages, the last one first, and the mark of the end. -/
def samplePages : Body :=
  ⟨["data:[1,2,\"b\"]\n\ndata:[0,2,\"a\"]\n\ndata:\x7b\x7d\n\n".toUTF8.toList], .complete⟩

/-- A backend of two chapters, of which the pages of the second never arrive. -/
def sampleScript : Backend where
  origin := some "http://reader"
  routes :=
    [⟨.get, "/api/chapters",
        [.answer ⟨200, ⟨[("\x7b\"Chapter\":[\x7b\"id\":1,\"title\":\"\"\x7d," ++
          "\x7b\"id\":2,\"title\":\"\"\x7d]\x7d").toUTF8.toList], .complete⟩⟩]⟩,
      ⟨.get, "/api/pages", [.answer ⟨200, samplePages⟩, .answer ⟨200, ⟨[], .hang⟩⟩]⟩]

def sampleLoaded : Backend :=
  { sampleScript with
    received := [{
      method := .get
      url := { Reader.sampleSettings.server with
        path := .segments ["api", "chapters"], query := some "manga_id=3" } }] }

theorem chapters_sampleScript :
    Reader.sampleLibrary.chapters 3 sampleScript = (.ok sampleIndex, sampleLoaded) := by
  with_unfolding_all rfl

theorem resultsOf_samplePages :
    resultsOf samplePages =
      [.ok (.page ⟨1, 2, "b"⟩), .ok (.page ⟨0, 2, "a"⟩), .ok .terminal] := by decide +kernel

theorem readings_sampleLoaded :
    (readings Reader.sampleLibrary [⟨1, "", .chapter, 0⟩, ⟨2, "", .chapter, 1⟩] sampleLoaded).1 =
      [(⟨1, "", .chapter, 0⟩, .complete ["a", "b"]), (⟨2, "", .chapter, 1⟩, .late)] := by
  have hfirst : (Reader.sampleLibrary.client.openFeed 1 sampleLoaded).1 =
      .opened { body := samplePages } := by decide +kernel
  have hsecond : (Reader.sampleLibrary.client.openFeed 2
      (Reader.sampleLibrary.client.openFeed 1 sampleLoaded).2).1 =
      .opened { body := ⟨[], .hang⟩ } := by decide +kernel
  have hcomplete : Verdict.ofOpening {} (.opened { body := samplePages }) =
      .complete ["a", "b"] := by
    rw [Verdict.ofOpening, resultsOf_samplePages]
    decide +kernel
  have hlate : Verdict.ofOpening {} (.opened { body := ⟨[], .hang⟩ }) = .late := by decide
  rw [readings_of_complete (Prod.ext hfirst rfl) hcomplete rfl,
    readings_of_failed (Prod.ext hsecond rfl) hlate rfl]

/-- The pages of the first chapter are written in their order before the second is late. -/
theorem read_opens_and_prints_late :
    let ran := (read sampleOptions sampleRequest).run { backend := sampleScript }
    exitOf ran.1 = 8 ∧ ran.2.output = "a\nb\n" := by
  intro ran
  obtain ⟨-, hstatus, -, -, -, -, houtput, hplain, -⟩ :=
    read_opens_and_prints sampleOptions sampleRequest { backend := sampleScript }
      Reader.sampleSettings Reader.sampleLibrary sampleIndex sampleLoaded rfl (by decide +kernel)
      rfl (by decide +kernel) chapters_sampleScript (by decide)
  have hopened : (readings Reader.sampleLibrary
      (((sampleIndex.group sampleRequest.group).drop sampleRequest.position).take
        (sampleRequest.follow + 1)) sampleLoaded).1 =
      [(⟨1, "", .chapter, 0⟩, .complete ["a", "b"]), (⟨2, "", .chapter, 1⟩, .late)] :=
    readings_sampleLoaded
  rw [hopened] at hstatus hplain houtput
  rw [hplain rfl] at houtput
  exact ⟨hstatus (by decide), houtput⟩

end MangaReader.Command

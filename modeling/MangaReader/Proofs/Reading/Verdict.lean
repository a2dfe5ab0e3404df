import MangaReader.Command.Reading
import MangaReader.Proofs.Reading.Results

/-!
# How the loading of a chapter ends

How the loading of a chapter ends is a matter of what the backend answers to the request of its
feed. The chapter is complete with what is in its slots then; it is late if all that arrives are
pages that fit, and no more arrives; and it fails in every other way. What the listeners are told of
that are milestones, from which the end that is waited for is read off.

* `Verdict` : the ways in which the loading ends, with the exit status that goes with each.
* `Verdict.ofOpening`, `Verdict.ofResults` : the verdict of an answer.
* `Milestone`, `Reader.milestones` : what listeners are told of the openings and ends of sessions.
* `Reader.ending_of_milestones` : the end that is waited for, where it was told.
-/

namespace MangaReader

open Backend Feed

inductive Verdict where
  /-- The chapter is complete, with some pages in its slots. -/
  | complete (pages : List String)
  | failed
  /-- Time has run out. -/
  | late
  deriving DecidableEq, Repr

/-- What the listeners of a reader are told of a session as a whole. -/
inductive Milestone where
  | opened (session : Nat) (chapter : Chapter)
  | complete (session : Nat) (chapter : Int)
  | failed (session : Nat) (chapter : Int) (late : Bool)
  deriving DecidableEq, Repr

instance (results : List (Except Failure PageEvent)) : Decidable (Completes results) :=
  inferInstanceAs (Decidable (_ ∧ _))

namespace Verdict

/-- How the loading ends where a feed delivers some results before its body ends. -/
def ofResults (assets : AssetPaths) (results : List (Except Failure PageEvent))
    (ending : BodyEnd) : Verdict :=
  if Completes results then
    .complete ((slotsOf assets (totalOf results) (pagesOf results)).filterMap id)
  else if results = asPages (shownOf results) ∧ ending = .hang then .late
  else .failed

def ofOpening (assets : AssetPaths) : Opening → Verdict
  | .opened feed => ofResults assets (resultsOf feed.body) feed.body.ending
  | .failed _ => .failed
  | .blocked => .late

def isComplete : Verdict → Bool
  | .complete _ => true
  | .failed | .late => false

def pages : Verdict → List String
  | .complete pages => pages
  | .failed | .late => []

def exit : Verdict → Nat
  | .complete _ => 0
  | .failed => 1
  | .late => 8

def milestone (t : Ticket) : Verdict → Milestone
  | .complete _ => .complete t.session t.chapter.id
  | .failed => .failed t.session t.chapter.id false
  | .late => .failed t.session t.chapter.id true

def ofError (e : ReadError) : Verdict := if e.isTimeout then .late else .failed

end Verdict

def Milestone.session : Milestone → Nat
  | .opened session _ | .complete session _ | .failed session _ _ => session

theorem Verdict.session_milestone (t : Ticket) (verdict : Verdict) :
    (verdict.milestone t).session = t.session := by
  cases verdict <;> rfl

def Milestone.isOpening : Milestone → Bool
  | .opened _ _ => true
  | .complete _ _ | .failed _ _ _ => false

def ReaderEvent.milestone? : ReaderEvent → Option Milestone
  | .sessionOpened session chapter => some (.opened session chapter)
  | .chapterComplete session chapter _ => some (.complete session chapter)
  | .streamFailed session chapter error => some (.failed session chapter error.isTimeout)
  | _ => none

def milestonesOf (events : List ReaderEvent) : List Milestone :=
  events.filterMap ReaderEvent.milestone?

@[simp] theorem milestonesOf_nil : milestonesOf [] = [] := rfl

@[simp] theorem milestonesOf_append (events later : List ReaderEvent) :
    milestonesOf (events ++ later) = milestonesOf events ++ milestonesOf later :=
  List.filterMap_append

/-! ### The verdict of an answer -/

section results
variable {assets : AssetPaths} {results rest : List (Except Failure PageEvent)} {ending : BodyEnd}
  {pages : List PageDescriptor}

theorem Verdict.ofResults_of_terminal (h : results = asPages pages ++ [.ok .terminal])
    (hfits : ∀ p ∈ pages, p.Fits (totalOf results)) :
    ofResults assets results ending =
      .complete ((slotsOf assets ((announced pages).getD 0) pages).filterMap id) := by
  obtain ⟨hshown, hcompletes, htotal⟩ := shownOf_of_terminal h hfits
  have hpages : pagesOf results = pages := hcompletes.1.symm.trans hshown
  rw [ofResults, if_pos hcompletes, htotal, hpages]

theorem Verdict.ofResults_of_pages (h : results = asPages pages)
    (hfits : ∀ p ∈ pages, p.Fits (totalOf results)) :
    ofResults assets results ending = if ending = .hang then .late else .failed := by
  obtain ⟨hshown, hbreaks⟩ := (Breaks.early h).shownOf_eq hfits
  rw [ofResults, if_neg hbreaks, hshown]
  simp only [h, true_and]

theorem Verdict.ofResults_of_break (hbreaks : Breaks results pages) (hrest : rest ≠ [])
    (h : results = asPages pages ++ rest) (hfits : ∀ p ∈ pages, p.Fits (totalOf results)) :
    ofResults assets results ending = .failed := by
  obtain ⟨hshown, hnot⟩ := hbreaks.shownOf_eq hfits
  have hmore : results ≠ asPages (shownOf results) := by
    rw [hshown, h]
    exact fun hsame => hrest (List.append_right_eq_self.mp hsame)
  rw [ofResults, if_neg hnot, if_neg fun hlate => hmore hlate.1]

end results

/-! ### The end that is waited for -/

namespace Reader

def milestones (r : Reader) : List Milestone := milestonesOf r.events

/-- An end of a session, as who waits for it takes it. -/
structure Reports (verdict : Verdict) (result : Except CommandError Unit) : Prop where
  complete : verdict.isComplete → result = .ok ()
  failed : verdict.isComplete = false → ∃ e, result = .error e ∧ e.exit = verdict.exit

variable {r : Reader} {t : Ticket} {verdict : Verdict}

theorem ending_eq_none
    (h : ∀ m ∈ r.milestones, m.isOpening ∨ m.session ≠ t.session) : r.ending t = none := by
  rw [ending, List.findSome?_eq_none_iff]
  intro e he
  have hmilestone : ∀ m, e.milestone? = some m → m.isOpening ∨ m.session ≠ t.session :=
    fun m hm => h m (List.mem_filterMap.mpr ⟨e, he, hm⟩)
  cases e with
  | chapterComplete session chapter pages =>
    have hother : session ≠ t.session := (hmilestone _ rfl).resolve_left nofun
    exact if_neg hother
  | streamFailed session chapter error =>
    have hother : session ≠ t.session := (hmilestone _ rfl).resolve_left nofun
    exact if_neg hother
  | _ => rfl

theorem ending_of_milestones {before after : List Milestone}
    (h : r.milestones = before ++ verdict.milestone t :: after)
    (hbefore : ∀ m ∈ before, m.isOpening ∨ m.session ≠ t.session) :
    ∃ result, r.ending t = some result ∧ Reports verdict result := by
  obtain ⟨early, late, hevents, hearly, hlate⟩ := List.filterMap_eq_append_iff.mp h
  obtain ⟨quiet, e, rest, hlater, hquiet, he, -⟩ := List.filterMap_eq_cons_iff.mp hlate
  have hnone : ∀ events, (∀ m ∈ milestonesOf events, m.isOpening ∨ m.session ≠ t.session) →
      ({ r with events } : Reader).ending t = none := fun events hall => ending_eq_none hall
  have hfirst := hnone early (by rwa [milestonesOf, hearly])
  have hsecond := hnone quiet (by
    rw [milestonesOf, List.filterMap_eq_nil_iff.mpr hquiet]
    nofun)
  rw [ending] at hfirst hsecond ⊢
  rw [hevents, hlater, List.findSome?_append, hfirst, List.findSome?_append, hsecond,
    List.findSome?_cons]
  cases e with
  | chapterComplete session chapter pages =>
    cases verdict with
    | complete shown =>
      obtain ⟨rfl, rfl⟩ : session = t.session ∧ chapter = t.chapter.id := by
        simpa [ReaderEvent.milestone?, Verdict.milestone] using he
      exact ⟨.ok (), by simp, fun _ => rfl, nofun⟩
    | failed | late => simp [ReaderEvent.milestone?, Verdict.milestone] at he
  | streamFailed session chapter error =>
    cases verdict with
    | complete shown => simp [ReaderEvent.milestone?, Verdict.milestone] at he
    | failed =>
      obtain ⟨rfl, rfl, herror⟩ :
          session = t.session ∧ chapter = t.chapter.id ∧ error.isTimeout = false := by
        simpa [ReaderEvent.milestone?, Verdict.milestone] using he
      exact ⟨.error (.stream t.chapter.title error.message), by simp [herror], nofun,
        fun _ => ⟨_, rfl, rfl⟩⟩
    | late =>
      obtain ⟨rfl, rfl, herror⟩ :
          session = t.session ∧ chapter = t.chapter.id ∧ error.isTimeout = true := by
        simpa [ReaderEvent.milestone?, Verdict.milestone] using he
      exact ⟨.error (.timeout t.chapter.title error.message), by simp [herror], nofun,
        fun _ => ⟨_, rfl, rfl⟩⟩
  | _ => cases verdict <;> simp [ReaderEvent.milestone?, Verdict.milestone] at he

end Reader

end MangaReader

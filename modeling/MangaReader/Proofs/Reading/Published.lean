import MangaReader.Proofs.Reading.Coherent
import MangaReader.Reading.Schedule

/-!
# What the listeners see of the state

The state that the listeners see is a copy, which every step that opens, completes, fails or closes
a session has to renew. None forgets to, so that who waits for the reader to be idle waits as long
as a session is incomplete and no longer.

* `Viewer.Loads` : a viewer with an incomplete session.
* `Reader.Leads` : some steps lead from one reader to another.
* `Reader.published_and_waited` : the copy is the state after every run.
-/

namespace MangaReader

/-- The open session is incomplete. -/
def Viewer.Loads (v : Viewer) : Prop := ∃ s, v.session = some s ∧ s.complete = false

theorem Viewer.state_eq_loading_iff {v : Viewer} {session : Nat} {chapter : Int} :
    v.state = .loading session chapter ↔
      ∃ s, v.session = some s ∧ s.complete = false ∧ s.id = session ∧ s.chapter.id = chapter := by
  unfold Viewer.state
  cases hs : v.session with
  | none => simp
  | some s => cases hcomplete : s.complete <;> simp [hcomplete]

theorem Viewer.state_eq_idle_iff {v : Viewer} : v.state = .idle ↔ ¬ v.Loads := by
  unfold Viewer.state Viewer.Loads
  cases hs : v.session with
  | none => simp
  | some s => cases hcomplete : s.complete <;> simp [hcomplete]

namespace Reader

/-- Some steps lead from one reader to another. -/
def Leads (r r' : Reader) : Prop := ∃ steps, r' = (r.run steps).1

variable {r r₁ r₂ : Reader}

/-! ### Where the tasks lead -/

theorem Leads.refl (r : Reader) : Leads r r := ⟨[], rfl⟩

theorem Leads.trans (h₁ : Leads r r₁) (h₂ : Leads r₁ r₂) : Leads r r₂ := by
  obtain ⟨before, rfl⟩ := h₁
  obtain ⟨after, rfl⟩ := h₂
  exact ⟨before ++ after, (r.run_append_fst before after).symm⟩

theorem Leads.step (s : Step) : Leads r (r.step s).1 := ⟨[s], rfl⟩

theorem leads_stepFeeds (n : Nat) : Leads r (r.stepFeeds n) := by
  induction n generalizing r with
  | zero => exact .refl r
  | succ n ih => exact .trans (.step .feed) ih

theorem leads_stepHistories (n : Nat) : Leads r (r.stepHistories n) := by
  induction n generalizing r with
  | zero => exact .refl r
  | succ n ih => exact .trans (.step (.history 0)) ih

theorem leads_settle : Leads r r.settle := by
  have hfeed : Leads r (r.stepFeed.stepFeeds r.stepFeed.feedSteps) :=
    .trans (.step .feed) (leads_stepFeeds _)
  exact .trans hfeed (leads_stepHistories _)

theorem leads_waitIdle : Leads r r.waitIdle.1 := by
  -- each wait passes by a reader that is idle already
  have hsettle : ∀ r : Reader, Leads r (if r.published = .idle then r else r.settle) := by
    intro r
    split
    · exact .refl r
    · exact leads_settle
  have hexpire : ∀ r : Reader, Leads r (if r.published = .idle then r else r.expire.settle) := by
    intro r
    split
    · exact .refl r
    · exact .trans (.step .expire) (leads_settle (r := r.expire))
  exact .trans (hsettle r) (hexpire _)

theorem Coherent.leads (h : Leads r r₁) (hr : Coherent r) : Coherent r₁ := by
  obtain ⟨steps, rfl⟩ := h
  exact hr.run steps

/-! ### The copy -/

theorem Coherent.published_eq_idle_iff (hr : Coherent r) :
    r.published = .idle ↔ ¬ r.viewer.Loads := by
  rw [hr.published]
  exact Viewer.state_eq_idle_iff

/-- **The state that the listeners see is that of the viewer**, after every run of steps of calls
and tasks. So it is idle just when no session is incomplete, and else it names that session and its
chapter. Who waits for it to be idle goes on at once if no session is incomplete; else the tasks run
on, and whether it comes to that is whether they leave no session incomplete. -/
theorem published_and_waited (settings : ReaderSettings) (library : Library) (backend : Backend)
    (steps : List Step) :
    let r := ((ofLibrary settings library backend).run steps).1
    r.published = r.viewer.state ∧
      (r.published = .idle ↔ ¬ r.viewer.Loads) ∧
      (∀ session chapter, r.published = .loading session chapter ↔
        ∃ s, r.viewer.session = some s ∧ s.complete = false ∧ s.id = session ∧
          s.chapter.id = chapter) ∧
      (¬ r.viewer.Loads → r.waitIdle = (r, true)) ∧
      Leads r r.waitIdle.1 ∧
      (r.waitIdle.2 = true ↔ ¬ r.waitIdle.1.viewer.Loads) := by
  intro r
  have hr : Coherent r := (coherent_ofLibrary settings library backend).run steps
  refine ⟨hr.published, hr.published_eq_idle_iff, ?_, ?_, leads_waitIdle, ?_⟩
  · intro session chapter
    rw [hr.published]
    exact Viewer.state_eq_loading_iff
  · intro hloads
    have hidle : r.published = .idle := hr.published_eq_idle_iff.mpr hloads
    simp [waitIdle, hidle]
  · have hwaited : Coherent r.waitIdle.1 := hr.leads leads_waitIdle
    have hwhen : r.waitIdle.2 = true ↔ r.waitIdle.1.published = .idle := decide_eq_true_iff
    rw [hwhen]
    exact hwaited.published_eq_idle_iff

end Reader

end MangaReader

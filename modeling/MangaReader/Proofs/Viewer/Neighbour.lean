import MangaReader.Proofs.Viewer.Standing

/-!
# The chapter beside the open one

A step to the chapter beside is the selection of its place. Where the step is taken, ticket, viewer
and surface are those of the selection; it is not taken while a chapter is being loaded, without a
place, and at the end of a group. That there is a chapter at every other place is due to the place
of a viewer being one of its index (`Viewer.Located`), whatever index has replaced another.

* `Cursor.beside`, `ChapterIndex.EndsAt` : the place beside a place, and where there is none.
* `Viewer.navigate_of_stays`, `Viewer.navigate_eq_select` : what a step does in any viewer.
* `Viewer.navigation_is_selection` : steps and selections in every viewer that a run leads to.
-/

namespace MangaReader

/-- The place beside a place. Before the first place there is none; it stands for itself. -/
def Cursor.beside (c : Cursor) : Direction → Cursor
  | .next => ⟨c.group, c.position + 1⟩
  | .previous => ⟨c.group, c.position - 1⟩

namespace ChapterIndex

def EndsAt (x : ChapterIndex) (place : Cursor) : Direction → Prop
  | .next => place.position + 1 = (x.group place.group).length
  | .previous => place.position = 0

/-- Whether all positions of an index can be counted with 64 bits. -/
def Counted (x : ChapterIndex) : Prop := ∀ kind, (x.group kind).length ≤ 1 <<< 64

variable {x : ChapterIndex} {place : Cursor} {d : Direction}

theorem resolve_eq_none_iff :
    x.resolve place = none ↔ (x.group place.group).length ≤ place.position :=
  List.getElem?_eq_none_iff

theorem exists_resolve (h : place.position < (x.group place.group).length) :
    ∃ c, x.resolve place = some c :=
  ⟨_, List.getElem?_eq_getElem h⟩

theorem adjacent_next (place : Cursor) (hcounted : (x.group place.group).length ≤ 1 <<< 64) :
    x.adjacent place .next = (x.group place.group)[place.position + 1]? := by
  rw [adjacent, Cursor.step?]
  split
  · rfl
  · rw [List.getElem?_eq_none (by omega)]
    rfl

theorem adjacent_of_endsAt (h : x.EndsAt place d) : x.adjacent place d = none := by
  cases d with
  | next =>
    rw [adjacent, Cursor.step?]
    split
    · exact resolve_eq_none_iff.mpr (Nat.le_of_eq h.symm)
    · rfl
  | previous =>
    have hzero : place.position = 0 := h
    rw [adjacent, Cursor.step?, if_pos hzero, Option.bind_none]

theorem adjacent_of_not_endsAt (hx : x.Counted)
    (hplace : place.position < (x.group place.group).length) (h : ¬ x.EndsAt place d) :
    ∃ c, x.adjacent place d = some c ∧ x.resolve (place.beside d) = some c := by
  have hcounted := hx place.group
  cases d with
  | next =>
    have hnext : place.position + 1 < (x.group place.group).length :=
      Nat.lt_of_le_of_ne hplace h
    obtain ⟨c, hc⟩ : ∃ c, x.resolve (place.beside .next) = some c := exists_resolve hnext
    refine ⟨c, ?_, hc⟩
    rw [adjacent, Cursor.step?, if_pos (Nat.lt_of_lt_of_le hnext hcounted), Option.bind_some]
    exact hc
  | previous =>
    have hpositive : ¬ place.position = 0 := h
    have hprevious : place.position - 1 < (x.group place.group).length := by omega
    obtain ⟨c, hc⟩ : ∃ c, x.resolve (place.beside .previous) = some c :=
      exists_resolve hprevious
    refine ⟨c, ?_, hc⟩
    rw [adjacent, Cursor.step?, if_neg hpositive, Option.bind_some]
    exact hc

end ChapterIndex

namespace Viewer

def Op.Counted : Op → Prop
  | .replaceIndex index => index.Counted
  | _ => True

variable {v v' : Viewer} {op : Op} {a : Answer} {place : Cursor} {chapter : Chapter}
  {d : Direction}

/-! ### Steps and selections of any viewer -/

theorem select_of_resolve (h : v.index.resolve place = some chapter) :
    v.select place = ((v.start chapter).1, .ok (v.start chapter).2) := by
  simp only [select, h]

theorem select_of_no_chapter (h : v.index.resolve place = none) :
    ∃ e, v.select place = (v, .error e) := by
  simp only [select, h]
  exact ⟨_, rfl⟩

theorem navigate_of_stays
    (h : v.state ≠ .idle ∨ (v.cursor.bind fun c => v.index.adjacent c d) = none) :
    v.navigate d = (v, none) := by
  unfold navigate
  split
  · rename_i hidle hnext
    rcases h with hloading | hnone
    · exact absurd hidle hloading
    · rw [hnone] at hnext
      cases hnext
  · rfl

/-- **A step that is taken opens what the selection of the place beside opens.** -/
theorem navigate_eq_select (hidle : v.state = .idle) (hcursor : v.cursor = some place)
    (hadjacent : v.index.adjacent place d = some chapter)
    (hbeside : v.index.resolve (place.beside d) = some chapter) :
    ∃ v' t, v.navigate d = (v', some t) ∧ v.select (place.beside d) = (v', .ok t) := by
  refine ⟨_, _, ?_, select_of_resolve hbeside⟩
  simp only [navigate, hidle, hcursor, Option.bind_some, hadjacent]

/-! ### The indices of a run -/

theorem Effect.counted (hv : v.index.Counted) (h : Effect v op v' a) (hop : op.Counted) :
    v'.index.Counted := by
  cases h with
  | indexReplaced => exact hop
  | _ => exact hv

theorem counted_run {ops : List Op} (hv : v.index.Counted) (hops : ∀ op ∈ ops, op.Counted) :
    (v.run ops).1.index.Counted :=
  run_keeps_of (I := fun w => w.index.Counted)
    (fun w op hop hw => (step_effect w op).counted hw hop) hv ops hops

theorem Located.position_lt (hv : Located v) (hcursor : v.cursor = some place) :
    place.position < (v.index.group place.group).length := by
  obtain ⟨c, hc, -⟩ := hv.place place hcursor
  exact (List.getElem?_eq_some_iff.mp hc).1

/-- **A step is the selection of the place beside.** Whatever a new viewer was asked, with indices
that are built of groups and can be counted with 64 bits: a step changes nothing and opens nothing
just when a chapter is being loaded, or there is no place, or the place is the end of its group that
way. In every other case its ticket, the viewer and the surface are those of selecting the place
beside. And a selection fails, and changes nothing, just when the position is not below the length
of the group; in every other case it opens the chapter there. -/
theorem navigation_is_selection (assets : AssetPaths) (ops : List Op)
    (hops : ∀ op ∈ ops, op.Built ∧ op.Counted) :
    let v := (({ assets } : Viewer).run ops).1
    (∀ d, v.navigate d = (v, none) ↔ v.state ≠ .idle ∨ v.cursor = none ∨
      ∃ place, v.cursor = some place ∧ v.index.EndsAt place d) ∧
    (∀ d place, v.state = .idle → v.cursor = some place → ¬ v.index.EndsAt place d →
      ∃ v' t, v.navigate d = (v', some t) ∧ v.select (place.beside d) = (v', .ok t)) ∧
    (∀ place, (∃ e, v.select place = (v, .error e)) ↔
      (v.index.group place.group).length ≤ place.position) ∧
    (∀ place, place.position < (v.index.group place.group).length →
      ∃ v' t, v.select place = (v', .ok t) ∧ v.index.resolve place = some t.chapter) := by
  intro v
  have hlocated : Located v := located_run (located_new assets) fun op hop => (hops op hop).1
  have hcounted : v.index.Counted := by
    refine counted_run (fun kind => ?_) fun op hop => (hops op hop).2
    cases kind <;> exact Nat.zero_le _
  have htaken : ∀ d place, v.state = .idle → v.cursor = some place → ¬ v.index.EndsAt place d →
      ∃ v' t, v.navigate d = (v', some t) ∧ v.select (place.beside d) = (v', .ok t) := by
    intro d place hidle hcursor hends
    obtain ⟨c, hadjacent, hbeside⟩ :=
      ChapterIndex.adjacent_of_not_endsAt hcounted (hlocated.position_lt hcursor) hends
    exact navigate_eq_select hidle hcursor hadjacent hbeside
  have hopens : ∀ place, place.position < (v.index.group place.group).length →
      ∃ v' t, v.select place = (v', .ok t) ∧ v.index.resolve place = some t.chapter := by
    intro place hplace
    obtain ⟨c, hc⟩ := ChapterIndex.exists_resolve hplace
    exact ⟨_, _, select_of_resolve hc, hc⟩
  refine ⟨fun d => ⟨fun hstays => ?_, fun hwhy => ?_⟩, htaken, fun place => ⟨?_, ?_⟩, hopens⟩
  · by_cases hidle : v.state = .idle
    · cases hcursor : v.cursor with
      | none => exact .inr (.inl rfl)
      | some place =>
        by_cases hends : v.index.EndsAt place d
        · exact .inr (.inr ⟨place, rfl, hends⟩)
        · obtain ⟨v', t, hnavigate, -⟩ := htaken d place hidle hcursor hends
          rw [hstays] at hnavigate
          cases hnavigate
    · exact .inl hidle
  · rcases hwhy with hloading | hnone | ⟨place, hcursor, hends⟩
    · exact navigate_of_stays (.inl hloading)
    · exact navigate_of_stays (.inr (by rw [hnone, Option.bind_none]))
    · refine navigate_of_stays (.inr ?_)
      rw [hcursor, Option.bind_some]
      exact ChapterIndex.adjacent_of_endsAt hends
  · rintro ⟨e, he⟩
    by_contra hlt
    obtain ⟨v', t, hselect, -⟩ := hopens place (Nat.lt_of_not_le hlt)
    rw [he] at hselect
    cases hselect
  · exact fun hle => select_of_no_chapter (ChapterIndex.resolve_eq_none_iff.mpr hle)

/-- A chapter that another index has moved to the end of its group while it was being loaded: a step
back opens what stands before it now, and there is no step on. -/
theorem navigation_is_selection_moved :
    let ops : List Op :=
      [.replaceIndex (.ofGroups [(.chapter, [(2, "b"), (1, "a")])]), .select ⟨.chapter, 0⟩,
        .replaceIndex (.ofGroups [(.chapter, [(5, "x"), (1, "a"), (2, "b")])]),
        .event 1 .terminal]
    let v := (({} : Viewer).run ops).1
    v.navigate .next = (v, none) ∧
      ∃ v' t, v.navigate .previous = (v', some t) ∧ v.select ⟨.chapter, 1⟩ = (v', .ok t) := by
  intro ops v
  have hops : ∀ op ∈ ops, op.Built ∧ op.Counted := by
    intro op hop
    simp only [ops, List.mem_cons, List.not_mem_nil, or_false] at hop
    rcases hop with rfl | rfl | rfl | rfl
    · exact ⟨⟨_, rfl⟩, by rintro (_ | _ | _) <;> decide⟩
    · exact ⟨trivial, trivial⟩
    · exact ⟨⟨_, rfl⟩, by rintro (_ | _ | _) <;> decide⟩
    · exact ⟨trivial, trivial⟩
  obtain ⟨hstays, htaken, -⟩ := navigation_is_selection {} ops hops
  refine ⟨(hstays .next).mpr (.inr (.inr ⟨⟨.chapter, 2⟩, by decide, rfl⟩)), ?_⟩
  exact htaken .previous ⟨.chapter, 2⟩ (by decide) (by decide) nofun

end Viewer

end MangaReader

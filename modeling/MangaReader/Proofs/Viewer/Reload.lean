import MangaReader.Proofs.Chapter.First
import MangaReader.Proofs.Viewer.Standing

/-!
# The place in a new index

A new index takes the viewer to the chapter of the current one's id. Of several chapters of that id
it is the first (`ChapterIndex.FirstOf`), even if another stands where the viewer stood. So a place
outlasts a new index just when it is the first one of its id there, and an index that is loaded
again can move the viewer to a chapter further up.

* `Viewer.cursor_replaceIndex_iff`, `Viewer.cursor_replaceIndex_eq_none_iff` : the place in a new
  index.
* `Viewer.first_place_outlasts_index` : which places a new index keeps.
* `Viewer.reload_moves_place` : an index that is loaded again moves the viewer.
-/

namespace MangaReader.Viewer

variable {v : Viewer} {index : ChapterIndex} {place : Cursor} {c : Chapter}

/-! ### Any viewer -/

/-- **A new index takes the viewer to the first chapter of the current one's id.** -/
theorem cursor_replaceIndex_iff (hindex : index.Numbered) (hc : v.current = some c) :
    (v.replaceIndex index).cursor = some place ↔ index.FirstOf c.id place := by
  have hcursor : (v.replaceIndex index).cursor = (index.find c.id).map Chapter.cursor := by
    rw [replaceIndex, hc, Option.bind_some]
  rw [hcursor, Option.map_eq_some_iff]
  constructor
  · rintro ⟨d, hfind, rfl⟩
    exact hindex.firstOf_of_find hfind
  · intro hfirst
    obtain ⟨d, hd, hid⟩ := hfirst.here
    obtain rfl := hindex place d hd
    exact ⟨d, hindex.find_eq_some_iff.mpr ⟨hd, hfirst⟩, rfl⟩

theorem cursor_replaceIndex_eq_none_iff :
    (v.replaceIndex index).cursor = none ↔
      ∀ c, v.current = some c → ∀ d ∈ index.toList, d.id ≠ c.id := by
  rw [replaceIndex, Option.map_eq_none_iff, Option.bind_eq_none_iff]
  exact forall₂_congr fun c _ => ChapterIndex.find_eq_none_iff

theorem exists_firstOf (hindex : index.Numbered) (hc : v.current = some c)
    (h : ∃ d ∈ index.toList, d.id = c.id) :
    ∃ place, (v.replaceIndex index).cursor = some place ∧ index.FirstOf c.id place := by
  cases hcursor : (v.replaceIndex index).cursor with
  | none =>
    obtain ⟨d, hd, hid⟩ := h
    exact absurd hid (cursor_replaceIndex_eq_none_iff.mp hcursor c hc d hd)
  | some place => exact ⟨place, rfl, (cursor_replaceIndex_iff hindex hc).mp hcursor⟩

theorem navigate_replaceIndex (hcursor : (v.replaceIndex v.index).cursor = v.cursor)
    (d : Direction) : ((v.replaceIndex v.index).navigate d).2 = (v.navigate d).2 := by
  have hstate : (v.replaceIndex v.index).state = v.state := rfl
  have hindex : (v.replaceIndex v.index).index = v.index := rfl
  simp only [navigate, hstate, hcursor, hindex]
  split <;> rfl

/-! ### Whole runs -/

/-- **The first place of its id outlasts an index.** Let a new viewer have been asked anything, with
indices that are built of groups, and have a place. There is a chapter at it. A new index that has a
chapter of the same id at that place takes the viewer to the first chapter of that id, which is the
one at the place just when no chapter of that id stands before it. If none does in the viewer's own
index, to load it again changes neither place nor chapter, and a step opens what it would have
opened without. -/
theorem first_place_outlasts_index (assets : AssetPaths) (ops : List Op)
    (hops : ∀ op ∈ ops, op.Built) (place : Cursor)
    (hplace : (({ assets } : Viewer).run ops).1.cursor = some place) :
    let v := (({ assets } : Viewer).run ops).1
    ∃ c, v.current = some c ∧
      (∀ index : ChapterIndex, (∃ groups, index = .ofGroups groups) →
        (∃ d, index.resolve place = some d ∧ d.id = c.id) →
        ∃ first, (v.replaceIndex index).cursor = some first ∧ index.FirstOf c.id first ∧
          (first = place ↔
            ∀ other d, index.resolve other = some d → other.Precedes place → d.id ≠ c.id)) ∧
      ((∀ other d, v.index.resolve other = some d → other.Precedes place → d.id ≠ c.id) →
        let reloaded := v.replaceIndex v.index
        reloaded.cursor = v.cursor ∧ reloaded.current = v.current ∧
          ∀ d, (reloaded.navigate d).2 = (v.navigate d).2) := by
  intro v
  have hlocated : Located v := located_run (located_new assets) hops
  obtain ⟨c, hresolve, -⟩ := hlocated.place place hplace
  have hc : v.current = some c := Option.bind_eq_some_iff.mpr ⟨place, hplace, hresolve⟩
  refine ⟨c, hc, ?_, fun hfirst => ?_⟩
  · rintro _ ⟨groups, rfl⟩ ⟨d, hd, hid⟩
    have hindex := ChapterIndex.numbered_ofGroups groups
    obtain ⟨first, hcursor, hfirst⟩ :=
      exists_firstOf hindex hc ⟨d, ChapterIndex.mem_toList.mpr ⟨place, hd⟩, hid⟩
    refine ⟨first, hcursor, hfirst, ?_, fun hbefore => ?_⟩
    · rintro rfl
      exact hfirst.first
    · exact hfirst.unique ⟨⟨d, hd, hid⟩, hbefore⟩
  · have hsame : (v.replaceIndex v.index).cursor = v.cursor := by
      rw [hplace]
      exact (cursor_replaceIndex_iff hlocated.index hc).mpr ⟨⟨c, hresolve, rfl⟩, hfirst⟩
    exact ⟨hsame, by rw [current, hsame]; rfl, navigate_replaceIndex hsame⟩

/-- A chapter whose id comes again after it and in another group, and an index in which it has
changed its title. -/
theorem first_place_outlasts_index_renamed :
    let ops : List Op :=
      [.replaceIndex (.ofGroups [(.misc, [(2, "x")]), (.chapter, [(1, "a"), (2, "b"), (2, "c")])]),
        .select ⟨.chapter, 1⟩]
    let v := (({} : Viewer).run ops).1
    let renamed := ChapterIndex.ofGroups [(.chapter, [(4, "z"), (2, "B"), (2, "c")])]
    (∀ op ∈ ops, op.Built) ∧ v.cursor = some ⟨.chapter, 1⟩ ∧
      (v.replaceIndex renamed).cursor = v.cursor ∧
      (v.replaceIndex v.index).current = v.current := by
  intro ops v renamed
  have hops : ∀ op ∈ ops, op.Built := by
    intro op hop
    simp only [ops, List.mem_cons, List.not_mem_nil, or_false] at hop
    rcases hop with rfl | rfl
    · exact ⟨_, rfl⟩
    · trivial
  have hplace : v.cursor = some ⟨.chapter, 1⟩ := by decide
  obtain ⟨c, hc, hnew, hcopy⟩ := first_place_outlasts_index {} ops hops ⟨.chapter, 1⟩ hplace
  have hid : c.id = 2 := by
    have hcurrent : v.current = some ⟨2, "b", .chapter, 1⟩ := by decide
    rw [hcurrent, Option.some.injEq] at hc
    rw [← hc]
  rw [hid] at hnew hcopy
  have hbefore : ∀ other : Cursor, other.Precedes ⟨.chapter, 1⟩ → other = ⟨.chapter, 0⟩ := by
    rintro ⟨group, i⟩ (hrank | ⟨rfl, hlt⟩)
    · cases hrank
    · exact congrArg (Cursor.mk .chapter) (Nat.lt_one_iff.mp hlt)
  obtain ⟨first, hcursor, -, hkept⟩ := hnew renamed ⟨_, rfl⟩ ⟨_, rfl, rfl⟩
  have hfirst : first = ⟨.chapter, 1⟩ := by
    refine hkept.mpr fun other d hd hother => ?_
    rw [hbefore other hother] at hd
    cases hd
    decide
  refine ⟨hops, hplace, ?_, (hcopy fun other d hd hother => ?_).2.1⟩
  · rw [hplace, ← hfirst]
    exact hcursor
  · rw [hbefore other hother] at hd
    cases hd
    decide

/-- **To load an index again can move the viewer**: the chapter before the open one has its id, so
that the next chapter is the open one once more. -/
theorem reload_moves_place :
    let v := (({} : Viewer).run
      [.replaceIndex (.ofGroups [(.chapter, [(1, "a"), (2, "b"), (2, "c"), (3, "d")])]),
        .select ⟨.chapter, 2⟩, .event 1 .terminal]).1
    let reloaded := v.replaceIndex v.index
    v.cursor = some ⟨.chapter, 2⟩ ∧ reloaded.index.resolve ⟨.chapter, 2⟩ = v.current ∧
      v.current = some ⟨2, "c", .chapter, 2⟩ ∧
      reloaded.cursor = some ⟨.chapter, 1⟩ ∧ reloaded.current = some ⟨2, "b", .chapter, 1⟩ ∧
      (v.navigate .next).2 = some ⟨2, ⟨3, "d", .chapter, 3⟩⟩ ∧
      (reloaded.navigate .next).2 = some ⟨2, ⟨2, "c", .chapter, 2⟩⟩ := by
  decide

end MangaReader.Viewer

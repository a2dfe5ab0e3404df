import MangaReader.Chapter.Index
import Mathlib.Data.List.Induction

/-!
# The places of an index

An index that is built of groups numbers the chapters of each group, so that every chapter in it
knows its own place, whatever the ids are.

* `ChapterIndex.Numbered` : every chapter of an index knows its place.
* `ChapterIndex.numbered_ofGroups` : an index that is built of groups is numbered.
* `ChapterIndex.Numbered.resolve_of_find` : a chapter that is found by its id is at its place.
-/

namespace MangaReader.ChapterIndex

/-- Every chapter knows its place. -/
def Numbered (x : ChapterIndex) : Prop := ∀ place c, x.resolve place = some c → c.cursor = place

variable {x : ChapterIndex}

/-! ### Building an index -/

theorem group_put (x : ChapterIndex) (kind other : ChapterKind) (chapters : List Chapter) :
    (x.put kind chapters).group other = if other = kind then chapters else x.group other := by
  cases kind <;> cases other <;> rfl

theorem getElem?_numbered (kind : ChapterKind) (entries : List (Int × String)) (i : Nat) :
    (numbered kind entries)[i]? = entries[i]?.map fun (id, title) => ⟨id, title, kind, i⟩ := by
  rw [numbered, List.getElem?_mapIdx]

theorem numbered_empty : ({} : ChapterIndex).Numbered := by
  rintro ⟨kind, i⟩ c h
  cases kind <;> cases h

theorem Numbered.put (hx : x.Numbered) (kind : ChapterKind) (entries : List (Int × String)) :
    (x.put kind (numbered kind entries)).Numbered := by
  rintro ⟨group, i⟩ c h
  rw [resolve, group_put] at h
  split at h
  · rename_i hgroup
    rw [getElem?_numbered] at h
    obtain ⟨⟨id, title⟩, -, rfl⟩ := Option.map_eq_some_iff.mp h
    exact congrArg (Cursor.mk · i) hgroup.symm
  · exact hx ⟨group, i⟩ c h

theorem numbered_ofGroups (groups : List (ChapterKind × List (Int × String))) :
    (ofGroups groups).Numbered := by
  induction groups using List.reverseRecOn with
  | nil => exact numbered_empty
  | append_singleton groups group ih =>
    rw [ofGroups, List.foldl_append]
    exact ih.put group.1 group.2

/-! ### Chapters and their places -/

theorem mem_toList {c : Chapter} : c ∈ x.toList ↔ ∃ place, x.resolve place = some c := by
  constructor
  · intro h
    obtain ⟨tab, htab, hc⟩ := List.mem_flatMap.mp h
    obtain ⟨kind, -, rfl⟩ := List.mem_map.mp htab
    obtain ⟨i, hi⟩ := List.mem_iff_getElem?.mp hc
    exact ⟨⟨kind, i⟩, hi⟩
  · rintro ⟨⟨kind, i⟩, h⟩
    have hkind : kind ∈ ChapterKind.all := by cases kind <;> decide
    exact List.mem_flatMap.mpr ⟨(kind, x.group kind), List.mem_map.mpr ⟨kind, hkind, rfl⟩,
      List.mem_of_getElem? h⟩

theorem Numbered.resolve_of_mem (hx : x.Numbered) {c : Chapter} (h : c ∈ x.toList) :
    x.resolve c.cursor = some c := by
  obtain ⟨place, hplace⟩ := mem_toList.mp h
  rw [hx place c hplace]
  exact hplace

theorem Numbered.resolve_of_find (hx : x.Numbered) {id : Int} {c : Chapter}
    (h : x.find id = some c) : x.resolve c.cursor = some c ∧ c.id = id :=
  ⟨hx.resolve_of_mem (List.mem_of_find?_eq_some h), by simpa using List.find?_some h⟩

theorem exists_resolve_of_adjacent {place : Cursor} {d : Direction} {c : Chapter}
    (h : x.adjacent place d = some c) : ∃ other, x.resolve other = some c := by
  obtain ⟨other, -, hother⟩ := Option.bind_eq_some_iff.mp h
  exact ⟨other, hother⟩

end MangaReader.ChapterIndex

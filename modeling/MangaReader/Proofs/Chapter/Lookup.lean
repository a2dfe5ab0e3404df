import MangaReader.Proofs.Chapter.First
import Mathlib.Algebra.GroupWithZero.Nat
import Mathlib.Data.List.Nodup

/-!
# Looking chapters up

An index that is built of groups keeps the last group of every kind. However its chapters are
reached then, they are the same ones: tab by tab, by their places, by their ids or by a step from
another place.

* `ChapterIndex.lastGiven?`, `ChapterIndex.group?_ofGroups` : the groups that an index keeps.
* `ChapterIndex.stored`, `ChapterIndex.toList_eq_flatten` : they are what the tabs show.
* `ChapterIndex.Numbered.nodup_toList` : no chapter is met twice.
* `ChapterIndex.Numbered.adjacent_opposite` : a step and the step back.
* `ChapterIndex.lookups_agree` : **all ways to look chapters up agree**.
-/

namespace MangaReader.ChapterIndex

variable {x : ChapterIndex}

/-! ### The groups of an index -/

/-- The last one of the given groups that is of a kind. -/
def lastGiven? (groups : List (ChapterKind × List (Int × String))) (kind : ChapterKind) :
    Option (List (Int × String)) :=
  (groups.filter (·.1 = kind)).getLast?.map (·.2)

theorem group?_put (x : ChapterIndex) (kind other : ChapterKind) (chapters : List Chapter) :
    (x.put kind chapters).group? other =
      if other = kind then some chapters else x.group? other := by
  cases kind <;> cases other <;> rfl

theorem group?_ofGroups (groups : List (ChapterKind × List (Int × String))) (kind : ChapterKind) :
    (ofGroups groups).group? kind = (lastGiven? groups kind).map (numbered kind) := by
  induction groups using List.reverseRecOn with
  | nil => cases kind <;> rfl
  | append_singleton groups group ih =>
    rw [ofGroups, List.foldl_append, List.foldl_cons, List.foldl_nil, group?_put, lastGiven?,
      List.filter_append]
    by_cases hkind : kind = group.1
    · simp [hkind]
    · have hother : [group].filter (·.1 = kind) = [] := by simp [Ne.symm hkind]
      rw [if_neg hkind, hother, List.append_nil]
      exact ih

theorem group_ofGroups (groups : List (ChapterKind × List (Int × String))) (kind : ChapterKind) :
    (ofGroups groups).group kind = numbered kind ((lastGiven? groups kind).getD []) := by
  rw [group, group?_ofGroups]
  cases lastGiven? groups kind <;> rfl

theorem map_numbered (kind : ChapterKind) (entries : List (Int × String)) :
    (numbered kind entries).map (fun c => (c.id, c.title)) = entries := by
  apply List.ext_getElem?
  intro i
  rw [List.getElem?_map, getElem?_numbered]
  cases entries[i]? <;> rfl

/-- The groups that an index has, in the order of their tabs. -/
def stored (x : ChapterIndex) : List (List Chapter) := ChapterKind.all.filterMap x.group?

theorem toList_eq_flatten (x : ChapterIndex) : x.toList = x.stored.flatten := by
  obtain ⟨chapters, volumes, extras⟩ := x
  cases chapters <;> cases volumes <;> cases extras <;> rfl

/-! ### The order of the chapters -/

theorem Numbered.nodup_group (hx : x.Numbered) (kind : ChapterKind) : (x.group kind).Nodup := by
  rw [List.nodup_iff_getElem?_ne_getElem?]
  intro i j hij hj hsame
  have hat : x.resolve ⟨kind, j⟩ = some (x.group kind)[j] := List.getElem?_eq_getElem hj
  have hcursor := hx ⟨kind, j⟩ _ hat
  rw [hx ⟨kind, i⟩ _ (hsame.trans hat)] at hcursor
  exact absurd (congrArg Cursor.position hcursor) (Nat.ne_of_lt hij)

theorem Numbered.nodup_toList (hx : x.Numbered) : x.toList.Nodup := by
  rw [toList, tabs, List.flatMap_map, List.nodup_flatMap]
  refine ⟨fun kind _ => hx.nodup_group kind, ?_⟩
  apply List.Pairwise.imp (R := (· ≠ ·)) _ (by decide)
  intro kind other hne c hc hother
  obtain ⟨i, hi⟩ := List.mem_iff_getElem?.mp hc
  obtain ⟨j, hj⟩ := List.mem_iff_getElem?.mp hother
  have hcursor := hx ⟨kind, i⟩ c hi
  rw [hx ⟨other, j⟩ c hj] at hcursor
  exact hne (congrArg Cursor.group hcursor).symm

theorem find_eq_some_iff_append {id : Int} {c : Chapter} :
    x.find id = some c ↔
      c.id = id ∧ ∃ before after, x.toList = before ++ c :: after ∧ ∀ d ∈ before, d.id ≠ id := by
  rw [find, List.find?_eq_some_iff_append]
  simp

/-! ### Steps -/

theorem step?_next {place target : Cursor} :
    place.step? .next = some target ↔ place.position + 1 < 2 ^ 64 ∧
      target = ⟨place.group, place.position + 1⟩ := by
  simp [Cursor.step?, eq_comm]

theorem step?_previous {place target : Cursor} :
    place.step? .previous = some target ↔ 0 < place.position ∧
      target = ⟨place.group, place.position - 1⟩ := by
  simp [Cursor.step?, eq_comm, Nat.pos_iff_ne_zero]

/-- **A step is undone by the step back**, also from a place where no chapter is. -/
theorem Numbered.adjacent_opposite (hx : x.Numbered) {place : Cursor} {d : Direction} {e : Chapter}
    (hplace : place.position < 2 ^ 64) (h : x.adjacent place d = some e) :
    x.adjacent e.cursor d.opposite = x.resolve place := by
  obtain ⟨target, htarget, he⟩ := Option.bind_eq_some_iff.mp h
  have hback : target.step? d.opposite = some place := by
    cases d with
    | next =>
      obtain ⟨-, rfl⟩ := step?_next.mp htarget
      exact step?_previous.mpr ⟨Nat.succ_pos _, rfl⟩
    | previous =>
      obtain ⟨hpos, rfl⟩ := step?_previous.mp htarget
      have hsame : place.position - 1 + 1 = place.position := Nat.sub_add_cancel hpos
      refine step?_next.mpr ⟨?_, ?_⟩
      · show place.position - 1 + 1 < 2 ^ 64
        omega
      · simp [hsame]
  rw [adjacent, hx target e he, hback, Option.bind_some]

/-! ### All ways together -/

/-- **All ways to look chapters up agree.** An index that is built of groups shows three tabs, with
the ids and titles of the last group given for each. Every chapter knows its place, and going
through the tabs meets each chapter that the index has once. So many it counts; at its place each is
found again, and by an id the first one with it, if there is any. Last, from wherever a step leads
to a chapter, the step back leads to what is there, be it a chapter or nothing. -/
theorem lookups_agree (groups : List (ChapterKind × List (Int × String))) :
    let x := ofGroups groups
    x.tabs = [(.chapter, x.group .chapter), (.volume, x.group .volume), (.misc, x.group .misc)] ∧
      (∀ kind, (x.group kind).map (fun c => (c.id, c.title)) =
        (lastGiven? groups kind).getD []) ∧
      (∀ kind (i : Nat) (c : Chapter), (x.group kind)[i]? = some c →
        c.kind = kind ∧ c.position = i) ∧
      (∀ c, x.toList.count c = if c ∈ x.stored.flatten then 1 else 0) ∧
      x.size = x.toList.length ∧ x.size = (x.stored.map List.length).sum ∧
      (∀ c ∈ x.stored.flatten, x.resolve c.cursor = some c) ∧
      (∀ id c, x.find id = some c ↔
        c.id = id ∧ ∃ before after, x.toList = before ++ c :: after ∧ ∀ d ∈ before, d.id ≠ id) ∧
      (∀ id, x.find id = none ↔ ∀ c ∈ x.stored.flatten, c.id ≠ id) ∧
      ∀ place d e, place.position < 2 ^ 64 → x.adjacent place d = some e →
        x.adjacent e.cursor d.opposite = x.resolve place := by
  intro x
  have hx : x.Numbered := numbered_ofGroups groups
  rw [← x.toList_eq_flatten]
  refine ⟨rfl, fun kind => ?_, fun kind i c hc => ?_, fun c => ?_, rfl, ?_, fun c hc => ?_,
    fun id c => find_eq_some_iff_append, fun id => find_eq_none_iff, ?_⟩
  · rw [group_ofGroups, map_numbered]
  · have hcursor : c.cursor = ⟨kind, i⟩ := hx ⟨kind, i⟩ c hc
    exact ⟨congrArg Cursor.group hcursor, congrArg Cursor.position hcursor⟩
  · exact hx.nodup_toList.count
  · rw [size, toList_eq_flatten, List.length_flatten]
  · exact hx.resolve_of_mem hc
  · intro place d e hplace h
    exact hx.adjacent_opposite hplace h

end MangaReader.ChapterIndex

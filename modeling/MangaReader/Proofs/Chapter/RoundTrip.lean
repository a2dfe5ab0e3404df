import MangaReader.Chapter.Form
import MangaReader.Proofs.Chapter.Lookup
import MangaReader.Proofs.Json.Restored

/-!
# An index is read as it is written

The compact text of an index is read as the same index, whatever its ids, titles and groups are. A
group that is empty is written and comes back as such, and one that is missing is not written.

* `ChapterKind.restores_form`, `Chapter.restores_shape` : chapters.
* `ChapterIndex.ofEntries_entries`, `ChapterIndex.restores_shape` : the groups of an index.
* `ChapterIndex.text_is_read_back` : **the text of an index is read as the index**.
-/

namespace MangaReader

open Json

/-! ### Chapters -/

theorem ChapterKind.restores_form (kind : ChapterKind) : ChapterKind.form.Restores kind where
  whole := .string kind.name
  read t ht := by
    cases ht with
    | string _ stop => cases kind <;> rfl

/-- A chapter whose numbers have 64 bits. -/
structure Chapter.Fits (c : Chapter) : Prop where
  id : -2 ^ 63 ≤ c.id ∧ c.id < 2 ^ 63
  position : c.position < 2 ^ 64

theorem Chapter.restores_shape {c : Chapter} (hc : c.Fits) : Chapter.shape.form.Restores c := by
  refine Shape.restores (by decide) ?_ rfl
  simp only [Chapter.shape, List.forall_mem_cons]
  exact ⟨Form.restores_integer hc.id.1 hc.id.2, Form.restores_text c.title,
    ChapterKind.restores_form c.kind, Form.restores_size hc.position, List.forall_mem_nil _⟩

namespace ChapterIndex

/-! ### Groups -/

theorem ofEntries_entries (x : ChapterIndex) : ofEntries {} x.entries = .ok x := by
  obtain ⟨chapters, volumes, extras⟩ := x
  cases chapters <;> cases volumes <;> cases extras <;> rfl

theorem entries_snd (x : ChapterIndex) : x.entries.map (·.2) = x.stored := by
  obtain ⟨chapters, volumes, extras⟩ := x
  cases chapters <;> cases volumes <;> cases extras <;> rfl

theorem nodup_entries (x : ChapterIndex) : (x.entries.map (·.1)).Nodup := by
  have hnames : x.entries.map (·.1) =
      (ChapterKind.all.filter fun kind => (x.group? kind).isSome).map ChapterKind.name := by
    obtain ⟨chapters, volumes, extras⟩ := x
    cases chapters <;> cases volumes <;> cases extras <;> rfl
  rw [hnames]
  exact (List.filter_sublist.map ChapterKind.name).nodup (by decide)

theorem restores_groupsForm {x : ChapterIndex} (hx : ∀ c ∈ x.stored.flatten, c.Fits) :
    groupsForm.Restores x := by
  have hentries : (Form.dictionary (.list Chapter.shape.form)).Restores x.entries := by
    refine Form.Restores.dictionary (fun p hp => Form.Restores.list fun c hc => ?_) x.nodup_entries
    have hstored : p.2 ∈ x.stored := x.entries_snd ▸ List.mem_map_of_mem hp
    exact Chapter.restores_shape (hx c (List.mem_flatten_of_mem hstored hc))
  refine ⟨hentries.whole, fun t ht => ?_⟩
  simp only [groupsForm, hentries.read t ht, ofEntries_entries]

theorem restores_shape {x : ChapterIndex} (hx : ∀ c ∈ x.stored.flatten, c.Fits) :
    shape.form.Restores x := by
  refine Shape.restores (by decide) ?_ rfl
  simp only [shape, List.forall_mem_cons]
  exact ⟨restores_groupsForm hx, List.forall_mem_nil _⟩

/-! ### The text of an index -/

theorem fits_of_ofGroups {groups : List (ChapterKind × List (Int × String))}
    (hids : ∀ group ∈ groups, ∀ entry ∈ group.2, -2 ^ 63 ≤ entry.1 ∧ entry.1 < 2 ^ 63)
    (hlength : ∀ group ∈ groups, group.2.length ≤ 2 ^ 64) :
    ∀ c ∈ (ofGroups groups).stored.flatten, c.Fits := by
  intro c hc
  rw [← toList_eq_flatten, mem_toList] at hc
  obtain ⟨⟨kind, i⟩, hc⟩ := hc
  rw [resolve, group_ofGroups, getElem?_numbered] at hc
  obtain ⟨entry, hentry, rfl⟩ := Option.map_eq_some_iff.mp hc
  obtain ⟨hi, hat⟩ := List.getElem?_eq_some_iff.mp hentry
  cases hlast : lastGiven? groups kind with
  | none =>
    rw [hlast] at hi
    cases hi
  | some entries =>
    obtain ⟨group, hgroup, rfl⟩ := Option.map_eq_some_iff.mp hlast
    have hmem : group ∈ groups := List.mem_of_mem_filter (List.mem_of_getLast? hgroup)
    rw [hlast] at hi hentry
    exact ⟨hids group hmem entry (List.mem_of_getElem? hentry),
      Nat.lt_of_lt_of_le hi (hlength group hmem)⟩

/-- **The text of an index is read as the index.** The ids of the chapters are integers of 64 bits,
and no group has more chapters than positions of 64 bits can number; the titles are any texts. -/
theorem text_is_read_back (groups : List (ChapterKind × List (Int × String)))
    (hids : ∀ group ∈ groups, ∀ entry ∈ group.2, -2 ^ 63 ≤ entry.1 ∧ entry.1 < 2 ^ 63)
    (hlength : ∀ group ∈ groups, group.2.length ≤ 2 ^ 64) :
    shape.form.parse (ofGroups groups).text = .ok (ofGroups groups) := by
  rw [text]
  exact (restores_shape (fits_of_ofGroups hids hlength)).parse_compact

/-- Hidden characters, the ends of the integers and an empty group come back; no group is added. -/
theorem text_is_read_back_oddly_titled :
    let groups : List (ChapterKind × List (Int × String)) :=
      [(.volume, [(1, "old")]), (.chapter, [(-2 ^ 63, "\"a\\\x01\n😀"), (2 ^ 63 - 1, "")]),
        (.volume, [])]
    (∀ group ∈ groups, ∀ entry ∈ group.2, -2 ^ 63 ≤ entry.1 ∧ entry.1 < 2 ^ 63) ∧
      (∀ group ∈ groups, group.2.length ≤ 2 ^ 64) ∧
      (ofGroups groups).volumes = some [] ∧ (ofGroups groups).extras = none ∧
      shape.form.parse (ofGroups groups).text = .ok (ofGroups groups) := by
  intro groups
  have hids : ∀ group ∈ groups, ∀ entry ∈ group.2, -2 ^ 63 ≤ entry.1 ∧ entry.1 < 2 ^ 63 := by
    decide
  have hlength : ∀ group ∈ groups, group.2.length ≤ 2 ^ 64 := by decide
  exact ⟨hids, hlength, rfl, rfl, text_is_read_back groups hids hlength⟩

end ChapterIndex

end MangaReader

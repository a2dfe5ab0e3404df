import MangaReader.Proofs.Chapter.Index

/-!
# The first chapter of an id

Several chapters of an index may have the same id. The one that is found by it is the first, tab by
tab and in each group by its position.

* `Cursor.Precedes` : the order of places.
* `ChapterIndex.FirstOf` : the first place of a chapter of some id.
* `ChapterIndex.Numbered.find_eq_some_iff` : the chapter that is found is the one there.
-/

namespace MangaReader

def ChapterKind.rank : ChapterKind → Nat
  | .chapter => 0
  | .volume => 1
  | .misc => 2

/-- The order of places: by their tabs, and in one group by their positions. -/
def Cursor.Precedes (a b : Cursor) : Prop :=
  a.group.rank < b.group.rank ∨ a.group = b.group ∧ a.position < b.position

theorem ChapterKind.rank_injective {a b : ChapterKind} (h : a.rank = b.rank) : a = b := by
  cases a <;> cases b <;> first | rfl | cases h

theorem Cursor.Precedes.trichotomy (a b : Cursor) : a.Precedes b ∨ a = b ∨ b.Precedes a := by
  obtain ⟨group, i⟩ := a
  obtain ⟨group', j⟩ := b
  rcases Nat.lt_trichotomy group.rank group'.rank with hlt | heq | hgt
  · exact .inl (.inl hlt)
  · obtain rfl := ChapterKind.rank_injective heq
    rcases Nat.lt_trichotomy i j with hlt | rfl | hgt
    · exact .inl (.inr ⟨rfl, hlt⟩)
    · exact .inr (.inl rfl)
    · exact .inr (.inr (.inr ⟨rfl, hgt⟩))
  · exact .inr (.inr (.inl hgt))

namespace ChapterIndex

/-- Whether a place is the first one with a chapter of some id. -/
structure FirstOf (x : ChapterIndex) (id : Int) (place : Cursor) : Prop where
  here : ∃ c, x.resolve place = some c ∧ c.id = id
  first : ∀ other d, x.resolve other = some d → other.Precedes place → d.id ≠ id

variable {x : ChapterIndex} {id : Int} {c : Chapter} {place other : Cursor}

theorem FirstOf.unique (h : x.FirstOf id place) (hother : x.FirstOf id other) : place = other := by
  obtain ⟨c, hc, hid⟩ := h.here
  obtain ⟨d, hd, hid'⟩ := hother.here
  rcases Cursor.Precedes.trichotomy place other with hbefore | hsame | hafter
  · exact absurd hid (hother.first place c hc hbefore)
  · exact hsame
  · exact absurd hid' (h.first other d hd hafter)

theorem exists_group_of_find (h : x.find id = some c) :
    ∃ kind, (x.group kind).find? (·.id = id) = some c ∧
      ∀ other : ChapterKind, other.rank < kind.rank → ∀ d ∈ x.group other, d.id ≠ id := by
  have hgroups : x.find id =
      ((x.group .chapter).find? (·.id = id)).or
        (((x.group .volume).find? (·.id = id)).or ((x.group .misc).find? (·.id = id))) := by
    simp [find, toList, tabs, ChapterKind.all]
  have hnone : ∀ kind, (x.group kind).find? (·.id = id) = none → ∀ d ∈ x.group kind, d.id ≠ id := by
    intro kind hkind d hd hid
    exact List.find?_eq_none.mp hkind d hd (decide_eq_true hid)
  rw [hgroups, Option.or_eq_some_iff, Option.or_eq_some_iff] at h
  rcases h with hchapter | ⟨hchapter, hvolume | ⟨hvolume, hmisc⟩⟩
  · refine ⟨.chapter, hchapter, fun other hother => ?_⟩
    cases hother
  · refine ⟨.volume, hvolume, fun other hother => ?_⟩
    cases other with
    | chapter => exact hnone .chapter hchapter
    | volume | misc => simp [ChapterKind.rank] at hother
  · refine ⟨.misc, hmisc, fun other hother => ?_⟩
    cases other with
    | chapter => exact hnone .chapter hchapter
    | volume => exact hnone .volume hvolume
    | misc => simp [ChapterKind.rank] at hother

theorem Numbered.firstOf_of_find (hx : x.Numbered) (h : x.find id = some c) :
    x.FirstOf id c.cursor := by
  obtain ⟨hresolve, hid⟩ := hx.resolve_of_find h
  refine ⟨⟨c, hresolve, hid⟩, ?_⟩
  obtain ⟨kind, hfind, hearlier⟩ := exists_group_of_find h
  obtain ⟨-, i, hi, hc, hbefore⟩ := List.find?_eq_some_iff_getElem.mp hfind
  have hcursor : c.cursor = ⟨kind, i⟩ :=
    hx ⟨kind, i⟩ c (List.getElem?_eq_some_iff.mpr ⟨hi, hc⟩)
  rw [hcursor]
  rintro ⟨group, j⟩ d hd (hrank | ⟨rfl, hlt⟩)
  · exact hearlier group hrank d (List.mem_of_getElem? hd)
  · obtain ⟨hj, rfl⟩ := List.getElem?_eq_some_iff.mp hd
    simpa using hbefore j hlt

theorem Numbered.find_eq_some_iff (hx : x.Numbered) :
    x.find id = some c ↔ x.resolve c.cursor = some c ∧ x.FirstOf id c.cursor := by
  constructor
  · exact fun h => ⟨(hx.resolve_of_find h).1, hx.firstOf_of_find h⟩
  · rintro ⟨hresolve, hfirst⟩
    obtain ⟨d, hd, hid⟩ := hfirst.here
    rw [hresolve, Option.some.injEq] at hd
    subst hd
    have hfound : (x.find id).isSome :=
      List.find?_isSome.mpr ⟨c, mem_toList.mpr ⟨_, hresolve⟩, decide_eq_true hid⟩
    obtain ⟨found, hfind⟩ := Option.isSome_iff_exists.mp hfound
    have hsame : found.cursor = c.cursor := (hx.firstOf_of_find hfind).unique hfirst
    have hat := (hx.resolve_of_find hfind).1
    rw [hsame, hresolve] at hat
    rw [hfind, hat]

theorem find_eq_none_iff : x.find id = none ↔ ∀ c ∈ x.toList, c.id ≠ id := by
  simp [find]

end ChapterIndex

end MangaReader

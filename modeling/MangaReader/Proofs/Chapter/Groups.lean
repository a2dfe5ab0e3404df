import MangaReader.Proofs.Chapter.Answer
import MangaReader.Proofs.Chapter.Lookup

/-!
# Chapter groups under their names

Chapter groups make an index if every name is that of a group, in whatever case its letters are, and
no group is named twice. In what order they come does not matter then. If they make none, the error
is about the first name that is wrong, be it unknown or that of a group that is named before it.

* `ChapterKind.NamedBy`, `ChapterIndex.WellNamed` : names of groups.
* `ChapterIndex.Misnamed` : the error about a name behind others.
* `ChapterIndex.exists_ofGroups?_iff_wellNamed`, `ChapterIndex.ofGroups?_eq_error_iff` : which
  groups make an index, and which error the others are.
* `ChapterIndex.group?_of_ofGroups?`, `ChapterIndex.ofGroups?_perm` : the index that they make.
* `ChapterIndex.named_groups_make_index` : **all of it together**.
-/

namespace MangaReader

open Backend

/-- Whether a text is the name of a group up to the case of ASCII letters. -/
def ChapterKind.NamedBy (kind : ChapterKind) (text : String) : Prop :=
  Text.lowerAscii text = Text.lowerAscii kind.name

namespace ChapterKind

variable {a b kind : ChapterKind} {text : String}

theorem NamedBy.unique (ha : a.NamedBy text) (hb : b.NamedBy text) : a = b := by
  have hlower : Text.lowerAscii a.name = Text.lowerAscii b.name := ha.symm.trans hb
  revert hlower
  cases a <;> cases b <;> decide +kernel

theorem namedBy_iff_sameAscii : kind.NamedBy text ↔ Text.sameAscii kind.name text = true := by
  rw [NamedBy, Text.lowerAscii, Text.lowerAscii, String.ofList_inj, Text.sameAscii, beq_iff_eq,
    eq_comm]

theorem namedBy_of_ofName? (h : ofName? text = some kind) : kind.NamedBy text := by
  rw [ofName?] at h
  have hsame := List.find?_some h
  exact namedBy_iff_sameAscii.mpr hsame

theorem ofName?_eq_some_iff : ofName? text = some kind ↔ kind.NamedBy text := by
  refine ⟨namedBy_of_ofName?, fun h => ?_⟩
  have hmem : kind ∈ all := by cases kind <;> decide
  have hfound : (ofName? text).isSome :=
    List.find?_isSome.mpr ⟨kind, hmem, namedBy_iff_sameAscii.mp h⟩
  obtain ⟨found, hfind⟩ := Option.isSome_iff_exists.mp hfound
  rw [hfind, (namedBy_of_ofName? hfind).unique h]

theorem ofName?_eq_none_iff : ofName? text = none ↔ ∀ kind : ChapterKind, ¬ kind.NamedBy text := by
  rw [Option.eq_none_iff_forall_ne_some]
  exact forall_congr' fun kind => not_congr ofName?_eq_some_iff

end ChapterKind

namespace ChapterIndex

variable {groups other : ChapterGroups} {index : ChapterIndex} {e : ReadError}
  {parsed : List (ChapterKind × List (Int × String))} {seen : List ChapterKind}

/-- Groups whose names are those of different groups. -/
structure WellNamed (groups : ChapterGroups) : Prop where
  known : ∀ group ∈ groups, ∃ kind : ChapterKind, kind.NamedBy group.1
  apart : groups.Pairwise fun a b => ∀ kind : ChapterKind, kind.NamedBy a.1 → ¬ kind.NamedBy b.1

/-- The error about a name where some groups are taken: it is that of no group, or that of one which
is taken. -/
inductive Misnamed (taken : ChapterKind → Prop) (name : String) : ReadError → Prop
  | unknown (h : ∀ kind : ChapterKind, ¬ kind.NamedBy name) :
    Misnamed taken name (.fetch ("unknown chapter group " ++ Text.Quoted.ofText name) none)
  | again {kind : ChapterKind} (h : kind.NamedBy name) (htaken : taken kind) :
    Misnamed taken name (.fetch ("chapter group " ++ kind.name ++ " listed twice") none)

/-! ### Which groups make an index -/

theorem WellNamed.perm (h : WellNamed groups) (hperm : other.Perm groups) : WellNamed other where
  known group hgroup := h.known group (hperm.mem_iff.mp hgroup)
  apart := by
    refine (hperm.pairwise_iff ?_).mpr h.apart
    intro a b hab kind hb ha
    exact hab kind ha hb

theorem exists_ofGroups?_iff_wellNamed :
    (∃ index, ofGroups? groups = .ok index) ↔ WellNamed groups := by
  have hmap : (∃ index, ofGroups? groups = .ok index) ↔ ∃ parsed, kinds [] groups = .ok parsed := by
    simp [ofGroups?, map_eq_ok_iff]
  rw [hmap, exists_kinds_iff, List.Nodup, List.pairwise_map]
  constructor
  · rintro ⟨hknown, hapart⟩
    refine ⟨fun group hgroup => ?_, hapart.imp fun {a b} hne kind ha hb => ?_⟩
    · obtain ⟨kind, -, hname⟩ := hknown group hgroup
      exact ⟨kind, ChapterKind.ofName?_eq_some_iff.mp hname⟩
    · rw [ChapterKind.ofName?_eq_some_iff.mpr ha, ChapterKind.ofName?_eq_some_iff.mpr hb] at hne
      exact hne rfl
  · rintro ⟨hknown, hapart⟩
    have hsome : ∀ group ∈ groups, ∃ kind, ChapterKind.ofName? group.1 = some kind := by
      intro group hgroup
      obtain ⟨kind, hname⟩ := hknown group hgroup
      exact ⟨kind, ChapterKind.ofName?_eq_some_iff.mpr hname⟩
    refine ⟨fun group hgroup => ?_, hapart.imp_of_mem fun {a b} ha _ hab hsame => ?_⟩
    · obtain ⟨kind, hkind⟩ := hsome group hgroup
      exact ⟨kind, List.not_mem_nil, hkind⟩
    · obtain ⟨kind, hkind⟩ := hsome a ha
      exact hab kind (ChapterKind.ofName?_eq_some_iff.mp hkind)
        (ChapterKind.ofName?_eq_some_iff.mp (hsame ▸ hkind))

/-! ### The index that they make -/

theorem mem_of_kinds_eq_ok (h : kinds seen groups = .ok parsed)
    (p : ChapterKind × List (Int × String)) :
    p ∈ parsed ↔
      ∃ group ∈ groups, p.1.NamedBy group.1 ∧ p.2 = group.2.map fun r => (r.id, r.title) := by
  induction groups generalizing seen parsed with
  | nil =>
    obtain rfl := Except.ok.inj h
    simp
  | cons group groups ih =>
    obtain ⟨name, records⟩ := group
    rw [kinds] at h
    split at h
    · cases h
    rename_i kind hkind
    split at h
    · cases h
    obtain ⟨rest, hrest, rfl⟩ := map_eq_ok h
    have hname : kind.NamedBy name := ChapterKind.ofName?_eq_some_iff.mp hkind
    rw [List.mem_cons, ih hrest, List.exists_mem_cons_iff]
    refine or_congr_left ⟨?_, ?_⟩
    · rintro rfl
      exact ⟨hname, rfl⟩
    · rintro ⟨hp, hrecords⟩
      exact Prod.ext (hp.unique hname) hrecords

theorem lastGiven?_of_mem {entries : List (Int × String)} {kind : ChapterKind}
    (hnodup : (parsed.map (·.1)).Nodup) (h : (kind, entries) ∈ parsed) :
    lastGiven? parsed kind = some entries := by
  have hmem : (kind, entries) ∈ parsed.filter (·.1 = kind) := List.mem_filter.mpr ⟨h, by simp⟩
  have hne := List.ne_nil_of_mem hmem
  obtain ⟨hin, hkind⟩ := List.mem_filter.mp (List.getLast_mem hne)
  rw [lastGiven?, List.getLast?_eq_some_getLast hne, Option.map_some,
    List.inj_on_of_nodup_map hnodup hin h (of_decide_eq_true hkind)]

theorem lastGiven?_eq_none {kind : ChapterKind} (h : ∀ p ∈ parsed, p.1 ≠ kind) :
    lastGiven? parsed kind = none := by
  have hnone : parsed.filter (·.1 = kind) = [] :=
    List.filter_eq_nil_iff.mpr fun p hp => by simpa using h p hp
  rw [lastGiven?, hnone]
  rfl

/-- **The index has the records of each group**, under the kind of its name, and no other group. -/
theorem group?_of_ofGroups? (h : ofGroups? groups = .ok index) (kind : ChapterKind) :
    (∀ group ∈ groups, kind.NamedBy group.1 → index.group? kind =
        some (group.2.mapIdx fun position r => ⟨r.id, r.title, kind, position⟩)) ∧
      ((∀ group ∈ groups, ¬ kind.NamedBy group.1) → index.group? kind = none) := by
  obtain ⟨parsed, hparsed, rfl⟩ := map_eq_ok h
  obtain ⟨-, hnodup, -⟩ := kinds_eq_ok hparsed
  have hmem := mem_of_kinds_eq_ok hparsed
  rw [group?_ofGroups]
  constructor
  · intro group hgroup hname
    have hin := (hmem (kind, group.2.map fun r => (r.id, r.title))).mpr ⟨group, hgroup, hname, rfl⟩
    rw [lastGiven?_of_mem hnodup hin, Option.map_some]
    refine congrArg some (List.ext_getElem? fun i => ?_)
    simp [getElem?_numbered, Function.comp_def]
  · intro hnone
    rw [lastGiven?_eq_none, Option.map_none]
    rintro p hp rfl
    obtain ⟨group, hgroup, hname, -⟩ := (hmem p).mp hp
    exact hnone group hgroup hname

theorem eq_of_group? {x y : ChapterIndex} (h : ∀ kind, x.group? kind = y.group? kind) : x = y := by
  obtain ⟨chapters, volumes, extras⟩ := x
  obtain ⟨chapters', volumes', extras'⟩ := y
  obtain rfl : chapters = chapters' := h .chapter
  obtain rfl : volumes = volumes' := h .volume
  obtain rfl : extras = extras' := h .misc
  rfl

theorem ofGroups?_perm (h : ofGroups? groups = .ok index) (hperm : other.Perm groups) :
    ofGroups? other = .ok index := by
  have hother := (exists_ofGroups?_iff_wellNamed.mp ⟨index, h⟩).perm hperm
  obtain ⟨made, hmade⟩ := exists_ofGroups?_iff_wellNamed.mpr hother
  rw [hmade]
  refine congrArg Except.ok (eq_of_group? fun kind => ?_)
  obtain ⟨hsome, hnone⟩ := group?_of_ofGroups? h kind
  obtain ⟨hsome', hnone'⟩ := group?_of_ofGroups? hmade kind
  by_cases hkind : ∃ group ∈ groups, kind.NamedBy group.1
  · obtain ⟨group, hgroup, hname⟩ := hkind
    rw [hsome group hgroup hname, hsome' group (hperm.mem_iff.mpr hgroup) hname]
  · have hno : ∀ group ∈ groups, ¬ kind.NamedBy group.1 := by simpa using hkind
    rw [hnone hno, hnone' fun group hgroup => hno group (hperm.mem_iff.mp hgroup)]

/-! ### The error of the others -/

theorem Misnamed.congr {taken taken' : ChapterKind → Prop} {name : String}
    (h : ∀ kind, taken kind ↔ taken' kind) : Misnamed taken name e ↔ Misnamed taken' name e := by
  rw [funext fun kind => propext (h kind)]

theorem Misnamed.taken {taken : ChapterKind → Prop} {name : String} {kind : ChapterKind}
    (h : Misnamed taken name e) (hname : kind.NamedBy name) : taken kind := by
  cases h with
  | unknown hunknown => exact absurd hname (hunknown kind)
  | again hother htaken => exact hother.unique hname ▸ htaken

theorem kinds_cons_of_misnamed {group : String × List ChapterRecord}
    (h : Misnamed (· ∈ seen) group.1 e) (rest : ChapterGroups) :
    kinds seen (group :: rest) = .error e := by
  obtain ⟨name, records⟩ := group
  cases h with
  | unknown hname => simp only [kinds, ChapterKind.ofName?_eq_none_iff.mpr hname]
  | again hname hseen =>
    simp only [kinds, ChapterKind.ofName?_eq_some_iff.mpr hname, if_pos hseen]

theorem kinds_cons_of_named {group : String × List ChapterRecord} {kind : ChapterKind}
    (hname : kind.NamedBy group.1) (hnew : kind ∉ seen) (rest : ChapterGroups) :
    kinds seen (group :: rest) = (kinds (kind :: seen) rest).map fun more =>
      (kind, group.2.map fun r => (r.id, r.title)) :: more := by
  obtain ⟨name, records⟩ := group
  simp only [kinds, ChapterKind.ofName?_eq_some_iff.mpr hname, if_neg hnew]

theorem misnamed_or_named (seen : List ChapterKind) (name : String) :
    (∃ e, Misnamed (· ∈ seen) name e) ∨ ∃ kind : ChapterKind, kind.NamedBy name ∧ kind ∉ seen := by
  by_cases hname : ∃ kind : ChapterKind, kind.NamedBy name
  · obtain ⟨kind, hname⟩ := hname
    by_cases hseen : kind ∈ seen
    · exact .inl ⟨_, .again hname hseen⟩
    · exact .inr ⟨kind, hname, hseen⟩
  · exact .inl ⟨_, .unknown (not_exists.mp hname)⟩

theorem kinds_eq_error_iff :
    kinds seen groups = .error e ↔
      ∃ before group after parsed, groups = before ++ group :: after ∧
        kinds seen before = .ok parsed ∧
        Misnamed (fun kind => kind ∈ seen ∨ kind ∈ parsed.map (·.1)) group.1 e := by
  induction groups generalizing seen with
  | nil => simp [kinds]
  | cons group groups ih =>
    obtain ⟨e', hwrong⟩ | ⟨kind, hname, hnew⟩ := misnamed_or_named seen group.1
    · rw [kinds_cons_of_misnamed hwrong]
      constructor
      · rintro ⟨⟩
        exact ⟨[], group, groups, [], rfl, rfl, by simpa using hwrong⟩
      · rintro ⟨before, wrong, after, parsed, hgroups, hbefore, hother⟩
        cases before with
        | nil =>
          obtain ⟨rfl, rfl⟩ := List.cons.inj hgroups
          obtain rfl := Except.ok.inj hbefore
          have hsame := kinds_cons_of_misnamed (by simpa using hother) groups
          rw [← hsame, kinds_cons_of_misnamed hwrong]
        | cons first before =>
          obtain ⟨rfl, -⟩ := List.cons.inj hgroups
          rw [kinds_cons_of_misnamed hwrong] at hbefore
          cases hbefore
    · rw [kinds_cons_of_named hname hnew, map_eq_error_iff, ih]
      constructor
      · rintro ⟨before, wrong, after, parsed, rfl, hbefore, hwrong⟩
        refine ⟨group :: before, wrong, after,
          (kind, group.2.map fun r => (r.id, r.title)) :: parsed, rfl, ?_, ?_⟩
        · rw [kinds_cons_of_named hname hnew, hbefore]
          rfl
        · refine (Misnamed.congr fun k => ?_).mp hwrong
          simp only [List.mem_cons, List.map_cons]
          tauto
      · rintro ⟨before, wrong, after, parsed, hgroups, hbefore, hwrong⟩
        cases before with
        | nil =>
          obtain ⟨rfl, rfl⟩ := List.cons.inj hgroups
          obtain rfl := Except.ok.inj hbefore
          have htaken : kind ∈ seen := by simpa using hwrong.taken hname
          exact absurd htaken hnew
        | cons first before =>
          obtain ⟨rfl, rfl⟩ := List.cons.inj hgroups
          rw [kinds_cons_of_named hname hnew] at hbefore
          obtain ⟨rest, hrest, rfl⟩ := map_eq_ok hbefore
          refine ⟨before, wrong, after, rest, rfl, hrest, (Misnamed.congr fun k => ?_).mp hwrong⟩
          simp only [List.mem_cons, List.map_cons]
          tauto

/-- **Groups that make no index are refused for the first one whose name is wrong.** -/
theorem ofGroups?_eq_error_iff :
    ofGroups? groups = .error e ↔
      ∃ before group after, groups = before ++ group :: after ∧ WellNamed before ∧
        Misnamed (fun kind => ∃ earlier ∈ before, kind.NamedBy earlier.1) group.1 e := by
  -- the kinds that are taken are those of the names before
  have htaken : ∀ {before : ChapterGroups} {parsed : List (ChapterKind × List (Int × String))},
      kinds [] before = .ok parsed → ∀ kind : ChapterKind,
        kind ∈ [] ∨ kind ∈ parsed.map (·.1) ↔ ∃ earlier ∈ before, kind.NamedBy earlier.1 := by
    intro before parsed hparsed kind
    simp only [List.not_mem_nil, false_or, List.mem_map, mem_of_kinds_eq_ok hparsed]
    constructor
    · rintro ⟨p, ⟨earlier, hearlier, hname, -⟩, rfl⟩
      exact ⟨earlier, hearlier, hname⟩
    · rintro ⟨earlier, hearlier, hname⟩
      exact ⟨(kind, earlier.2.map fun r => (r.id, r.title)), ⟨earlier, hearlier, hname, rfl⟩, rfl⟩
  rw [ofGroups?, map_eq_error_iff, kinds_eq_error_iff]
  constructor
  · rintro ⟨before, group, after, parsed, rfl, hparsed, hwrong⟩
    have hindex : ofGroups? before = .ok (ofGroups parsed) := by rw [ofGroups?, hparsed]; rfl
    exact ⟨before, group, after, rfl, exists_ofGroups?_iff_wellNamed.mp ⟨_, hindex⟩,
      (Misnamed.congr (htaken hparsed)).mp hwrong⟩
  · rintro ⟨before, group, after, rfl, hbefore, hwrong⟩
    obtain ⟨index, hindex⟩ := exists_ofGroups?_iff_wellNamed.mpr hbefore
    obtain ⟨parsed, hparsed, -⟩ := map_eq_ok hindex
    exact ⟨before, group, after, parsed, rfl, hparsed,
      (Misnamed.congr (htaken hparsed)).mpr hwrong⟩

/-- A group that is named twice is reported, not the unknown one behind it. -/
example : ofGroups? [("volume", []), ("misc", []), ("VOLUME", []), ("x", [])] =
    .error (.fetch "chapter group Volume listed twice" none) := by decide +kernel

theorem fetch_of_ofGroups? (h : ofGroups? groups = .error e) :
    ∃ message, e = .fetch message none := by
  obtain ⟨before, group, after, -, -, hwrong⟩ := ofGroups?_eq_error_iff.mp h
  cases hwrong with
  | unknown hname => exact ⟨_, rfl⟩
  | again hname htaken => exact ⟨_, rfl⟩

/-! ### All of it together -/

/-- **Well named groups make an index, and others an error about the first wrong name.** The index
has, for every kind, the records of the group that is named so, in their order and numbered from 0,
or nothing if there is no such group, whatever the order of the groups. The error has no status; it
is about the first group whose name is that of no kind or of one that a group before it has. -/
theorem named_groups_make_index (groups : ChapterGroups) :
    ((∃ index, ofGroups? groups = .ok index) ↔ WellNamed groups) ∧
      (∀ index, ofGroups? groups = .ok index →
        (∀ kind : ChapterKind, ∀ group ∈ groups, kind.NamedBy group.1 → index.group kind =
          group.2.mapIdx fun position r => ⟨r.id, r.title, kind, position⟩) ∧
        (∀ kind : ChapterKind, (∀ group ∈ groups, ¬ kind.NamedBy group.1) →
          index.group kind = []) ∧
        ∀ other : ChapterGroups, other.Perm groups → ofGroups? other = .ok index) ∧
      ∀ e, ofGroups? groups = .error e ↔
        ∃ before group after, groups = before ++ group :: after ∧ WellNamed before ∧
          Misnamed (fun kind => ∃ earlier ∈ before, kind.NamedBy earlier.1) group.1 e := by
  refine ⟨exists_ofGroups?_iff_wellNamed, fun index h => ⟨?_, ?_, ?_⟩,
    fun e => ofGroups?_eq_error_iff⟩
  · intro kind group hgroup hname
    rw [ChapterIndex.group, (group?_of_ofGroups? h kind).1 group hgroup hname, Option.getD_some]
  · intro kind hnone
    rw [ChapterIndex.group, (group?_of_ofGroups? h kind).2 hnone, Option.getD_none]
  · intro other hperm
    exact ofGroups?_perm h hperm

end ChapterIndex

end MangaReader

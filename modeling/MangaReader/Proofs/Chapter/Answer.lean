import MangaReader.Library.OfRecord
import MangaReader.Proofs.Chapter.Index
import MangaReader.Proofs.Except
import MangaReader.Proofs.Json.Dictionary
import Mathlib.Algebra.BigOperators.Group.List.Basic

/-!
# The chapters of an answer

The answer with the chapters of a series is an object: under the name of each group stands the list
of its chapters. It is read as a dictionary, in which a repeated name has the data of its last
place, and the dictionary is taken for an index only if its names, in whatever case they are
spelled, are those of different groups. So two spellings of a group are refused; but where a name is
repeated as it is, nothing tells the first list from none, and its chapters are lost.

* `Backend.writtenGroups` : the groups that a text writes, with the number of chapters of each.
* `ChapterIndex.exists_ofGroups?_iff` : which groups make an index.
* `ChapterIndex.size_of_ofGroups?` : an index has all chapters of its groups.
* `ChapterIndex.chapters_of_answer` : **which chapters of an answer are in the index.**
-/

namespace MangaReader

open Backend Json

def Json.Tree.length : Tree → Nat
  | .array _ items _ => items.length
  | _ => 0

def Json.Tree.lengths : Tree → List (String × Nat)
  | .object _ members _ =>
    members.map fun member => (member.1.read.toOption.getD "", member.2.1.length)
  | _ => []

/-- The groups that a text writes, in its order: the name of each and the number of chapters that
are written under it. -/
def Backend.writtenGroups (text : String) : List (String × Nat) :=
  (Document.ofText text.toList).tree.lengths

namespace ChapterIndex

variable {groups : ChapterGroups} {index : ChapterIndex}
  {parsed : List (ChapterKind × List (Int × String))}

/-! ### Reading an answer -/

theorem length_readItems {ending : Ending} {items : List (Nat × Tree × Nat)}
    {records : List ChapterRecord}
    (h : ChapterRecord.shape.form.readItems ending items = .ok records) :
    records.length = items.length := by
  induction items generalizing records with
  | nil =>
    rw [Form.readItems] at h
    split at h
    · cases h
    · rw [← Except.ok.inj h]
      rfl
  | cons item items ih =>
    obtain ⟨start, tree, next⟩ := item
    rw [Form.readItems] at h
    split at h
    · cases h
    · obtain ⟨rest, hrest, rfl⟩ := map_eq_ok h
      rw [List.length_cons, List.length_cons, ih hrest]

theorem length_of_read {tree : Tree} {records : List ChapterRecord}
    (h : (Form.list ChapterRecord.shape.form).read tree = .ok records) :
    records.length = tree.length := by
  cases tree with
  | array start items ending => exact length_readItems h
  | number value stop => cases value <;> cases h
  | string value stop => cases value <;> cases h
  | null | bool | object | broken => cases h

theorem exists_read_of_parse {text : String} (h : ChapterGroups.form.parse text = .ok groups) :
    ∃ read : ChapterGroups, (read.map fun p => (p.1, p.2.length)) = writtenGroups text ∧
      groups = read.foldl putPair [] := by
  rw [Form.parse, Document.finish] at h
  rw [writtenGroups]
  generalize Document.ofText text.toList = document at h ⊢
  obtain ⟨tree, extra⟩ := document
  -- the tree is read, and nothing comes after it
  have hread : ChapterGroups.form.read tree = .ok groups := by
    cases hread : ChapterGroups.form.read tree with
    | error flaw =>
      simp only [hread] at h
      cases h
    | ok a =>
      simp only [hread] at h
      cases extra with
      | some n => cases h
      | none => rw [← Except.ok.inj h]
  cases tree with
  | object start members ending =>
    obtain ⟨read, hmembers, hgroups⟩ := Form.readMembers_eq_ok hread
    refine ⟨read, ?_, hgroups⟩
    rw [Tree.lengths]
    clear hread hgroups h
    induction hmembers with
    | nil => rfl
    | @cons member p members read hp _ ih =>
      obtain ⟨hname, hlist⟩ := hp
      rw [List.map_cons, List.map_cons, ih, hname, length_of_read hlist]
      rfl
  | number value stop => cases value <;> cases hread
  | string value stop => cases value <;> cases hread
  | null | bool | array | broken => cases hread

/-! ### Groups and their kinds -/

theorem kinds_eq_ok {seen : List ChapterKind} (h : kinds seen groups = .ok parsed) :
    (parsed.map (·.2.length)) = groups.map (·.2.length) ∧ (parsed.map (·.1)).Nodup ∧
      ∀ kind ∈ parsed.map (·.1), kind ∉ seen := by
  induction groups generalizing seen parsed with
  | nil =>
    obtain rfl := Except.ok.inj h
    exact ⟨rfl, .nil, List.forall_mem_nil _⟩
  | cons group groups ih =>
    obtain ⟨name, records⟩ := group
    rw [kinds] at h
    split at h
    · cases h
    rename_i kind hkind
    split at h
    · cases h
    rename_i hnew
    obtain ⟨rest, hrest, rfl⟩ := map_eq_ok h
    obtain ⟨hlengths, hnodup, hapart⟩ := ih hrest
    refine ⟨?_, ?_, ?_⟩
    · simp [hlengths]
    · rw [List.map_cons, List.nodup_cons]
      exact ⟨fun hmem => hapart kind hmem List.mem_cons_self, hnodup⟩
    · rw [List.map_cons, List.forall_mem_cons]
      exact ⟨hnew, fun other hother hseen => hapart other hother (List.mem_cons_of_mem _ hseen)⟩

theorem exists_kinds_iff {seen : List ChapterKind} :
    (∃ parsed, kinds seen groups = .ok parsed) ↔
      (∀ group ∈ groups, ∃ kind ∉ seen, ChapterKind.ofName? group.1 = some kind) ∧
        (groups.map fun group => ChapterKind.ofName? group.1).Nodup := by
  induction groups generalizing seen with
  | nil => simp [kinds]
  | cons group groups ih =>
    obtain ⟨name, records⟩ := group
    rw [List.forall_mem_cons, List.map_cons, List.nodup_cons, kinds]
    cases hkind : ChapterKind.ofName? name with
    | none => simp
    | some kind =>
      by_cases hseen : kind ∈ seen
      · simp [hseen]
      · have hmap : (∃ parsed, ((kinds (kind :: seen) groups).map fun rest =>
              (kind, records.map fun r => (r.id, r.title)) :: rest) = .ok parsed) ↔
            ∃ rest, kinds (kind :: seen) groups = .ok rest := by
          simp [map_eq_ok_iff]
        simp only [if_neg hseen, hmap, ih]
        constructor
        · rintro ⟨hknown, hnodup⟩
          refine ⟨⟨⟨kind, hseen, rfl⟩, ?_⟩, ?_, hnodup⟩
          · intro other hother
            obtain ⟨k, hk, hname⟩ := hknown other hother
            exact ⟨k, fun h => hk (List.mem_cons_of_mem _ h), hname⟩
          · intro hmem
            obtain ⟨other, hother, hsame⟩ := List.mem_map.mp hmem
            obtain ⟨k, hk, hname⟩ := hknown other hother
            obtain rfl : k = kind := Option.some.inj (hname.symm.trans hsame)
            exact hk List.mem_cons_self
        · rintro ⟨⟨-, hknown⟩, hnew, hnodup⟩
          refine ⟨?_, hnodup⟩
          intro other hother
          obtain ⟨k, hk, hname⟩ := hknown other hother
          refine ⟨k, ?_, hname⟩
          rw [List.mem_cons, not_or]
          refine ⟨?_, hk⟩
          rintro rfl
          exact hnew (List.mem_map.mpr ⟨other, hother, hname⟩)

/-- **Which groups make an index**: the names are those of groups, and of different ones. -/
theorem exists_ofGroups?_iff (hnodup : (groups.map (·.1)).Nodup) :
    (∃ index, ofGroups? groups = .ok index) ↔
      (∀ name ∈ groups.map (·.1), (ChapterKind.ofName? name).isSome) ∧
        ∀ name ∈ groups.map (·.1), ∀ other ∈ groups.map (·.1),
          ChapterKind.ofName? name = ChapterKind.ofName? other → name = other := by
  have hmap : (∃ index, ofGroups? groups = .ok index) ↔ ∃ parsed, kinds [] groups = .ok parsed := by
    simp [ofGroups?, map_eq_ok_iff]
  have hnames : (groups.map fun group => ChapterKind.ofName? group.1) =
      (groups.map (·.1)).map ChapterKind.ofName? := by
    rw [List.map_map]
    rfl
  rw [hmap, exists_kinds_iff, hnames, List.nodup_map_iff_inj_on hnodup, List.forall_mem_map]
  simp [Option.isSome_iff_exists]

/-! ### The number of chapters -/

theorem size_put (x : ChapterIndex) (kind : ChapterKind) (chapters : List Chapter) :
    (x.put kind chapters).size + (x.group kind).length = x.size + chapters.length := by
  cases kind <;> simp [size, toList, tabs, ChapterKind.all, group_put] <;> omega

theorem size_foldl_put {x : ChapterIndex} (hnodup : (parsed.map (·.1)).Nodup)
    (hempty : ∀ kind ∈ parsed.map (·.1), x.group kind = []) :
    (parsed.foldl (fun x (kind, entries) => x.put kind (numbered kind entries)) x).size =
      x.size + (parsed.map (·.2.length)).sum := by
  induction parsed generalizing x with
  | nil => rfl
  | cons group parsed ih =>
    obtain ⟨kind, entries⟩ := group
    rw [List.map_cons, List.nodup_cons] at hnodup
    rw [List.map_cons, List.forall_mem_cons] at hempty
    have hput : (x.put kind (numbered kind entries)).size = x.size + entries.length := by
      have hput := size_put x kind (numbered kind entries)
      rwa [hempty.1, List.length_nil, numbered, List.length_mapIdx] at hput
    rw [List.foldl_cons, ih hnodup.2, List.map_cons, List.sum_cons, ← Nat.add_assoc, ← hput]
    · intro other hother
      rw [group_put, if_neg, hempty.2 other hother]
      rintro rfl
      exact hnodup.1 hother

theorem size_of_ofGroups? (h : ofGroups? groups = .ok index) :
    index.size = (groups.map (·.2.length)).sum := by
  obtain ⟨parsed, hparsed, rfl⟩ := map_eq_ok h
  obtain ⟨hlengths, hnodup, -⟩ := kinds_eq_ok hparsed
  rw [← hlengths, ofGroups, size_foldl_put hnodup]
  · simp [size, toList, tabs, ChapterKind.all, group, group?]
  · intro kind _
    cases kind <;> rfl

/-! ### What of an answer is in the index -/

/-- **Which chapters of an answer are in the index.** Let a text be read as chapter groups. It makes
an index if and only if every name that it writes is that of a group and no group is written in two
spellings. The index then has as many chapters as are written under the names in their last places:
never more than the text writes, and fewer if and only if chapters are written under a name that is
written once more behind them. -/
theorem chapters_of_answer (text : String) (hread : ChapterGroups.form.parse text = .ok groups) :
    let written := writtenGroups text
    ((∃ index, ofGroups? groups = .ok index) ↔
        (∀ p ∈ written, (ChapterKind.ofName? p.1).isSome) ∧
          ∀ p ∈ written, ∀ q ∈ written,
            ChapterKind.ofName? p.1 = ChapterKind.ofName? q.1 → p.1 = q.1) ∧
      ∀ index, ofGroups? groups = .ok index →
        index.size = total (lasting written) ∧ index.size ≤ total written ∧
          (index.size < total written ↔
            ∃ before p after, written = before ++ p :: after ∧ 0 < p.2 ∧
              p.1 ∈ after.map (·.1)) := by
  intro written
  obtain ⟨read, hwritten, rfl⟩ := exists_read_of_parse hread
  -- the names of the dictionary are those of the text
  have hall : ∀ P : String → Prop,
      (∀ name ∈ (read.foldl putPair []).map (·.1), P name) ↔ ∀ p ∈ written, P p.1 := by
    intro P
    simp only [mem_names_foldl_putPair]
    rw [show written = _ from hwritten.symm, List.forall_mem_map, List.forall_mem_map]
  constructor
  · rw [exists_ofGroups?_iff (nodup_foldl_putPair read), hall]
    simp only [hall]
  · intro index hindex
    have hsize : index.size = total (lasting written) := by
      rw [size_of_ofGroups? hindex, ((foldl_putPair_perm read).map _).sum_eq]
      show _ = total (lasting (writtenGroups text))
      rw [← hwritten, lasting_map, total, List.map_map]
      rfl
    rw [hsize]
    exact ⟨rfl, total_lasting written⟩

/-- A list that is empty where its name stands first loses nothing. -/
theorem chapters_of_answer_refilled :
    let text := "\x7b\"volume\":[[1,\"a\"]],\"Misc\":[],\"Misc\":[[2,\"b\"]]\x7d"
    ∃ groups index, ChapterGroups.form.parse text = .ok groups ∧ ofGroups? groups = .ok index ∧
      index.size = total (writtenGroups text) := by
  intro text
  have hread : ChapterGroups.form.parse text =
      .ok [("volume", [⟨1, "a"⟩]), ("Misc", [⟨2, "b"⟩])] := by decide +kernel
  have hwritten : writtenGroups text = [("volume", 1), ("Misc", 0), ("Misc", 1)] := by
    decide +kernel
  obtain ⟨hindex, hsize⟩ := chapters_of_answer text hread
  rw [hwritten] at hindex hsize
  obtain ⟨index, hindex⟩ := hindex.mpr ⟨by decide +kernel, by decide +kernel⟩
  refine ⟨_, index, hread, hindex, (hsize index hindex).1.trans ?_⟩
  rw [hwritten]
  rfl

/-- **An answer may write chapters that its index does not have**: two lists under one name. -/
theorem answer_loses_chapter :
    let text := "\x7b\"Chapter\":[[1,\"a\"]],\"Chapter\":[[2,\"b\"]]\x7d"
    ∃ groups index, ChapterGroups.form.parse text = .ok groups ∧ ofGroups? groups = .ok index ∧
      index.size < total (writtenGroups text) := by
  intro text
  have hread : ChapterGroups.form.parse text = .ok [("Chapter", [⟨2, "b"⟩])] := by decide +kernel
  have hwritten : writtenGroups text = [("Chapter", 1), ("Chapter", 1)] := by decide +kernel
  refine ⟨_, _, hread, rfl, ?_⟩
  rw [hwritten]
  decide

end ChapterIndex

end MangaReader

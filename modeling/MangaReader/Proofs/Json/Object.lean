import MangaReader.Proofs.Json.Accepted
import MangaReader.Proofs.Json.Placeless
import Mathlib.Data.List.Pairwise
import Mathlib.Tactic.MkIffOfInductiveProp

/-!
# Records and the members of their texts

A text of an object is taken apart into its members, which are names and texts of values. Each field
of a record is read from the member of its name as if that were a text of its own, so that the rest
of the members, their order and what is not known to the record have no part in it.

* `Passes` : a text of one value, which need not be readable.
* `IsObject` : the texts of an object and its members.
* `Shape.Lawful` : a record type whose fields are set apart from each other.
* `Shape.exists_isObject` : a text that is read as a record has members.
* `Shape.Fills`, `Shape.parse_eq_ok_iff` : **a record is read field by field**.
* `Shape.Fills.replace`, `Shape.Fills.remove`, `Shape.Fills.unknown_iff`, `Shape.Fills.perm` : what
  becomes of a record when its members change.
* `Shape.Decodes` : what is read of all texts with the same members.
-/

namespace MangaReader.Json

open MangaReader.Json.Tree

variable {α β : Type}

/-! ### Texts of objects -/

/-- A text of one value, which need not be readable. -/
def Passes (value : List Char) : Prop :=
  (Document.ofText value).tree.skipFault? = none ∧ (Document.ofText value).extra = none

theorem passes_of_stands {t : Tree} {core value : List Char} (h : t.Stands core)
    (hframe : Framed core value) : Passes value := by
  obtain ⟨halike, hextra⟩ := Document.ofText_of_stands h hframe
  exact ⟨halike.skipFault?_eq.2, hextra⟩

theorem passes_of_parse {value : String} {v : Value} (h : Value.parse value = .ok v) :
    Passes value.toList := by
  obtain ⟨⟨core, hspells, hframe⟩, -⟩ := Value.parse_eq_ok_iff.mp h
  obtain ⟨t, -, hstands⟩ := hspells.stands
  exact passes_of_stands hstands hframe

/-- The texts of a member: its name, spelled in any way, and the text of its value as it is. -/
inductive IsMember : String × List Char → List Char → Prop
  | intro {name : String} {value body left : List Char} (hname : Literal.Spells name.toList body)
    (hleft : Framed ('"' :: (body ++ ['"'])) left) (hvalue : Passes value) :
    IsMember (name, value) (left ++ ':' :: value)

inductive AreMembers : List (String × List Char) → List Char → Prop
  | last {m : String × List Char} {text : List Char} (head : IsMember m text) : AreMembers [m] text
  | cons {m : String × List Char} {members : List (String × List Char)} {text more : List Char}
    (head : IsMember m text) (tail : AreMembers members more) :
    AreMembers (m :: members) (text ++ ',' :: more)

/-- The texts of an object with some members. -/
inductive IsObject : List (String × List Char) → List Char → Prop
  | empty {blank text : List Char} (hblank : Blank blank)
    (hframe : Framed ('\x7b' :: (blank ++ ['\x7d'])) text) : IsObject [] text
  | filled {members : List (String × List Char)} {inner text : List Char}
    (h : AreMembers members inner) (hframe : Framed ('\x7b' :: (inner ++ ['\x7d'])) text) :
    IsObject members text

variable {members : List (String × List Char)} {text : List Char}

theorem AreMembers.passes (h : AreMembers members text) : ∀ m ∈ members, Passes m.2 := by
  induction h with
  | last head =>
    obtain ⟨_, _, hvalue⟩ := head
    simpa using hvalue
  | cons head _ ih =>
    obtain ⟨_, _, hvalue⟩ := head
    exact List.forall_mem_cons.mpr ⟨hvalue, ih⟩

theorem IsObject.passes (h : IsObject members text) : ∀ m ∈ members, Passes m.2 := by
  cases h with
  | empty => exact nofun
  | filled h => exact h.passes

theorem exists_areMembers {m : String × List Char} (h : ∀ n ∈ m :: members, Passes n.2) :
    ∃ inner, AreMembers (m :: members) inner := by
  have hmember : ∀ n : String × List Char, Passes n.2 → ∃ text, IsMember n text := fun n hn =>
    ⟨_, .intro (Literal.spells_write n.1.toList) (.self _) hn⟩
  induction members generalizing m with
  | nil =>
    obtain ⟨text, htext⟩ := hmember m (h m List.mem_cons_self)
    exact ⟨text, .last htext⟩
  | cons n members ih =>
    obtain ⟨hm, hmembers⟩ := List.forall_mem_cons.mp h
    obtain ⟨text, htext⟩ := hmember m hm
    obtain ⟨more, hmore⟩ := ih hmembers
    exact ⟨_, .cons htext hmore⟩

theorem exists_isObject_of_passes (h : ∀ m ∈ members, Passes m.2) :
    ∃ text : String, IsObject members text.toList := by
  have hself : ∀ core : List Char, Framed core (String.ofList core).toList := by
    intro core
    rw [String.toList_ofList]
    exact .self core
  cases members with
  | nil => exact ⟨_, @IsObject.empty [] _ nofun (hself _)⟩
  | cons m members =>
    obtain ⟨inner, hinner⟩ := exists_areMembers h
    exact ⟨_, .filled hinner (hself _)⟩

/-- The tree of a member, the name and the value each as if it stood alone. -/
def entry (m : String × List Char) : Name × Tree × Nat :=
  (⟨.ok m.1, 0⟩, (Document.ofText m.2).tree, 0)

theorem AreMembers.stand (h : AreMembers members text) :
    StandMembers (members.map entry) text := by
  have hmember : ∀ {m : String × List Char} {text : List Char}, IsMember m text →
      StandsMember (entry m) text := by
    rintro _ _ ⟨hname, hleft, hsound, hextra⟩
    obtain ⟨core, hstands, hframe⟩ := Document.stands_of_ofText hsound hextra
    exact .intro hname.loose (toOption_eq_some_iff_spells hname) hleft hstands hframe 0 0
  induction h with
  | last head => exact .last (hmember head)
  | cons head _ ih => exact .cons (hmember head) ih

theorem IsObject.ofText (h : IsObject members text) :
    (Tree.object 0 (members.map entry) (.closed 0)).Alike (Document.ofText text).tree ∧
      (Document.ofText text).extra = none := by
  cases h with
  | empty hblank hframe => exact Document.ofText_of_stands (.emptyObject hblank 0 0) hframe
  | filled h hframe => exact Document.ofText_of_stands (.object h.stand 0 0) hframe

theorem exists_areMembers_of_stand {trees : List (Name × Tree × Nat)}
    (h : StandMembers trees text) (hnames : ∀ m ∈ trees, ∃ name, m.1.read = .ok name) :
    ∃ members, AreMembers members text := by
  have hmember : ∀ {m : Name × Tree × Nat} {text : List Char}, StandsMember m text →
      (∃ name, m.1.read = .ok name) → ∃ n, IsMember n text := by
    rintro _ _ ⟨_, hr, hleft, hvalue, hright, _, _⟩ ⟨name, rfl⟩
    exact ⟨_, .intro ((hr name).mp rfl) hleft (passes_of_stands hvalue hright)⟩
  induction trees generalizing text with
  | nil => cases h
  | cons m trees ih =>
    obtain ⟨hm, htrees⟩ := List.forall_mem_cons.mp hnames
    cases h with
    | last head =>
      obtain ⟨n, hn⟩ := hmember head hm
      exact ⟨[n], .last hn⟩
    | cons head tail =>
      obtain ⟨n, hn⟩ := hmember head hm
      obtain ⟨members, hmembers⟩ := ih tail htrees
      exact ⟨n :: members, .cons hn hmembers⟩

theorem tree_of_brace (h : (Cursor.start text).skipBlank.rest.head? = some '\x7b') :
    ∃ start trees ending, (Document.ofText text).tree = .object start trees ending := by
  obtain ⟨more, hmore⟩ : ∃ more, (Cursor.start text).skipBlank.rest = '\x7b' :: more :=
    List.head?_eq_some_iff.mp h
  have hread : ∀ (fuel : Nat) (c : Cursor), c.rest = '\x7b' :: more →
      ∃ start trees ending after, Tree.read (fuel + 1) c = (.object start trees ending, after) := by
    rintro fuel ⟨_, offset⟩ rfl
    exact ⟨_, _, _, _, rfl⟩
  obtain ⟨start, trees, ending, after, hobject⟩ := hread text.length _ hmore
  refine ⟨start, trees, ending, ?_⟩
  rw [Document.ofText, hobject]
  cases after <;> rfl

/-! ### Records -/

theorem Form.parse_eq_ok_iff {form : Form α} {text : String} {a : α} :
    form.parse text = .ok a ↔
      form.read (Document.ofText text.toList).tree = .ok a ∧
        (Document.ofText text.toList).extra = none := by
  rw [Form.parse, Document.finish_eq_ok_iff]
  cases form.read (Document.ofText text.toList).tree with
  | ok b => simp
  | error flaw => simp

namespace Field

@[mk_iff]
structure Apart (f g : Field α) : Prop where
  name_ne : f.name ≠ g.name
  get_set : ∀ d a, f.get (g.set d a) = f.get a
  set_get : ∀ d a, g.get (f.set d a) = g.get a

instance : Std.Symm (@Apart α) := ⟨fun _ _ h => ⟨h.name_ne.symm, h.set_get, h.get_set⟩⟩

end Field

namespace Shape

variable {s : Shape α} {a r : α} {f : Field α} {seen : List String} {value : List Char}

/-- A record type whose fields are apart from each other, make up its records and take no notice of
places. -/
structure Lawful (s : Shape α) : Prop where
  apart : s.fields.Pairwise Field.Apart
  get_set : ∀ f ∈ s.fields, ∀ d a, f.get (f.set d a) = d
  ext : ∀ a b, (∀ f ∈ s.fields, f.get a = f.get b) → a = b
  placeless : ∀ f ∈ s.fields, f.form.Placeless

theorem names_of_readMembers {ending : Ending} {trees : List (Name × Tree × Nat)}
    (h : s.readMembers ending seen trees r = .ok a) : ∀ m ∈ trees, ∃ name, m.1.read = .ok name := by
  induction trees generalizing seen r with
  | nil => exact nofun
  | cons m trees ih =>
    rw [readMembers] at h
    split at h
    · cases h
    · rename_i key hkey
      refine List.forall_mem_cons.mpr ⟨⟨key, hkey⟩, ?_⟩
      split at h
      · split at h
        · cases h
        · exact ih h
      · split at h
        · cases h
        · split at h
          · cases h
          · exact ih h

theorem exists_isObject (hs : s.Lawful) {text : String} (h : s.form.parse text = .ok a)
    (hbrace : (Cursor.start text.toList).skipBlank.rest.head? = some '\x7b') :
    ∃ members, IsObject members text.toList := by
  obtain ⟨hread, hextra⟩ := Form.parse_eq_ok_iff.mp h
  have hsound := (placeless hs.placeless).sound hread
  obtain ⟨core, hstands, hframe⟩ := Document.stands_of_ofText hsound hextra
  obtain ⟨start, trees, ending, htree⟩ := tree_of_brace hbrace
  rw [htree] at hread hstands
  cases hstands with
  | emptyObject hblank => exact ⟨[], .empty hblank hframe⟩
  | object hstand =>
    obtain ⟨members, hmembers⟩ := exists_areMembers_of_stand hstand (names_of_readMembers hread)
    exact ⟨members, .filled hmembers hframe⟩

theorem Lawful.eq_of_name (hs : s.Lawful) (hf : f ∈ s.fields) {g : Field α} (hg : g ∈ s.fields)
    (hname : g.name = f.name) : g = f := by
  by_contra hne
  exact (hs.apart.forall hg hf hne).name_ne hname

theorem Lawful.get_set_of_ne (hs : s.Lawful) (hf : f ∈ s.fields) {g : Field α} (hg : g ∈ s.fields)
    (hname : g.name ≠ f.name) (d : f.Datum) (a : α) : g.get (f.set d a) = g.get a :=
  (hs.apart.forall hg hf fun heq => hname (heq ▸ rfl)).get_set d a

theorem Lawful.set_set (hs : s.Lawful) (hf : f ∈ s.fields) (d d' : f.Datum) (a : α) :
    f.set d (f.set d' a) = f.set d a := by
  refine hs.ext _ _ fun g hg => ?_
  by_cases hname : g.name = f.name
  · obtain rfl := hs.eq_of_name hf hg hname
    rw [hs.get_set g hg, hs.get_set g hg]
  · rw [hs.get_set_of_ne hf hg hname, hs.get_set_of_ne hf hg hname, hs.get_set_of_ne hf hg hname]

theorem Lawful.set_get (hs : s.Lawful) (hf : f ∈ s.fields) (a : α) : f.set (f.get a) a = a := by
  refine hs.ext _ _ fun g hg => ?_
  by_cases hname : g.name = f.name
  · obtain rfl := hs.eq_of_name hf hg hname
    rw [hs.get_set g hg]
  · rw [hs.get_set_of_ne hf hg hname]

/-! ### Members and fields -/

def known (s : Shape α) (members : List (String × List Char)) : List String :=
  (members.map (·.1)).filter (· ∈ s.fields.map (·.name))

theorem known_cons_of_mem (hf : f ∈ s.fields) :
    s.known ((f.name, value) :: members) = f.name :: s.known members := by
  have hname : f.name ∈ s.fields.map (·.name) := List.mem_map_of_mem hf
  rw [known, List.map_cons, List.filter_cons_of_pos (by simpa using hname), known]

theorem known_cons_of_ne {name : String} (hname : ∀ f ∈ s.fields, f.name ≠ name) :
    s.known ((name, value) :: members) = s.known members := by
  rw [known, List.map_cons, List.filter_cons_of_neg (by simpa using hname), known]

theorem mem_known (hf : f ∈ s.fields) : f.name ∈ s.known members ↔ f.name ∈ members.map (·.1) := by
  have hname : f.name ∈ s.fields.map (·.name) := List.mem_map_of_mem hf
  rw [known, List.mem_filter, and_iff_left (by simpa using hname)]

/-- What members make of a record when some fields have been seen: each field that one of them
names is read from it alone, and the others are as they were. -/
structure Fills (s : Shape α) (seen : List String) (members : List (String × List Char))
    (r a : α) : Prop where
  distinct : (s.known members).Nodup
  fresh : ∀ name ∈ s.known members, name ∉ seen
  read : ∀ f ∈ s.fields, ∀ value, (f.name, value) ∈ members →
    f.form.parse (String.ofList value) = .ok (f.get a)
  absent : ∀ f ∈ s.fields, f.name ∉ members.map (·.1) →
    (f.absence = .refused → f.name ∈ seen) ∧ f.get a = f.get r

theorem fills_nil (hs : s.Lawful) :
    s.Fills seen [] r a ↔ (∀ f ∈ s.fields, f.absence = .refused → f.name ∈ seen) ∧ r = a := by
  constructor
  · intro h
    exact ⟨fun f hf => (h.absent f hf (by simp)).1,
      hs.ext _ _ fun f hf => ((h.absent f hf (by simp)).2).symm⟩
  · rintro ⟨hseen, rfl⟩
    exact ⟨.nil, nofun, nofun, fun f hf _ => ⟨hseen f hf, rfl⟩⟩

theorem fills_unknown {name : String} (hname : ∀ f ∈ s.fields, f.name ≠ name) :
    s.Fills seen ((name, value) :: members) r a ↔ s.Fills seen members r a := by
  have hknown : s.known ((name, value) :: members) = s.known members := known_cons_of_ne hname
  have hmem : ∀ f ∈ s.fields, ∀ v,
      (f.name, v) ∈ (name, value) :: members ↔ (f.name, v) ∈ members := by
    intro f hf v
    simp [hname f hf]
  have hnames : ∀ f ∈ s.fields,
      f.name ∉ ((name, value) :: members).map (·.1) ↔ f.name ∉ members.map (·.1) := by
    intro f hf
    simp [hname f hf]
  constructor
  · rintro ⟨hdistinct, hfresh, hread, habsent⟩
    rw [hknown] at hdistinct hfresh
    exact ⟨hdistinct, hfresh, fun f hf v hv => hread f hf v ((hmem f hf v).mpr hv),
      fun f hf hv => habsent f hf ((hnames f hf).mpr hv)⟩
  · rintro ⟨hdistinct, hfresh, hread, habsent⟩
    rw [← hknown] at hdistinct hfresh
    exact ⟨hdistinct, hfresh, fun f hf v hv => hread f hf v ((hmem f hf v).mp hv),
      fun f hf hv => habsent f hf ((hnames f hf).mp hv)⟩

theorem fills_known (hs : s.Lawful) (hf : f ∈ s.fields) :
    s.Fills seen ((f.name, value) :: members) r a ↔
      f.name ∉ seen ∧ ∃ d, f.form.parse (String.ofList value) = .ok d ∧
        s.Fills (f.name :: seen) members (f.set d r) a := by
  constructor
  · rintro ⟨hdistinct, hfresh, hread, habsent⟩
    rw [known_cons_of_mem hf] at hdistinct hfresh
    obtain ⟨hnot, hdistinct⟩ := List.nodup_cons.mp hdistinct
    obtain ⟨hseen, hfresh⟩ := List.forall_mem_cons.mp hfresh
    refine ⟨hseen, f.get a, hread f hf value List.mem_cons_self, hdistinct, ?_, ?_, ?_⟩
    · intro name hname
      rw [List.mem_cons, not_or]
      exact ⟨fun heq => hnot (heq ▸ hname), hfresh name hname⟩
    · exact fun g hg v hv => hread g hg v (List.mem_cons_of_mem _ hv)
    · intro g hg hv
      by_cases hname : g.name = f.name
      · obtain rfl := hs.eq_of_name hf hg hname
        exact ⟨fun _ => List.mem_cons_self, (hs.get_set g hg _ r).symm⟩
      · obtain ⟨hrefused, hsame⟩ := habsent g hg (by simpa [hname] using hv)
        exact ⟨fun h => List.mem_cons_of_mem _ (hrefused h),
          by rw [hs.get_set_of_ne hf hg hname, hsame]⟩
  · rintro ⟨hseen, d, hd, hdistinct, hfresh, hread, habsent⟩
    -- The members behind do not name `f` again, so they leave it as it was read here.
    have hnot : f.name ∉ s.known members := fun hmem => hfresh _ hmem List.mem_cons_self
    have hvalue : f.get a = d := by
      rw [(habsent f hf fun hmem => hnot ((mem_known hf).mpr hmem)).2, hs.get_set f hf]
    refine ⟨?_, ?_, ?_, ?_⟩
    · rw [known_cons_of_mem hf]
      exact List.nodup_cons.mpr ⟨hnot, hdistinct⟩
    · rw [known_cons_of_mem hf]
      refine List.forall_mem_cons.mpr ⟨hseen, fun name hname hmem => ?_⟩
      exact hfresh name hname (List.mem_cons_of_mem _ hmem)
    · intro g hg v hv
      rcases List.mem_cons.mp hv with heq | hv
      · obtain ⟨hname, rfl⟩ := Prod.mk.inj heq
        obtain rfl := hs.eq_of_name hf hg hname
        rw [hd, hvalue]
      · exact hread g hg v hv
    · intro g hg hv
      have hne : g.name ≠ f.name := fun heq => hv (by simp [heq])
      obtain ⟨hrefused, hsame⟩ := habsent g hg fun hmem => hv (List.mem_cons_of_mem _ hmem)
      refine ⟨fun h => ?_, by rw [hsame, hs.get_set_of_ne hf hg hne]⟩
      exact (List.mem_cons.mp (hrefused h)).resolve_left hne

theorem parse_of_passes {form : Form β} {d : β} (h : Passes value) :
    form.parse (String.ofList value) = .ok d ↔
      form.read (Document.ofText value).tree = .ok d := by
  rw [Form.parse_eq_ok_iff, String.toList_ofList, and_iff_left h.2]

theorem readMembers_eq_ok_iff (hs : s.Lawful) (hpasses : ∀ m ∈ members, Passes m.2) (stop : Nat) :
    s.readMembers (.closed stop) seen (members.map entry) r = .ok a ↔ s.Fills seen members r a := by
  -- The names that have been seen and the record so far change with each member.
  induction members generalizing seen r with
  | nil =>
    rw [fills_nil hs, List.map_nil, readMembers]
    simp only [Ending.objectBreak?]
    cases hfind : s.fields.find? fun f => f.absence = .refused ∧ f.name ∉ seen with
    | some f =>
      have hrefused := List.find?_some hfind
      simp only [decide_eq_true_eq] at hrefused
      constructor
      · intro h
        cases h
      · intro h
        exact absurd (h.1 f (List.mem_of_find?_eq_some hfind) hrefused.1) hrefused.2
    | none =>
      have hseen : ∀ f ∈ s.fields, f.absence = .refused → f.name ∈ seen := by
        simpa using List.find?_eq_none.mp hfind
      rw [and_iff_right hseen, Except.ok.injEq]
  | cons m members ih =>
    obtain ⟨name, value⟩ := m
    obtain ⟨hvalue, hmembers⟩ := List.forall_mem_cons.mp hpasses
    rw [List.map_cons, entry, readMembers]
    simp only
    cases hfind : s.fields.find? (·.name = name) with
    | none =>
      have hname : ∀ f ∈ s.fields, f.name ≠ name := by
        simpa using List.find?_eq_none.mp hfind
      simp only [hvalue.1]
      rw [ih hmembers, fills_unknown hname]
    | some f =>
      obtain rfl : f.name = name := by
        simpa using List.find?_some hfind
      rw [fills_known hs (List.mem_of_find?_eq_some hfind)]
      simp only [parse_of_passes hvalue]
      split
      · rename_i hseen
        constructor
        · intro h
          cases h
        · intro h
          exact absurd hseen h.1
      · rename_i hseen
        rw [and_iff_right hseen]
        cases hread : f.form.read (Document.ofText value).tree with
        | error flaw => simp
        | ok d => simp [ih hmembers]

theorem parse_eq_ok_iff (hs : s.Lawful) {text : String} (h : IsObject members text.toList) :
    s.form.parse text = .ok a ↔ s.Fills [] members s.blank a := by
  obtain ⟨halike, hextra⟩ := h.ofText
  have hread : (s.readMembers (.closed 0) [] (members.map entry) s.blank).toOption =
      (s.form.read (Document.ofText text.toList).tree).toOption :=
    (placeless hs.placeless).alike halike
  rw [Form.parse_eq_ok_iff, and_iff_left hextra, ← toOption_eq_some_iff, ← hread,
    toOption_eq_some_iff, readMembers_eq_ok_iff hs h.passes]

/-! ### Members that change -/

namespace Fills

variable {front back : List (String × List Char)}

theorem perm (h : s.Fills seen members r a) {members' : List (String × List Char)}
    (hperm : members'.Perm members) : s.Fills seen members' r a := by
  have hknown : (s.known members').Perm (s.known members) := (hperm.map _).filter _
  refine ⟨hknown.nodup_iff.mpr h.distinct, fun name hname => h.fresh name (hknown.mem_iff.mp hname),
    fun f hf v hv => h.read f hf v (hperm.mem_iff.mp hv), fun f hf hname => h.absent f hf ?_⟩
  rwa [(hperm.map _).mem_iff] at hname

theorem set (hs : s.Lawful) (hf : f ∈ s.fields) (hseen : f.name ∈ seen)
    (h : s.Fills seen members r a) (d : f.Datum) :
    s.Fills seen members (f.set d r) (f.set d a) := by
  have hnot : f.name ∉ s.known members := fun hmem => h.fresh _ hmem hseen
  refine ⟨h.distinct, h.fresh, fun g hg v hv => ?_, fun g hg hname => ?_⟩
  · have hne : g.name ≠ f.name := by
      intro heq
      exact hnot ((mem_known hf).mpr (heq ▸ List.mem_map_of_mem hv))
    rw [hs.get_set_of_ne hf hg hne]
    exact h.read g hg v hv
  · obtain ⟨hrefused, hsame⟩ := h.absent g hg hname
    refine ⟨hrefused, ?_⟩
    by_cases heq : g.name = f.name
    · obtain rfl := hs.eq_of_name hf hg heq
      rw [hs.get_set g hg, hs.get_set g hg]
    · rw [hs.get_set_of_ne hf hg heq, hs.get_set_of_ne hf hg heq, hsame]

theorem replace (hs : s.Lawful) (hf : f ∈ s.fields) {d : f.Datum} {value' : List Char}
    (h : s.Fills seen (front ++ (f.name, value) :: back) r a)
    (hd : f.form.parse (String.ofList value') = .ok d) :
    s.Fills seen (front ++ (f.name, value') :: back) r (f.set d a) := by
  obtain ⟨hseen, d', -, hrest⟩ := (fills_known hs hf).mp (h.perm List.perm_middle.symm)
  refine perm ((fills_known hs hf).mpr ⟨hseen, d, hd, ?_⟩) List.perm_middle
  have hset := hrest.set hs hf List.mem_cons_self d
  rwa [hs.set_set hf] at hset

theorem remove (hs : s.Lawful) (hf : f ∈ s.fields) (habsence : f.absence ≠ .refused)
    (h : s.Fills seen (front ++ (f.name, value) :: back) r a) :
    s.Fills seen (front ++ back) r (f.set (f.get r) a) := by
  obtain ⟨-, d, -, hrest⟩ := (fills_known hs hf).mp (h.perm List.perm_middle.symm)
  have hset := hrest.set hs hf List.mem_cons_self (f.get r)
  rw [hs.set_set hf, hs.set_get hf] at hset
  refine ⟨hset.distinct, fun name hname hmem => hset.fresh name hname (List.mem_cons_of_mem _ hmem),
    hset.read, fun g hg hname => ?_⟩
  obtain ⟨hrefused, hsame⟩ := hset.absent g hg hname
  refine ⟨fun hrequired => (List.mem_cons.mp (hrefused hrequired)).resolve_left ?_, hsame⟩
  intro heq
  obtain rfl := hs.eq_of_name hf hg heq
  exact habsence hrequired

theorem unknown_iff {name : String} (hname : ∀ f ∈ s.fields, f.name ≠ name) :
    s.Fills seen (front ++ (name, value) :: back) r a ↔ s.Fills seen (front ++ back) r a := by
  constructor
  · intro h
    exact (fills_unknown hname).mp (h.perm List.perm_middle.symm)
  · intro h
    exact ((fills_unknown hname).mpr h).perm List.perm_middle

end Fills

/-- What is read of all texts of an object with some members, of which there are some. -/
structure Decodes (s : Shape α) (members : List (String × List Char)) (a : α) : Prop where
  exists_text : ∃ text : String, IsObject members text.toList
  parse : ∀ text : String, IsObject members text.toList → s.form.parse text = .ok a

theorem Fills.decodes (hs : s.Lawful) (h : s.Fills [] members s.blank a)
    (hpasses : ∀ m ∈ members, Passes m.2) : s.Decodes members a :=
  ⟨exists_isObject_of_passes hpasses, fun _ htext => (parse_eq_ok_iff hs htext).mpr h⟩

end Shape

end MangaReader.Json

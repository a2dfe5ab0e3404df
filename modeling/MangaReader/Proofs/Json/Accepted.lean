import MangaReader.Proofs.Json.Complete

/-!
# The reader accepts the grammar

A reader that comes to the end of a tree has left the text behind that the tree stands in, and one
that does not has met a mistake. So a text is a document of the grammar if and only if it has a
value, and then it is the document of that value.

* `Tree.ReadsStanding` : a reader that leaves nothing behind but what its trees stand in.
* `Tree.item_standing`, `Tree.member_standing` : what it leaves behind between brackets.
* `Tree.read_standing` : **what is read stands in the text**.
* `Tree.read_broken` : what is not left behind is broken off.
* `Value.parse_eq_ok_iff` : **the values of texts are those of the grammar**.
-/

namespace MangaReader.Json

namespace Tree

variable {read : Cursor → Tree × Option Cursor}

/-- What is read stands in the text that is left behind. -/
def ReadsStanding (read : Cursor → Tree × Option Cursor) : Prop :=
  ∀ {c after : Cursor} {t : Tree}, read c = (t, some after) →
    ∃ core, c.rest = core ++ after.rest ∧ t.Stands core

/-- Items that are read up to a closing bracket stand in the text before it. -/
def ItemsStanding (read : Cursor → List (Nat × Tree × Nat) × Ending × Option Cursor)
    (stand : List (Nat × Tree × Nat) → List Char → Prop) : Prop :=
  ∀ {c after : Cursor} {items : List (Nat × Tree × Nat)} {ending : Ending},
    read c = (items, ending, some after) →
    ∃ text stop, ending = .closed stop ∧ c.rest = text ++ ']' :: after.rest ∧ stand items text

def StandFurther (items : List (Nat × Tree × Nat)) (text : List Char) : Prop :=
  items = [] ∧ text = [] ∨ ∃ more, text = ',' :: more ∧ StandItems items more

theorem item_standing (hread : ReadsStanding read) {fuel : Nat}
    (hfurther : ItemsStanding (readItems read fuel false) StandFurther) :
    ItemsStanding (readItems.item read fuel) StandItems := by
  intro c after items ending h
  rw [readItems.item] at h
  split at h
  · cases h
  · rename_i t behind hr
    dsimp only at h
    obtain ⟨blank, hblank, hbehind, -⟩ := behind.blank_of_skipBlank
    obtain ⟨core, hc, hcore⟩ := hread hr
    rcases hnext : readItems read fuel false behind.skipBlank with ⟨items, ending, last⟩
    rw [hnext] at h
    cases h
    obtain ⟨text, stop, hending, hrest, ⟨rfl, rfl⟩ | ⟨more, rfl, hmore⟩⟩ := hfurther hnext
    · exact ⟨core ++ blank, stop, hending, by simp [hc, hbehind, hrest],
        .last hcore (.behind hblank) _ _⟩
    · exact ⟨core ++ blank ++ ',' :: more, stop, hending, by simp [hc, hbehind, hrest],
        .cons hcore (.behind hblank) hmore _ _⟩

theorem readItems_inv {fuel : Nat} {first : Bool} {c after : Cursor}
    {items : List (Nat × Tree × Nat)} {ending : Ending}
    (h : readItems read fuel first c = (items, ending, some after)) :
    (c.rest = ']' :: after.rest ∧ items = [] ∧ ∃ stop, ending = .closed stop) ∨
      ∃ fuel' start, fuel = fuel' + 1 ∧
        readItems.item read fuel' start = (items, ending, some after) ∧
        (first = true → start = c) ∧
        (first = false → ∃ blank, Blank blank ∧ c.rest = ',' :: (blank ++ start.rest)) := by
  cases fuel with
  | zero =>
    rw [readItems] at h
    cases h
  | succ fuel =>
    rw [readItems] at h
    split at h
    · cases h
    · rename_i rest hclose
      cases h
      exact .inl ⟨by rw [hclose, Cursor.rest_next hclose], rfl, _, rfl⟩
    · rename_i ch rest _ hrest
      split at h
      · rename_i hfirst
        exact .inr ⟨fuel, c, rfl, h, fun _ => rfl, fun hother => by simp [hother] at hfirst⟩
      · rename_i hfirst
        split at h
        · rename_i hcomma
          obtain ⟨blank, hblank, hnext, -⟩ := c.next.blank_of_skipBlank
          rw [Cursor.rest_next hrest] at hnext
          dsimp only at h
          split at h
          · cases h
          · cases h
          · exact .inr ⟨fuel, _, rfl, h, fun hother => absurd hother hfirst,
              fun _ => ⟨blank, hblank, by rw [hrest, hcomma, ← hnext]⟩⟩
        · cases h

theorem readItems_standing (hread : ReadsStanding read) (fuel : Nat) :
    ItemsStanding (readItems read fuel false) StandFurther := by
  induction fuel using Nat.strongRecOn with
  | ind fuel ih =>
    intro c after items ending h
    obtain ⟨hclose, rfl, stop, rfl⟩ | ⟨fuel, start, rfl, hitem, -, hcomma⟩ := readItems_inv h
    · exact ⟨[], stop, rfl, hclose, .inl ⟨rfl, rfl⟩⟩
    · obtain ⟨blank, hblank, hc⟩ := hcomma rfl
      obtain ⟨text, stop, hending, htext, hstand⟩ :=
        item_standing hread (ih fuel (Nat.lt_succ_self fuel)) hitem
      exact ⟨',' :: (blank ++ text), stop, hending, by simp [hc, htext],
        .inr ⟨blank ++ text, rfl, hstand.blank_append hblank⟩⟩

theorem readItems_first_standing (hread : ReadsStanding read) (fuel : Nat) :
    ItemsStanding (readItems read fuel true)
      fun items text => items = [] ∧ text = [] ∨ StandItems items text := by
  intro c after items ending h
  obtain ⟨hclose, rfl, stop, rfl⟩ | ⟨fuel, start, rfl, hitem, hfirst, -⟩ := readItems_inv h
  · exact ⟨[], stop, rfl, hclose, .inl ⟨rfl, rfl⟩⟩
  · obtain rfl := hfirst rfl
    obtain ⟨text, stop, hending, htext, hstand⟩ :=
      item_standing hread (readItems_standing hread fuel) hitem
    exact ⟨text, stop, hending, htext, .inr hstand⟩

/-- Members that are read up to a closing bracket stand in the text before it. -/
def MembersStanding (read : Cursor → List (Name × Tree × Nat) × Ending × Option Cursor)
    (stand : List (Name × Tree × Nat) → List Char → Prop) : Prop :=
  ∀ {c after : Cursor} {members : List (Name × Tree × Nat)} {ending : Ending},
    read c = (members, ending, some after) →
    ∃ text stop, ending = .closed stop ∧ c.rest = text ++ '\x7d' :: after.rest ∧ stand members text

def StandOthers (members : List (Name × Tree × Nat)) (text : List Char) : Prop :=
  members = [] ∧ text = [] ∨ ∃ more, text = ',' :: more ∧ StandMembers members more

theorem member_standing (hread : ReadsStanding read) {fuel : Nat}
    (hothers : MembersStanding (readMembers read fuel false) StandOthers) :
    MembersStanding (readMembers.member read fuel) StandMembers := by
  intro c after members ending h
  rw [readMembers.member] at h
  split at h
  · rename_i text hquote
    split at h
    · rename_i name stop behind hname
      dsimp only at h
      obtain ⟨r, body, hstring, htext, hbody, hr⟩ := loose_of_readString hquote hname
      cases hstring
      obtain ⟨space, hspace, hbehind, -⟩ := behind.blank_of_skipBlank
      split at h
      · rename_i value hcolon
        obtain ⟨before, hbefore, hvalue, -⟩ := behind.skipBlank.next.blank_of_skipBlank
        split at h
        · cases h
        · rename_i t behindValue hrv
          obtain ⟨blank, hblank, hafter, -⟩ := behindValue.blank_of_skipBlank
          obtain ⟨core, hcore, hstands⟩ := hread hrv
          rcases hnext : readMembers read fuel false behindValue.skipBlank with
            ⟨members, ending, last⟩
          rw [hnext] at h
          cases h
          have hmember : StandsMember
              (⟨name, behind.skipBlank.offset⟩, t, behindValue.skipBlank.offset)
              ('"' :: (body ++ ['"']) ++ space ++ ':' :: (before ++ (core ++ blank))) :=
            .intro hbody hr (.behind hspace) hstands (.intro hbefore hblank) _ _
          have hc : c.rest = '"' :: (body ++ ['"']) ++ space ++
              ':' :: (before ++ (core ++ blank)) ++ behindValue.skipBlank.rest := by
            rw [Cursor.rest_next hcolon] at hvalue
            simp [hquote, htext, hbehind, hcolon, hvalue, hcore, hafter]
          obtain ⟨text, stop, hending, hrest, ⟨rfl, rfl⟩ | ⟨more, rfl, hmore⟩⟩ := hothers hnext
          · exact ⟨_, stop, hending, by rw [hc, hrest, List.nil_append], .last hmember⟩
          · exact ⟨_, stop, hending, by rw [hc, hrest, ← List.append_assoc],
              .cons hmember hmore⟩
      · cases h
      · cases h
    · split at h <;> cases h
  · cases h

theorem readMembers_inv {fuel : Nat} {first : Bool} {c after : Cursor}
    {members : List (Name × Tree × Nat)} {ending : Ending}
    (h : readMembers read fuel first c = (members, ending, some after)) :
    (c.rest = '\x7d' :: after.rest ∧ members = [] ∧ ∃ stop, ending = .closed stop) ∨
      ∃ fuel' start, fuel = fuel' + 1 ∧
        readMembers.member read fuel' start = (members, ending, some after) ∧
        (first = true → start = c) ∧
        (first = false → ∃ blank, Blank blank ∧ c.rest = ',' :: (blank ++ start.rest)) := by
  cases fuel with
  | zero =>
    rw [readMembers] at h
    cases h
  | succ fuel =>
    rw [readMembers] at h
    split at h
    · cases h
    · rename_i rest hclose
      cases h
      exact .inl ⟨by rw [hclose, Cursor.rest_next hclose], rfl, _, rfl⟩
    · rename_i ch rest _ hrest
      split at h
      · rename_i hfirst
        exact .inr ⟨fuel, c, rfl, h, fun _ => rfl, fun hother => by simp [hother] at hfirst⟩
      · rename_i hfirst
        split at h
        · rename_i hcomma
          obtain ⟨blank, hblank, hnext, -⟩ := c.next.blank_of_skipBlank
          rw [Cursor.rest_next hrest] at hnext
          dsimp only at h
          split at h
          · cases h
          · cases h
          · exact .inr ⟨fuel, _, rfl, h, fun hother => absurd hother hfirst,
              fun _ => ⟨blank, hblank, by rw [hrest, hcomma, ← hnext]⟩⟩
        · cases h

theorem readMembers_standing (hread : ReadsStanding read) (fuel : Nat) :
    MembersStanding (readMembers read fuel false) StandOthers := by
  induction fuel using Nat.strongRecOn with
  | ind fuel ih =>
    intro c after members ending h
    obtain ⟨hclose, rfl, stop, rfl⟩ | ⟨fuel, start, rfl, hmember, -, hcomma⟩ := readMembers_inv h
    · exact ⟨[], stop, rfl, hclose, .inl ⟨rfl, rfl⟩⟩
    · obtain ⟨blank, hblank, hc⟩ := hcomma rfl
      obtain ⟨text, stop, hending, htext, hstand⟩ :=
        member_standing hread (ih fuel (Nat.lt_succ_self fuel)) hmember
      exact ⟨',' :: (blank ++ text), stop, hending, by simp [hc, htext],
        .inr ⟨blank ++ text, rfl, hstand.blank_append hblank⟩⟩

theorem readMembers_first_standing (hread : ReadsStanding read) (fuel : Nat) :
    MembersStanding (readMembers read fuel true)
      fun members text => members = [] ∧ text = [] ∨ StandMembers members text := by
  intro c after members ending h
  obtain ⟨hclose, rfl, stop, rfl⟩ | ⟨fuel, start, rfl, hmember, hfirst, -⟩ := readMembers_inv h
  · exact ⟨[], stop, rfl, hclose, .inl ⟨rfl, rfl⟩⟩
  · obtain rfl := hfirst rfl
    obtain ⟨text, stop, hending, htext, hstand⟩ :=
      member_standing hread (readMembers_standing hread fuel) hmember
    exact ⟨text, stop, hending, htext, .inr hstand⟩

theorem word_spelled {c after : Cursor} {letters : List Char} (h : word c letters = .ok after) :
    c.rest = letters ++ after.rest := by
  induction letters generalizing c with
  | nil =>
    cases h
    rfl
  | cons w ws ih =>
    rw [word] at h
    split at h
    · cases h
    · rename_i ch rest hrest
      split at h
      · rename_i hch
        rw [hrest, hch, List.cons_append, ← ih h, Cursor.rest_next hrest]
      · cases h

theorem leaf_standing {make : Nat → Tree} {word : Except Fault Cursor} {t : Tree} {after : Cursor}
    (h : leaf make word = (t, some after)) : word = .ok after ∧ t = make after.offset := by
  cases word with
  | error f => cases h
  | ok behind =>
    cases h
    exact ⟨rfl, rfl⟩

theorem readNumber_standing : ReadsStanding readNumber := by
  intro c after t h
  have hskip : Number.skip c = .ok after := by
    rw [readNumber] at h
    split at h
    · rename_i hskip
      rw [hskip, Option.some.inj (Prod.mk.inj h).2]
    · cases h
    · cases h
  obtain ⟨n, hn, hends, htext⟩ := Numeral.exists_of_skip hskip
  obtain ⟨r, stop, hread, hr⟩ := readNumber_text hn hends c.offset
  have hc : c = ⟨n.text ++ after.rest, c.offset⟩ := by rw [← htext]
  rw [hc, hread] at h
  obtain ⟨rfl, -⟩ := Prod.mk.inj h
  exact ⟨n.text, htext, .number hn hr stop⟩

theorem readString_standing {c after : Cursor} {text : List Char} {t : Tree}
    (hquote : c.rest = '"' :: text) (h : readString c = (t, some after)) :
    ∃ core, c.rest = core ++ after.rest ∧ t.Stands core := by
  obtain ⟨r, body, rfl, htext, hbody, hr⟩ := loose_of_readString hquote h
  exact ⟨'"' :: (body ++ ['"']), by simp [hquote, htext], .string hbody hr _⟩

theorem read_standing (fuel : Nat) : ReadsStanding (Tree.read fuel) := by
  induction fuel with
  | zero =>
    intro c after t h
    cases h
  | succ fuel ih =>
    intro c after t h
    rw [Tree.read] at h
    split at h
    · cases h
    · rename_i rest hrest
      obtain ⟨hword, rfl⟩ := leaf_standing h
      have hnext := word_spelled hword
      rw [Cursor.rest_next hrest] at hnext
      exact ⟨_, by rw [hrest, hnext]; rfl, .null _⟩
    · rename_i rest hrest
      obtain ⟨hword, rfl⟩ := leaf_standing h
      have hnext := word_spelled hword
      rw [Cursor.rest_next hrest] at hnext
      exact ⟨_, by rw [hrest, hnext]; rfl, .true _⟩
    · rename_i rest hrest
      obtain ⟨hword, rfl⟩ := leaf_standing h
      have hnext := word_spelled hword
      rw [Cursor.rest_next hrest] at hnext
      exact ⟨_, by rw [hrest, hnext]; rfl, .false _⟩
    · rename_i rest hrest
      exact readString_standing hrest h
    · rename_i rest hrest
      obtain ⟨blank, hblank, hnext, -⟩ := c.next.blank_of_skipBlank
      rw [Cursor.rest_next hrest] at hnext
      rcases hitems : readItems (Tree.read fuel) (fuel + 1) true c.next.skipBlank with
        ⟨items, ending, last⟩
      rw [hitems] at h
      cases h
      obtain ⟨text, stop, rfl, htext, ⟨rfl, rfl⟩ | hstand⟩ :=
        readItems_first_standing ih (fuel + 1) hitems
      · exact ⟨_, by simp [hrest, hnext, htext], .emptyArray hblank _ _⟩
      · exact ⟨_, by simp [hrest, hnext, htext], .array (hstand.blank_append hblank) _ _⟩
    · rename_i rest hrest
      obtain ⟨blank, hblank, hnext, -⟩ := c.next.blank_of_skipBlank
      rw [Cursor.rest_next hrest] at hnext
      rcases hmembers : readMembers (Tree.read fuel) (fuel + 1) true c.next.skipBlank with
        ⟨members, ending, last⟩
      rw [hmembers] at h
      cases h
      obtain ⟨text, stop, rfl, htext, ⟨rfl, rfl⟩ | hstand⟩ :=
        readMembers_first_standing ih (fuel + 1) hmembers
      · exact ⟨_, by simp [hrest, hnext, htext], .emptyObject hblank _ _⟩
      · exact ⟨_, by simp [hrest, hnext, htext], .object (hstand.blank_append hblank) _ _⟩
    · split at h
      · exact readNumber_standing h
      · cases h

/-! ### What is broken off -/

/-- A reader that leaves nothing behind of a text only where it has met a mistake. -/
def Breaks (read : Cursor → Tree × Option Cursor) : Prop :=
  ∀ {c : Cursor} {t : Tree}, read c = (t, none) → t.skipFault? ≠ none

theorem itemsFault?_cons {t : Tree} {ending : Ending} {items : List (Nat × Tree × Nat)}
    (h : t.skipFault? ≠ none ∨ itemsFault? ending items ≠ none) (start next : Nat) :
    itemsFault? ending ((start, t, next) :: items) ≠ none := by
  rw [itemsFault?]
  split
  · exact Option.some_ne_none _
  · rename_i hnone
    exact h.resolve_left fun hsome => hsome hnone

theorem membersFault?_cons {t : Tree} {ending : Ending} {members : List (Name × Tree × Nat)}
    (h : t.skipFault? ≠ none ∨ membersFault? ending members ≠ none) (name : Name) (next : Nat) :
    membersFault? ending ((name, t, next) :: members) ≠ none := by
  rw [membersFault?]
  split
  · exact Option.some_ne_none _
  · rename_i hnone
    exact h.resolve_left fun hsome => hsome hnone

/-- Items that are read with nothing left behind have met a mistake. -/
def ItemsBreak (read : Cursor → List (Nat × Tree × Nat) × Ending × Option Cursor) : Prop :=
  ∀ {c : Cursor} {items : List (Nat × Tree × Nat)} {ending : Ending},
    read c = (items, ending, none) → itemsFault? ending items ≠ none

theorem item_broken (hread : Breaks read) {fuel : Nat}
    (hfurther : ItemsBreak (readItems read fuel false)) :
    ItemsBreak (readItems.item read fuel) := by
  intro c items ending h
  rw [readItems.item] at h
  split at h
  · rename_i t hr
    cases h
    exact itemsFault?_cons (.inl (hread hr)) _ _
  · rename_i t behind hr
    dsimp only at h
    rcases hnext : readItems read fuel false behind.skipBlank with ⟨items, ending, last⟩
    rw [hnext] at h
    cases h
    exact itemsFault?_cons (.inr (hfurther hnext)) _ _

theorem readItems_broken (hread : Breaks read) (fuel : Nat) (first : Bool) :
    ItemsBreak (readItems read fuel first) := by
  induction fuel generalizing first with
  | zero =>
    intro c items ending h
    rw [readItems] at h
    cases h
    exact Option.some_ne_none _
  | succ fuel ih =>
    intro c items ending h
    rw [readItems] at h
    split at h
    · cases h
      exact Option.some_ne_none _
    · cases h
    · split at h
      · exact item_broken hread (ih false) h
      · split at h
        · dsimp only at h
          split at h
          · cases h
            exact Option.some_ne_none _
          · cases h
            exact Option.some_ne_none _
          · exact item_broken hread (ih false) h
        · cases h
          exact Option.some_ne_none _

def MembersBreak (read : Cursor → List (Name × Tree × Nat) × Ending × Option Cursor) : Prop :=
  ∀ {c : Cursor} {members : List (Name × Tree × Nat)} {ending : Ending},
    read c = (members, ending, none) → membersFault? ending members ≠ none

theorem member_broken (hread : Breaks read) {fuel : Nat}
    (hothers : MembersBreak (readMembers read fuel false)) :
    MembersBreak (readMembers.member read fuel) := by
  intro c members ending h
  rw [readMembers.member] at h
  split at h
  · split at h
    · rename_i name stop behind hname
      dsimp only at h
      split at h
      · split at h
        · rename_i t hr
          cases h
          exact membersFault?_cons (.inl (hread hr)) _ _
        · rename_i t behindValue hr
          rcases hnext : readMembers read fuel false behindValue.skipBlank with
            ⟨members, ending, last⟩
          rw [hnext] at h
          cases h
          exact membersFault?_cons (.inr (hothers hnext)) _ _
      · cases h
        exact membersFault?_cons (.inl (by simp [skipFault?])) _ _
      · cases h
        exact membersFault?_cons (.inl (by simp [skipFault?])) _ _
    · split at h
      · cases h
        exact membersFault?_cons (.inl (by simp [skipFault?])) _ _
      · cases h
        exact Option.some_ne_none _
  · cases h
    exact Option.some_ne_none _

theorem readMembers_broken (hread : Breaks read) (fuel : Nat) (first : Bool) :
    MembersBreak (readMembers read fuel first) := by
  induction fuel generalizing first with
  | zero =>
    intro c members ending h
    rw [readMembers] at h
    cases h
    exact Option.some_ne_none _
  | succ fuel ih =>
    intro c members ending h
    rw [readMembers] at h
    split at h
    · cases h
      exact Option.some_ne_none _
    · cases h
    · split at h
      · exact member_broken hread (ih false) h
      · split at h
        · dsimp only at h
          split at h
          · cases h
            exact Option.some_ne_none _
          · cases h
            exact Option.some_ne_none _
          · exact member_broken hread (ih false) h
        · cases h
          exact Option.some_ne_none _

theorem leaf_broken {make : Nat → Tree} {word : Except Fault Cursor} {t : Tree}
    (h : leaf make word = (t, none)) : t.skipFault? ≠ none := by
  cases word with
  | error f =>
    cases h
    exact Option.some_ne_none _
  | ok after => cases h

theorem readString_broken : Breaks readString := by
  intro c t h
  rw [readString] at h
  split at h
  · cases h
  · cases h
    exact Option.some_ne_none _
  · cases h
    exact Option.some_ne_none _

theorem readNumber_broken : Breaks readNumber := by
  intro c t h
  rw [readNumber] at h
  split at h
  · cases h
  · cases h
    exact Option.some_ne_none _
  · cases h
    exact Option.some_ne_none _

theorem read_broken (fuel : Nat) : Breaks (Tree.read fuel) := by
  induction fuel with
  | zero =>
    intro c t h
    cases h
    exact Option.some_ne_none _
  | succ fuel ih =>
    intro c t h
    rw [Tree.read] at h
    split at h
    · cases h
      exact Option.some_ne_none _
    · exact leaf_broken h
    · exact leaf_broken h
    · exact leaf_broken h
    · exact readString_broken h
    · rcases hitems : readItems (Tree.read fuel) (fuel + 1) true c.next.skipBlank with
        ⟨items, ending, last⟩
      rw [hitems] at h
      cases h
      rw [skipFault?]
      exact readItems_broken ih _ _ hitems
    · rcases hmembers : readMembers (Tree.read fuel) (fuel + 1) true c.next.skipBlank with
        ⟨members, ending, last⟩
      rw [hmembers] at h
      cases h
      rw [skipFault?]
      exact readMembers_broken ih _ _ hmembers
    · split at h
      · exact readNumber_broken h
      · cases h
        exact Option.some_ne_none _

end Tree

/-! ### Whole texts -/

theorem Document.finish_eq_ok_iff {α : Type} {d : Document} {text : List Char}
    {read : Tree → Except Fault α} {a : α} :
    d.finish text read = .ok a ↔ read d.tree = .ok a ∧ d.extra = none := by
  rw [Document.finish]
  cases read d.tree with
  | error f => simp
  | ok b => cases d.extra <;> simp

theorem Document.ofText_of_stands {t : Tree} {core text : List Char} (h : t.Stands core)
    (hframe : Framed core text) :
    t.Alike (Document.ofText text).tree ∧ (Document.ofText text).extra = none := by
  obtain @⟨before, after, hbefore, hafter⟩ := hframe
  obtain ⟨start, hstart⟩ :=
    Cursor.skipBlank_append hbefore (h.starts.append after).noBlank 0
  have hends : Number.Ends after := by
    simpa using hafter.ends closes_nil.ends
  have hfuel : core.length ≤ (before ++ (core ++ after)).length + 1 := by
    simp only [List.length_append]
    omega
  obtain ⟨t', stop, hread, halike⟩ := Tree.read_stands h hfuel start hends
  obtain ⟨stop', hbehind⟩ := Cursor.skipBlank_append hafter closes_nil.noBlank stop
  rw [List.append_nil] at hbehind
  rw [Document.ofText, Cursor.start, hstart, hread]
  simp [hbehind, halike]

theorem Document.stands_of_ofText {text : List Char}
    (hsound : (Document.ofText text).tree.skipFault? = none)
    (hextra : (Document.ofText text).extra = none) :
    ∃ core, (Document.ofText text).tree.Stands core ∧ Framed core text := by
  rw [Document.ofText] at hsound hextra ⊢
  obtain ⟨before, hbefore, hstart, -⟩ := (Cursor.start text).blank_of_skipBlank
  cases hread : Tree.read (text.length + 1) (Cursor.start text).skipBlank with
  | mk t last =>
    rw [hread] at hsound hextra
    cases last with
    | none => exact absurd hsound (Tree.read_broken _ hread)
    | some behind =>
      obtain ⟨core, htext, hstands⟩ := Tree.read_standing _ hread
      obtain ⟨after, hafter, hbehind, -⟩ := behind.blank_of_skipBlank
      have hend : behind.skipBlank.rest = [] := by
        simpa using hextra
      rw [hend, List.append_nil] at hbehind
      rw [htext, hbehind] at hstart
      exact ⟨core, hstands, (show text = _ from hstart) ▸ .intro hbefore hafter⟩

theorem Document.ofText_of_spells {v : Value} {core text : List Char} (h : v.Spells core)
    (hframe : Framed core text) :
    (Document.ofText text).tree.Bears v ∧ (Document.ofText text).extra = none := by
  obtain ⟨t, hbears, hstands⟩ := h.stands
  obtain ⟨halike, hextra⟩ := Document.ofText_of_stands hstands hframe
  exact ⟨halike.bears hbears, hextra⟩

theorem Document.spells_of_ofText {v : Value} {text : List Char}
    (hbears : (Document.ofText text).tree.Bears v) (hextra : (Document.ofText text).extra = none) :
    ∃ core, v.Spells core ∧ Framed core text := by
  obtain ⟨core, hstands, hframe⟩ := Document.stands_of_ofText hbears.skipFault?_eq hextra
  exact ⟨core, hstands.spells hbears, hframe⟩

theorem Value.parse_eq_ok_iff {text : String} {v : Value} :
    Value.parse text = .ok v ↔ IsDocument text.toList v := by
  have hlimit : nestingLimit = nestingLimit - 1 + 1 := rfl
  rw [Value.parse, Document.finish_eq_ok_iff, hlimit, Value.ofTree_eq_ok_iff, IsDocument]
  constructor
  · rintro ⟨⟨hbears, hwithin⟩, hextra⟩
    exact ⟨Document.spells_of_ofText hbears hextra, hwithin⟩
  · rintro ⟨⟨core, hspells, hframe⟩, hwithin⟩
    obtain ⟨hbears, hextra⟩ := Document.ofText_of_spells hspells hframe
    exact ⟨⟨hbears, hwithin⟩, hextra⟩

end MangaReader.Json

import MangaReader.Json.Form
import MangaReader.Proofs.Json.Bears

/-!
# Where a tree stands

A text may be passed over though it has no value, since a number in it may be too large and a string
may escape what is no character. So a tree stands in more texts than those that spell a value, and
what it keeps of such a text, but for the offsets, does not depend on what is around it.

* `Tree.Stands` : a tree and the texts that it stands in, without blanks around them.
* `Tree.Alike` : trees that differ in their offsets only.
* `Tree.Alike.bears`, `Tree.Alike.skipFault?_eq` : what does not depend on offsets.
* `Tree.Stands.spells`, `Value.Spells.stands` : **a text spells a value if and only if a tree that
  bears it stands there**.
-/

namespace MangaReader.Json

namespace Tree

mutual

/-- The texts that a tree stands in, without blanks around them. -/
inductive Stands : Tree → List Char → Prop
  | null (stop : Nat) : Stands (.null stop) ['n', 'u', 'l', 'l']
  | true (stop : Nat) : Stands (.bool true stop) ['t', 'r', 'u', 'e']
  | false (stop : Nat) : Stands (.bool false stop) ['f', 'a', 'l', 's', 'e']
  | number {n : Numeral} {r : Except Fault Number} (hn : n.Sound) (hr : r.toOption = n.value?)
    (stop : Nat) : Stands (.number r stop) n.text
  | string {r : Except Fault String} {body : List Char} (hbody : Literal.Loose body)
    (hr : ∀ s, r.toOption = some s ↔ Literal.Spells s.toList body) (stop : Nat) :
    Stands (.string r stop) ('"' :: (body ++ ['"']))
  | emptyArray {blank : List Char} (h : Blank blank) (start stop : Nat) :
    Stands (.array start [] (.closed stop)) ('[' :: (blank ++ [']']))
  | array {items : List (Nat × Tree × Nat)} {text : List Char} (h : StandItems items text)
    (start stop : Nat) : Stands (.array start items (.closed stop)) ('[' :: (text ++ [']']))
  | emptyObject {blank : List Char} (h : Blank blank) (start stop : Nat) :
    Stands (.object start [] (.closed stop)) ('\x7b' :: (blank ++ ['\x7d']))
  | object {members : List (Name × Tree × Nat)} {text : List Char} (h : StandMembers members text)
    (start stop : Nat) :
    Stands (.object start members (.closed stop)) ('\x7b' :: (text ++ ['\x7d']))

/-- The texts that the items of an array stand in, of which there is at least one. -/
inductive StandItems : List (Nat × Tree × Nat) → List Char → Prop
  | last {t : Tree} {core text : List Char} (head : Stands t core) (hframe : Framed core text)
    (start next : Nat) : StandItems [(start, t, next)] text
  | cons {t : Tree} {items : List (Nat × Tree × Nat)} {core text more : List Char}
    (head : Stands t core) (hframe : Framed core text) (tail : StandItems items more)
    (start next : Nat) : StandItems ((start, t, next) :: items) (text ++ ',' :: more)

inductive StandMembers : List (Name × Tree × Nat) → List Char → Prop
  | last {m : Name × Tree × Nat} {text : List Char} (head : StandsMember m text) :
    StandMembers [m] text
  | cons {m : Name × Tree × Nat} {members : List (Name × Tree × Nat)} {text more : List Char}
    (head : StandsMember m text) (tail : StandMembers members more) :
    StandMembers (m :: members) (text ++ ',' :: more)

inductive StandsMember : Name × Tree × Nat → List Char → Prop
  | intro {r : Except Fault String} {t : Tree} {body left core right : List Char}
    (hbody : Literal.Loose body) (hr : ∀ s, r.toOption = some s ↔ Literal.Spells s.toList body)
    (hleft : Framed ('"' :: (body ++ ['"'])) left) (hvalue : Stands t core)
    (hright : Framed core right) (mark next : Nat) :
    StandsMember (⟨r, mark⟩, t, next) (left ++ ':' :: right)

end

mutual

/-- Trees that differ in their offsets only, and are not broken off. -/
inductive Alike : Tree → Tree → Prop
  | null (stop stop' : Nat) : Alike (.null stop) (.null stop')
  | bool (b : Bool) (stop stop' : Nat) : Alike (.bool b stop) (.bool b stop')
  | number {r r' : Except Fault Number} (h : r.toOption = r'.toOption) (stop stop' : Nat) :
    Alike (.number r stop) (.number r' stop')
  | string {r r' : Except Fault String} (h : r.toOption = r'.toOption) (stop stop' : Nat) :
    Alike (.string r stop) (.string r' stop')
  | array {items items' : List (Nat × Tree × Nat)} (h : AlikeItems items items')
    (start stop start' stop' : Nat) :
    Alike (.array start items (.closed stop)) (.array start' items' (.closed stop'))
  | object {members members' : List (Name × Tree × Nat)} (h : AlikeMembers members members')
    (start stop start' stop' : Nat) :
    Alike (.object start members (.closed stop)) (.object start' members' (.closed stop'))

inductive AlikeItems : List (Nat × Tree × Nat) → List (Nat × Tree × Nat) → Prop
  | nil : AlikeItems [] []
  | cons {t t' : Tree} {items items' : List (Nat × Tree × Nat)} (head : Alike t t')
    (tail : AlikeItems items items') (start next start' next' : Nat) :
    AlikeItems ((start, t, next) :: items) ((start', t', next') :: items')

inductive AlikeMembers : List (Name × Tree × Nat) → List (Name × Tree × Nat) → Prop
  | nil : AlikeMembers [] []
  | cons {r r' : Except Fault String} {t t' : Tree} {members members' : List (Name × Tree × Nat)}
    (hname : r.toOption = r'.toOption) (head : Alike t t') (tail : AlikeMembers members members')
    (mark next mark' next' : Nat) :
    AlikeMembers ((⟨r, mark⟩, t, next) :: members) ((⟨r', mark'⟩, t', next') :: members')

end

/-! ### What does not depend on offsets -/

mutual

theorem Alike.skipFault?_eq {t t' : Tree} (h : t.Alike t') :
    t.skipFault? = none ∧ t'.skipFault? = none := by
  cases h with
  | array h => exact h.itemsFault?_eq _ _
  | object h => exact h.membersFault?_eq _ _
  | _ => exact ⟨rfl, rfl⟩

theorem AlikeItems.itemsFault?_eq {items items' : List (Nat × Tree × Nat)}
    (h : AlikeItems items items') (stop stop' : Nat) :
    itemsFault? (.closed stop) items = none ∧ itemsFault? (.closed stop') items' = none := by
  cases h with
  | nil => exact ⟨rfl, rfl⟩
  | cons head tail =>
    obtain ⟨hhead, hhead'⟩ := head.skipFault?_eq
    obtain ⟨htail, htail'⟩ := tail.itemsFault?_eq stop stop'
    simp only [itemsFault?, hhead, hhead', htail, htail', and_self]

theorem AlikeMembers.membersFault?_eq {members members' : List (Name × Tree × Nat)}
    (h : AlikeMembers members members') (stop stop' : Nat) :
    membersFault? (.closed stop) members = none ∧
      membersFault? (.closed stop') members' = none := by
  cases h with
  | nil => exact ⟨rfl, rfl⟩
  | cons _ head tail =>
    obtain ⟨hhead, hhead'⟩ := head.skipFault?_eq
    obtain ⟨htail, htail'⟩ := tail.membersFault?_eq stop stop'
    simp only [membersFault?, hhead, hhead', htail, htail', and_self]

end

mutual

theorem Alike.bears {t t' : Tree} {v : Value} (h : t.Alike t') (hbears : t.Bears v) :
    t'.Bears v := by
  cases h with
  | null _ stop =>
    cases hbears
    exact .null stop
  | bool b _ stop =>
    cases hbears
    exact .bool b stop
  | number h _ stop =>
    cases hbears with
    | number n _ =>
      obtain rfl := toOption_eq_some_iff.mp h.symm
      exact .number n stop
  | string h _ stop =>
    cases hbears with
    | string s _ =>
      obtain rfl := toOption_eq_some_iff.mp h.symm
      exact .string s stop
  | array h _ _ start _ =>
    cases hbears with
    | array hitems _ _ => exact .array (h.bears hitems) rfl start
  | object h _ _ start _ =>
    cases hbears with
    | object hmembers _ _ => exact .object (h.bears hmembers) rfl start

theorem AlikeItems.bears {items items' : List (Nat × Tree × Nat)} {vs : List Value}
    (h : AlikeItems items items') (hbears : BearItems items vs) : BearItems items' vs := by
  cases h with
  | nil =>
    cases hbears
    exact .nil
  | cons head tail _ _ start next =>
    cases hbears with
    | cons head' tail' _ _ => exact .cons (head.bears head') (tail.bears tail') start next

theorem AlikeMembers.bears {members members' : List (Name × Tree × Nat)}
    {pairs : List (String × Value)} (h : AlikeMembers members members')
    (hbears : BearMembers members pairs) : BearMembers members' pairs := by
  cases h with
  | nil =>
    cases hbears
    exact .nil
  | cons hname head tail _ _ mark next =>
    cases hbears with
    | cons name head' tail' _ _ =>
      obtain rfl := toOption_eq_some_iff.mp hname.symm
      exact .cons name (head.bears head') (tail.bears tail') mark next

end

mutual

theorem Bears.skipFault?_eq {t : Tree} {v : Value} (h : t.Bears v) : t.skipFault? = none := by
  cases h with
  | @array items _ ending h hending => exact h.itemsFault?_eq hending
  | @object members _ ending h hending => exact h.membersFault?_eq hending
  | _ => rfl

theorem BearItems.itemsFault?_eq {items : List (Nat × Tree × Nat)} {vs : List Value}
    {ending : Ending} (h : BearItems items vs) (hending : ending.listBreak? = none) :
    itemsFault? ending items = none := by
  cases h with
  | nil => rw [itemsFault?, hending, Option.map_none]
  | cons head tail => simp only [itemsFault?, head.skipFault?_eq, tail.itemsFault?_eq hending]

theorem BearMembers.membersFault?_eq {members : List (Name × Tree × Nat)}
    {pairs : List (String × Value)} {ending : Ending} (h : BearMembers members pairs)
    (hending : ending.objectBreak? = none) : membersFault? ending members = none := by
  cases h with
  | nil => rw [membersFault?, hending, Option.map_none]
  | cons _ head tail => simp only [membersFault?, head.skipFault?_eq, tail.membersFault?_eq hending]

end

/-! ### First characters -/

variable {t : Tree} {text blank core : List Char}

theorem StandItems.blank_append {items : List (Nat × Tree × Nat)} (h : StandItems items text)
    (hblank : Blank blank) : StandItems items (blank ++ text) := by
  cases h with
  | last head hframe start next => exact .last head (hframe.blank_append hblank) start next
  | cons head hframe tail start next =>
    rw [← List.append_assoc]
    exact .cons head (hframe.blank_append hblank) tail start next

theorem StandsMember.blank_append {m : Name × Tree × Nat} (h : StandsMember m text)
    (hblank : Blank blank) : StandsMember m (blank ++ text) := by
  obtain ⟨hbody, hr, hleft, hvalue, hright, mark, next⟩ := h
  rw [← List.append_assoc]
  exact .intro hbody hr (hleft.blank_append hblank) hvalue hright mark next

theorem StandMembers.blank_append {members : List (Name × Tree × Nat)}
    (h : StandMembers members text) (hblank : Blank blank) :
    StandMembers members (blank ++ text) := by
  cases h with
  | last head => exact .last (head.blank_append hblank)
  | cons head tail =>
    rw [← List.append_assoc]
    exact .cons (head.blank_append hblank) tail

theorem Stands.starts (h : t.Stands core) : Starts core := by
  cases h with
  | number hn =>
    obtain ⟨c, rest, htext, rfl | hc⟩ := Numeral.text_eq_cons hn
    · exact ⟨_, rest, htext, by decide, by decide⟩
    · exact htext ▸ starts_of_isDigit hc rest
  | _ => exact ⟨_, _, rfl, by decide, by decide⟩

/-! ### Values -/

theorem Bears.of_array {start : Nat} {items : List (Nat × Tree × Nat)} {ending : Ending} {v : Value}
    (h : (Tree.array start items ending).Bears v) : ∃ vs, v = .array vs ∧ BearItems items vs := by
  cases h with
  | array hitems _ _ => exact ⟨_, rfl, hitems⟩

theorem Bears.of_object {start : Nat} {members : List (Name × Tree × Nat)} {ending : Ending}
    {v : Value} (h : (Tree.object start members ending).Bears v) :
    ∃ pairs, v = .object pairs ∧ BearMembers members pairs := by
  cases h with
  | object hmembers _ _ => exact ⟨_, rfl, hmembers⟩

theorem BearItems.of_cons {item : Nat × Tree × Nat} {items : List (Nat × Tree × Nat)}
    {vs : List Value} (h : BearItems (item :: items) vs) :
    ∃ v others, vs = v :: others ∧ item.2.1.Bears v ∧ BearItems items others := by
  cases h with
  | cons head tail _ _ => exact ⟨_, _, rfl, head, tail⟩

theorem BearMembers.of_cons {m : Name × Tree × Nat} {members : List (Name × Tree × Nat)}
    {pairs : List (String × Value)} (h : BearMembers (m :: members) pairs) :
    ∃ name v others, pairs = (name, v) :: others ∧ m.1.read = .ok name ∧ m.2.1.Bears v ∧
      BearMembers members others := by
  cases h with
  | cons name head tail _ _ => exact ⟨name, _, _, rfl, rfl, head, tail⟩

mutual

theorem Stands.spells {t : Tree} {core : List Char} {v : Value} (h : t.Stands core)
    (hbears : t.Bears v) : v.Spells core := by
  cases h with
  | null =>
    cases hbears
    exact .null
  | true =>
    cases hbears
    exact .true
  | false =>
    cases hbears
    exact .false
  | number hn hr =>
    cases hbears with
    | number m _ => exact .number hn hr.symm
  | string hbody hr =>
    cases hbears with
    | string s _ => exact .string ((hr s).mp rfl)
  | emptyArray hblank =>
    obtain ⟨vs, rfl, hitems⟩ := hbears.of_array
    cases hitems
    exact .emptyArray hblank
  | array h =>
    obtain ⟨vs, rfl, hitems⟩ := hbears.of_array
    exact .array (h.spells hitems)
  | emptyObject hblank =>
    obtain ⟨pairs, rfl, hmembers⟩ := hbears.of_object
    cases hmembers
    exact .emptyObject hblank
  | object h =>
    obtain ⟨pairs, rfl, hmembers⟩ := hbears.of_object
    exact .object (h.spells hmembers)

theorem StandItems.spells {items : List (Nat × Tree × Nat)} {text : List Char} {vs : List Value}
    (h : StandItems items text) (hbears : BearItems items vs) : Value.SpellsItems vs text := by
  cases h with
  | last head hframe =>
    obtain ⟨v, vs, rfl, hv, hvs⟩ := hbears.of_cons
    cases hvs
    exact .last (head.spells hv) hframe
  | cons head hframe tail =>
    obtain ⟨v, vs, rfl, hv, hvs⟩ := hbears.of_cons
    exact .cons (head.spells hv) hframe (tail.spells hvs)

theorem StandMembers.spells {members : List (Name × Tree × Nat)} {text : List Char}
    {pairs : List (String × Value)} (h : StandMembers members text)
    (hbears : BearMembers members pairs) : Value.SpellsMembers pairs text := by
  cases h with
  | last head =>
    obtain ⟨name, v, pairs, rfl, hname, hv, hpairs⟩ := hbears.of_cons
    cases hpairs
    exact .last (head.spells hname hv)
  | cons head tail =>
    obtain ⟨name, v, pairs, rfl, hname, hv, hpairs⟩ := hbears.of_cons
    exact .cons (head.spells hname hv) (tail.spells hpairs)

theorem StandsMember.spells {m : Name × Tree × Nat} {text : List Char} {name : String} {v : Value}
    (h : StandsMember m text) (hname : m.1.read = .ok name) (hbears : m.2.1.Bears v) :
    Value.SpellsMember (name, v) text := by
  cases h with
  | intro _ hr hleft hvalue hright =>
    exact .intro ((hr name).mp (toOption_eq_some_iff.mpr hname)) hleft (hvalue.spells hbears) hright

end

theorem toOption_eq_some_iff_spells {s : String} {body : List Char}
    (h : Literal.Spells s.toList body) (s' : String) :
    (.ok s : Except Fault String).toOption = some s' ↔ Literal.Spells s'.toList body := by
  obtain ⟨r, _, -, hr⟩ := readString_loose h.loose 0 []
  rw [← hr, (hr s).mpr h]
  rfl

end Tree

namespace Value

open MangaReader.Json.Tree

mutual

theorem Spells.stands {v : Value} {core : List Char} (h : v.Spells core) :
    ∃ t : Tree, t.Bears v ∧ t.Stands core := by
  cases h with
  | null => exact ⟨_, .null 0, .null 0⟩
  | true => exact ⟨_, .bool true 0, .true 0⟩
  | false => exact ⟨_, .bool false 0, .false 0⟩
  | @number n m hn hm => exact ⟨_, .number m 0, @Stands.number n (.ok m) hn hm.symm 0⟩
  | @string s body h =>
    exact ⟨_, .string s 0, .string h.loose (toOption_eq_some_iff_spells h) 0⟩
  | emptyArray hblank => exact ⟨_, .array .nil rfl 0, .emptyArray hblank 0 0⟩
  | array h =>
    obtain ⟨items, hbears, hstand⟩ := h.stand
    exact ⟨_, .array hbears rfl 0, .array hstand 0 0⟩
  | emptyObject hblank => exact ⟨_, .object .nil rfl 0, .emptyObject hblank 0 0⟩
  | object h =>
    obtain ⟨members, hbears, hstand⟩ := h.stand
    exact ⟨_, .object hbears rfl 0, .object hstand 0 0⟩

theorem SpellsItems.stand {vs : List Value} {text : List Char} (h : SpellsItems vs text) :
    ∃ items, BearItems items vs ∧ StandItems items text := by
  cases h with
  | last head hframe =>
    obtain ⟨t, hbears, hstands⟩ := head.stands
    exact ⟨_, .cons hbears .nil 0 0, .last hstands hframe 0 0⟩
  | cons head hframe tail =>
    obtain ⟨t, hbears, hstands⟩ := head.stands
    obtain ⟨items, hbears', hstand⟩ := tail.stand
    exact ⟨_, .cons hbears hbears' 0 0, .cons hstands hframe hstand 0 0⟩

theorem SpellsMembers.stand {pairs : List (String × Value)} {text : List Char}
    (h : SpellsMembers pairs text) :
    ∃ members, BearMembers members pairs ∧ StandMembers members text := by
  cases h with
  | last head =>
    obtain ⟨t, hbears, hstands⟩ := head.stands
    exact ⟨_, .cons _ hbears .nil 0 0, .last hstands⟩
  | cons head tail =>
    obtain ⟨t, hbears, hstands⟩ := head.stands
    obtain ⟨members, hbears', hstand⟩ := tail.stand
    exact ⟨_, .cons _ hbears hbears' 0 0, .cons hstands hstand⟩

theorem SpellsMember.stands {pair : String × Value} {text : List Char}
    (h : SpellsMember pair text) :
    ∃ t : Tree, t.Bears pair.2 ∧ StandsMember (⟨.ok pair.1, 0⟩, t, 0) text := by
  cases h with
  | intro hname hleft hvalue hright =>
    obtain ⟨t, hbears, hstands⟩ := hvalue.stands
    exact ⟨t, hbears,
      .intro hname.loose (toOption_eq_some_iff_spells hname) hleft hstands hright 0 0⟩

end

end Value

end MangaReader.Json

import MangaReader.Json.Value
import MangaReader.Proofs.Json.Literal
import MangaReader.Proofs.Json.Number

/-!
# JSON documents by their grammar

What a text says is defined here without a reader. Blanks may stand around every value and every
name. A value may be spelled in many ways, but what is spelled is one value: an object keeps all its
members in the order of the text.

* `Framed` : a text with blanks around it.
* `Value.Spells` : the texts that spell a value, without blanks around them.
* `Value.Within` : a value with at most so many open brackets at a time.
* `IsDocument` : the documents of a value.
* `Value.spells_natural_iff` : **a natural number is spelled in one way only**.
-/

namespace MangaReader.Json

/-! ### Blanks -/

def Blank (text : List Char) : Prop := ∀ c ∈ text, Cursor.isBlank c

inductive Framed (core : List Char) : List Char → Prop
  | intro {before after : List Char} (hbefore : Blank before) (hafter : Blank after) :
    Framed core (before ++ (core ++ after))

theorem Blank.append {front blank : List Char} (hfront : Blank front) (hblank : Blank blank) :
    Blank (front ++ blank) := List.forall_mem_append.mpr ⟨hfront, hblank⟩

theorem Framed.behind {core after : List Char} (hafter : Blank after) :
    Framed core (core ++ after) := @Framed.intro core [] after nofun hafter

theorem Framed.self (core : List Char) : Framed core core := by
  have hframe : Framed core (core ++ []) := .behind nofun
  rwa [List.append_nil] at hframe

theorem Framed.length_le {core text : List Char} (h : Framed core text) :
    core.length ≤ text.length := by
  obtain ⟨hbefore, hafter⟩ := h
  simp only [List.length_append]
  omega

theorem Framed.blank_append {core text blank : List Char} (h : Framed core text)
    (hblank : Blank blank) : Framed core (blank ++ text) := by
  obtain ⟨hbefore, hafter⟩ := h
  rw [← List.append_assoc]
  exact .intro (hblank.append hbefore) hafter

def NoBlank (rest : List Char) : Prop := ∀ c ∈ rest.head?, Cursor.isBlank c = false

namespace Cursor

theorem rest_next {c : Cursor} {ch : Char} {rest : List Char} (h : c.rest = ch :: rest) :
    c.next.rest = rest := by
  rw [next, h]

theorem skipBlank_of_noBlank {rest : List Char} (h : NoBlank rest) (offset : Nat) :
    (Cursor.mk rest offset).skipBlank = ⟨rest, offset⟩ := by
  cases rest with
  | nil => rfl
  | cons c rest => rw [skipBlank, skipBlank.go, if_neg (by simp [h c rfl])]

theorem skipBlank_append {blank rest : List Char} (hblank : Blank blank) (hrest : NoBlank rest)
    (offset : Nat) :
    ∃ start, (Cursor.mk (blank ++ rest) offset).skipBlank = ⟨rest, start⟩ := by
  induction blank generalizing offset with
  | nil => exact ⟨offset, skipBlank_of_noBlank hrest offset⟩
  | cons c blank ih =>
    obtain ⟨hc, hblank⟩ := List.forall_mem_cons.mp hblank
    obtain ⟨start, hstart⟩ := ih hblank (offset + 1)
    refine ⟨start, ?_⟩
    rw [List.cons_append, skipBlank, skipBlank.go, if_pos hc]
    exact hstart

theorem blank_of_skipBlank (c : Cursor) :
    ∃ blank, Blank blank ∧ c.rest = blank ++ c.skipBlank.rest ∧ NoBlank c.skipBlank.rest := by
  obtain ⟨rest, offset⟩ := c
  induction rest generalizing offset with
  | nil => exact ⟨[], nofun, rfl, nofun⟩
  | cons c rest ih =>
    rw [skipBlank, skipBlank.go]
    split
    · rename_i hc
      obtain ⟨blank, hblank, hrest, hstart⟩ := ih (offset + 1)
      exact ⟨c :: blank, List.forall_mem_cons.mpr ⟨hc, hblank⟩, congrArg (c :: ·) hrest, hstart⟩
    · rename_i hc
      refine ⟨[], nofun, rfl, ?_⟩
      rintro _ ⟨⟩
      simpa using hc

end Cursor

/-! ### Values -/

namespace Value

mutual

/-- The texts that spell a value, without blanks around them. -/
inductive Spells : Value → List Char → Prop
  | null : Spells .null ['n', 'u', 'l', 'l']
  | true : Spells (.bool true) ['t', 'r', 'u', 'e']
  | false : Spells (.bool false) ['f', 'a', 'l', 's', 'e']
  | number {n : Numeral} {m : Number} (hn : n.Sound) (hm : n.value? = some m) :
    Spells (.number m) n.text
  | string {s : String} {body : List Char} (h : Literal.Spells s.toList body) :
    Spells (.string s) ('"' :: (body ++ ['"']))
  | emptyArray {blank : List Char} (h : Blank blank) : Spells (.array []) ('[' :: (blank ++ [']']))
  | array {vs : List Value} {text : List Char} (h : SpellsItems vs text) :
    Spells (.array vs) ('[' :: (text ++ [']']))
  | emptyObject {blank : List Char} (h : Blank blank) :
    Spells (.object []) ('\x7b' :: (blank ++ ['\x7d']))
  | object {pairs : List (String × Value)} {text : List Char} (h : SpellsMembers pairs text) :
    Spells (.object pairs) ('\x7b' :: (text ++ ['\x7d']))

inductive SpellsItems : List Value → List Char → Prop
  | last {v : Value} {core text : List Char} (head : Spells v core) (hframe : Framed core text) :
    SpellsItems [v] text
  | cons {v : Value} {vs : List Value} {core text more : List Char} (head : Spells v core)
    (hframe : Framed core text) (tail : SpellsItems vs more) :
    SpellsItems (v :: vs) (text ++ ',' :: more)

inductive SpellsMembers : List (String × Value) → List Char → Prop
  | last {pair : String × Value} {text : List Char} (head : SpellsMember pair text) :
    SpellsMembers [pair] text
  | cons {pair : String × Value} {pairs : List (String × Value)} {text more : List Char}
    (head : SpellsMember pair text) (tail : SpellsMembers pairs more) :
    SpellsMembers (pair :: pairs) (text ++ ',' :: more)

inductive SpellsMember : String × Value → List Char → Prop
  | intro {name : String} {v : Value} {body left core right : List Char}
    (hname : Literal.Spells name.toList body) (hleft : Framed ('"' :: (body ++ ['"'])) left)
    (hvalue : Spells v core) (hright : Framed core right) :
    SpellsMember (name, v) (left ++ ':' :: right)

end

/-- A value with at most so many open brackets at a time. -/
inductive Within : Nat → Value → Prop
  | null (depth : Nat) : Within depth .null
  | bool (depth : Nat) (b : Bool) : Within depth (.bool b)
  | number (depth : Nat) (n : Number) : Within depth (.number n)
  | string (depth : Nat) (s : String) : Within depth (.string s)
  | array {depth : Nat} {items : List Value} (h : ∀ v ∈ items, Within depth v) :
    Within (depth + 1) (.array items)
  | object {depth : Nat} {members : List (String × Value)} (h : ∀ m ∈ members, Within depth m.2) :
    Within (depth + 1) (.object members)

end Value

/-- The documents of a value: it stands there alone, and its brackets are not nested too deeply. -/
def IsDocument (text : List Char) (v : Value) : Prop :=
  (∃ core, v.Spells core ∧ Framed core text) ∧ v.Within (nestingLimit - 1)

/-! ### First characters -/

/-- What the text of a value may start with: not a blank, and nothing that ends a list. -/
def Starts (text : List Char) : Prop :=
  ∃ c rest, text = c :: rest ∧ Cursor.isBlank c = false ∧ c ≠ ']'

theorem Starts.append {text : List Char} (h : Starts text) (more : List Char) :
    Starts (text ++ more) := by
  obtain ⟨c, rest, rfl, hc⟩ := h
  exact ⟨c, rest ++ more, rfl, hc⟩

theorem Starts.length_pos {text : List Char} (h : Starts text) : 0 < text.length := by
  obtain ⟨c, rest, rfl, -⟩ := h
  exact Nat.succ_pos rest.length

theorem Starts.noBlank {text : List Char} (h : Starts text) : NoBlank text := by
  obtain ⟨c, rest, rfl, hblank, -⟩ := h
  rintro _ ⟨⟩
  exact hblank

theorem starts_of_isDigit {c : Char} (hc : c.isDigit) (rest : List Char) : Starts (c :: rest) := by
  refine ⟨c, rest, rfl, ?_, ?_⟩
  · simp only [Cursor.isBlank, Bool.or_eq_false_iff, beq_eq_false_iff_ne]
    refine ⟨⟨⟨?_, ?_⟩, ?_⟩, ?_⟩ <;> rintro rfl <;> cases hc
  · rintro rfl
    cases hc

theorem Numeral.text_eq_cons {n : Numeral} (hn : n.Sound) :
    ∃ c rest, n.text = c :: rest ∧ (c = '-' ∨ c.isDigit) := by
  obtain ⟨d, digits, hwhole⟩ := List.exists_cons_of_ne_nil hn.whole.1
  have hd : d.isDigit := hn.whole.2 d (hwhole ▸ List.mem_cons_self)
  rw [text, hwhole]
  cases n.negative with
  | true => exact ⟨_, _, rfl, .inl rfl⟩
  | false => exact ⟨_, _, rfl, .inr hd⟩

/-! ### Natural numbers -/

namespace Value

/-- **A natural number is spelled in one way only**: as its decimals, if it fits 64 bits. -/
theorem spells_natural_iff {k : Nat} {core : List Char} :
    Spells (.number (.integer k)) core ↔ k < 2 ^ 64 ∧ core = Nat.toDigits 10 k := by
  have htext : Numeral.text { whole := Nat.toDigits 10 k } = Nat.toDigits 10 k := by
    simp [Numeral.text, Numeral.pointed, Numeral.raised, Decimal.sign]
  constructor
  · rintro (_ | _ | _ | ⟨hn, hm⟩)
    obtain ⟨hk, rfl⟩ := (Numeral.value?_eq_natural_iff hn k).mp hm
    exact ⟨hk, htext⟩
  · rintro ⟨hk, rfl⟩
    have hsound : Numeral.Sound { whole := Nat.toDigits 10 k } := Number.sound_numeral k
    rw [← htext]
    exact .number hsound ((Numeral.value?_eq_natural_iff hsound k).mpr ⟨hk, rfl⟩)

end Value

end MangaReader.Json

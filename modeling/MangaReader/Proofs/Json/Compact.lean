import MangaReader.Json.Print
import MangaReader.Proofs.Json.Accepted
import Mathlib.Tactic.Tauto

/-!
# Values are read as they are written

The compact text of a value is one of those that spell it, so that the value is read back, if its
brackets are not nested too deeply.

* `Value.Whole` : a value whose numbers are integers of 64 bits.
* `Value.spells_compactText` : the text of a written value spells it.
* `Value.parse_compact` : **a written value is read back**.
* `Value.le_of_mem_compactText` : the text of a written value is one line.
-/

namespace MangaReader.Json.Value

/-- A value all of whose numbers are integers of 64 bits. -/
inductive Whole : Value → Prop
  | null : Whole .null
  | bool (b : Bool) : Whole (.bool b)
  | number {n : Number} (hn : n.IsWord) : Whole (.number n)
  | string (s : String) : Whole (.string s)
  | array {items : List Value} (h : ∀ v ∈ items, Whole v) : Whole (.array items)
  | object {members : List (String × Value)} (h : ∀ m ∈ members, Whole m.2) :
    Whole (.object members)

/-! ### Spelling -/

theorem spellsItems_compact {v : Value} {vs : List Value}
    (h : ∀ w ∈ v :: vs, w.Spells w.compactText) :
    SpellsItems (v :: vs) (v.compactText ++ compactItems vs) := by
  induction vs generalizing v with
  | nil =>
    rw [compactItems, List.append_nil]
    exact .last (h v List.mem_cons_self) (.self _)
  | cons w vs ih =>
    obtain ⟨hv, hvs⟩ := List.forall_mem_cons.mp h
    exact .cons hv (.self _) (ih hvs)

theorem spellsMember_compact {pair : String × Value} (h : pair.2.Spells pair.2.compactText) :
    SpellsMember pair (Literal.write pair.1 ++ ':' :: pair.2.compactText) :=
  .intro (Literal.spells_write pair.1.toList) (.self _) h (.self _)

theorem spellsMembers_compact {pair : String × Value} {pairs : List (String × Value)}
    (h : ∀ p ∈ pair :: pairs, p.2.Spells p.2.compactText) :
    SpellsMembers (pair :: pairs)
      (Literal.write pair.1 ++ ':' :: pair.2.compactText ++ compactMembers pairs) := by
  induction pairs generalizing pair with
  | nil =>
    rw [compactMembers, List.append_nil]
    exact .last (spellsMember_compact (h pair List.mem_cons_self))
  | cons other pairs ih =>
    obtain ⟨hpair, hpairs⟩ := List.forall_mem_cons.mp h
    exact .cons (spellsMember_compact hpair) (ih hpairs)

theorem spells_compactText {v : Value} (hv : v.Whole) : v.Spells v.compactText := by
  induction hv with
  | null => exact .null
  | bool b =>
    cases b with
    | true => exact .true
    | false => exact .false
  | @number n hn =>
    cases n with
    | float x => exact hn.elim
    | integer n =>
      rw [compactText, ← Number.text_numeral]
      exact .number (Number.sound_numeral n) (Number.value?_numeral hn)
  | string s => exact .string (Literal.spells_write s.toList)
  | @array items hitems ih =>
    cases items with
    | nil => exact @Spells.emptyArray [] nofun
    | cons v vs => exact .array (spellsItems_compact ih)
  | @object pairs hpairs ih =>
    cases pairs with
    | nil => exact @Spells.emptyObject [] nofun
    | cons pair pairs => exact .object (spellsMembers_compact ih)

/-- **A written value is read back**, if its numbers are integers of 64 bits and its brackets are
not nested too deeply. -/
theorem parse_compact {v : Value} (hv : v.Whole) (hdepth : v.Within (nestingLimit - 1)) :
    parse v.compact = .ok v := by
  refine parse_eq_ok_iff.mpr ⟨⟨v.compactText, spells_compactText hv, ?_⟩, hdepth⟩
  rw [compact, String.toList_ofList]
  exact .self _

/-! ### Characters -/

theorem mem_compactItems {vs : List Value} {c : Char} (hc : c ∈ compactItems vs) :
    c = ',' ∨ ∃ v ∈ vs, c ∈ v.compactText := by
  induction vs with
  | nil => cases hc
  | cons v vs ih =>
    rw [compactItems, List.cons_append, List.mem_cons, List.mem_append] at hc
    rcases hc with rfl | hc | hc
    · exact .inl rfl
    · exact .inr ⟨v, List.mem_cons_self, hc⟩
    · rcases ih hc with rfl | ⟨w, hw, hc⟩
      · exact .inl rfl
      · exact .inr ⟨w, List.mem_cons_of_mem v hw, hc⟩

theorem mem_compactMembers {pairs : List (String × Value)} {c : Char}
    (hc : c ∈ compactMembers pairs) :
    c = ',' ∨ c = ':' ∨ ∃ pair ∈ pairs, c ∈ Literal.write pair.1 ∨ c ∈ pair.2.compactText := by
  induction pairs with
  | nil => cases hc
  | cons pair pairs ih =>
    obtain ⟨name, v⟩ := pair
    simp only [compactMembers, List.cons_append, List.append_assoc, List.mem_cons,
      List.mem_append] at hc
    rcases hc with rfl | hc | rfl | hc | hc
    · exact .inl rfl
    · exact .inr (.inr ⟨(name, v), List.mem_cons_self, .inl hc⟩)
    · exact .inr (.inl rfl)
    · exact .inr (.inr ⟨(name, v), List.mem_cons_self, .inr hc⟩)
    · rcases ih hc with rfl | rfl | ⟨pair, hpair, hc⟩
      · exact .inl rfl
      · exact .inr (.inl rfl)
      · exact .inr (.inr ⟨pair, List.mem_cons_of_mem _ hpair, hc⟩)

theorem le_of_mem_compactText {v : Value} (hv : v.Whole) {c : Char} (hc : c ∈ v.compactText) :
    0x20 ≤ c.toNat := by
  have hword : ∀ word : List Char, word.all (0x20 ≤ ·.toNat) = true → c ∈ word → 0x20 ≤ c.toNat :=
    fun word h hc => of_decide_eq_true (List.all_eq_true.mp h c hc)
  induction hv with
  | null => exact hword _ (by decide) hc
  | bool b =>
    cases b with
    | true => exact hword _ (by decide) hc
    | false => exact hword _ (by decide) hc
  | @number n hn =>
    rcases Number.mem_numberText hn hc with rfl | hdigit
    · decide
    · have hlow : 48 ≤ c.toNat := (Char.isDigit_iff_toNat.mp hdigit).1
      omega
  | string s => exact Literal.le_of_mem_write hc
  | @array items hitems ih =>
    have hmem : c = '[' ∨ c = ']' ∨ c ∈ compactItems items := by
      cases items with
      | nil => exact (List.mem_cons.mp hc).imp_right fun h => .inl (List.mem_singleton.mp h)
      | cons v rest =>
        simp only [compactText, compactItems, List.cons_append, List.mem_cons, List.mem_append,
          List.not_mem_nil, or_false] at hc ⊢
        tauto
    rcases hmem with rfl | rfl | hmem
    · decide
    · decide
    · rcases mem_compactItems hmem with rfl | ⟨v, hv, hc⟩
      · decide
      · exact ih v hv hc
  | @object pairs hpairs ih =>
    have hmem : c = '\x7b' ∨ c = '\x7d' ∨ c ∈ compactMembers pairs := by
      cases pairs with
      | nil => exact (List.mem_cons.mp hc).imp_right fun h => .inl (List.mem_singleton.mp h)
      | cons pair rest =>
        simp only [compactText, compactMembers, List.cons_append, List.mem_cons, List.mem_append,
          List.not_mem_nil, or_false] at hc ⊢
        tauto
    rcases hmem with rfl | rfl | hmem
    · decide
    · decide
    · rcases mem_compactMembers hmem with rfl | rfl | ⟨pair, hpair, hc | hc⟩
      · decide
      · decide
      · exact Literal.le_of_mem_write hc
      · exact ih pair hpair hc

end MangaReader.Json.Value

import MangaReader.Json.Tree
import MangaReader.Proofs.Except
import Mathlib.Tactic.SplitIfs

/-!
# String literals by their grammar

Between its quotes a literal spells a text: every character as it is, by a letter after a backslash,
by its number or, above the basic characters, by a pair of surrogates. A text is written in one of
these ways.

* `Literal.Spells` : the ways to spell a text.
* `Literal.Loose` : what passers-by take for a literal.
* `Literal.Loose.skipFrom`, `Literal.loose_of_skipFrom` : **passers-by accept what is loosely so**.
* `Literal.Spells.readFrom`, `Literal.spells_of_readFrom` : **readers accept what is spelled**.
* `Literal.Writes`, `Literal.spells_write` : a written text is spelled.
* `Literal.le_of_mem_write` : a written literal holds no control character, and so no end of a line.
* `Tree.readString_loose`, `Tree.loose_of_readString` : the tree of a literal.
-/

namespace MangaReader.Json

namespace Literal

/-- How a character is written: by a letter after a backslash, by its number, or as it is. -/
inductive Writes (c : Char) : List Char → Prop
  | letter {e : Char} (he : e ≠ 'u') (hprintable : 0x20 ≤ e.toNat) (hc : simple? e = some c) :
    Writes c ['\\', e]
  | number (hc : c.toNat < 0x20) :
    Writes c ['\\', 'u', '0', '0', hexChar (c.toNat / 16), hexChar (c.toNat % 16)]
  | plain (hc : 0x20 ≤ c.toNat) (hquote : c ≠ '"') (hslash : c ≠ '\\') : Writes c [c]

theorem writes_writeChar (c : Char) : Writes c (writeChar c) := by
  unfold writeChar
  split
  case h_8 hquote hslash _ _ _ _ _ =>
    split_ifs with hc
    · exact .number hc
    · exact .plain (Nat.not_lt.mp hc) hquote hslash
  all_goals exact .letter (by decide) (by decide) rfl

theorem hex4?_hexChar :
    ∀ n < 0x20, hex4? '0' '0' (hexChar (n / 16)) (hexChar (n % 16)) = some n := by
  decide

theorem le_hexChar :
    ∀ n < 0x20, 0x20 ≤ (hexChar (n / 16)).toNat ∧ 0x20 ≤ (hexChar (n % 16)).toNat := by
  decide

/-! ### Reading -/

/-- The texts between quotes that spell a text: its characters as they are, or escaped. -/
inductive Spells : List Char → List Char → Prop
  | nil : Spells [] []
  | plain {c : Char} {text body : List Char} (hc : 0x20 ≤ c.toNat) (hquote : c ≠ '"')
    (hslash : c ≠ '\\') (tail : Spells text body) : Spells (c :: text) (c :: body)
  | letter {e c : Char} {text body : List Char} (hc : simple? e = some c)
    (tail : Spells text body) : Spells (c :: text) ('\\' :: e :: body)
  /-- A character by its number, which is not one of a surrogate. -/
  | number {h₁ h₂ h₃ h₄ : Char} {n : Nat} {text body : List Char}
    (hn : hex4? h₁ h₂ h₃ h₄ = some n) (hchar : n < 0xD800 ∨ 0xE000 ≤ n)
    (tail : Spells text body) :
    Spells (Char.ofNat n :: text) ('\\' :: 'u' :: h₁ :: h₂ :: h₃ :: h₄ :: body)
  /-- A character above the basic ones by a pair of surrogates. -/
  | pair {h₁ h₂ h₃ h₄ l₁ l₂ l₃ l₄ : Char} {n m : Nat} {text body : List Char}
    (hn : hex4? h₁ h₂ h₃ h₄ = some n) (hhigh : 0xD800 ≤ n ∧ n < 0xDC00)
    (hm : hex4? l₁ l₂ l₃ l₄ = some m) (hlow : 0xDC00 ≤ m ∧ m < 0xE000)
    (tail : Spells text body) :
    Spells (Char.ofNat (0x10000 + (n - 0xD800) * 0x400 + (m - 0xDC00)) :: text)
      ('\\' :: 'u' :: h₁ :: h₂ :: h₃ :: h₄ :: '\\' :: 'u' :: l₁ :: l₂ :: l₃ :: l₄ :: body)

/-- The texts between quotes that are passed over: they may escape what is no character. -/
inductive Loose : List Char → Prop
  | nil : Loose []
  | plain {c : Char} {body : List Char} (hc : 0x20 ≤ c.toNat) (hquote : c ≠ '"')
    (hslash : c ≠ '\\') (tail : Loose body) : Loose (c :: body)
  | letter {e c : Char} {body : List Char} (hc : simple? e = some c) (tail : Loose body) :
    Loose ('\\' :: e :: body)
  | number {h₁ h₂ h₃ h₄ : Char} {n : Nat} {body : List Char} (hn : hex4? h₁ h₂ h₃ h₄ = some n)
    (tail : Loose body) : Loose ('\\' :: 'u' :: h₁ :: h₂ :: h₃ :: h₄ :: body)

theorem Spells.loose {text body : List Char} (h : Spells text body) : Loose body := by
  induction h with
  | nil => exact .nil
  | plain hc hquote hslash _ ih => exact .plain hc hquote hslash ih
  | letter hc _ ih => exact .letter hc ih
  | number hn _ _ ih => exact .number hn ih
  | pair hn _ hm _ _ ih => exact .number hn (.number hm ih)

theorem Loose.skipFrom {body : List Char} (h : Loose body) (offset : Nat) (rest : List Char) :
    ∃ stop, skipFrom offset (body ++ '"' :: rest) = .ok ⟨rest, stop⟩ := by
  induction h generalizing offset with
  | nil => exact ⟨offset + 1, by simp [Literal.skipFrom]⟩
  | @plain c body hc hquote hslash tail ih =>
    obtain ⟨stop, hskip⟩ := ih (offset + c.utf8Size)
    refine ⟨stop, ?_⟩
    rw [List.cons_append, skipFrom.eq_7 _ _ _ hquote (fun h _ => hslash h)
      (fun _ _ _ _ _ h _ => hslash h) (fun _ h _ => hslash h) (fun _ _ h _ => hslash h),
      if_neg (Nat.not_lt.mpr hc), hskip]
  | @letter e c body hc tail ih =>
    obtain ⟨stop, hskip⟩ := ih (offset + 2)
    have he : e ≠ 'u' := by
      rintro rfl
      cases hc
    exact ⟨stop, by simp [Literal.skipFrom, he, hc, hskip]⟩
  | number hn tail ih =>
    obtain ⟨stop, hskip⟩ := ih (offset + 6)
    exact ⟨stop, by simp [Literal.skipFrom, hn, hskip]⟩

theorem loose_front {cs rest : List Char} (front : List Char)
    (hfront : ∀ {body}, Loose body → Loose (front ++ body))
    (h : ∃ body, cs = body ++ '"' :: rest ∧ Loose body) :
    ∃ body, front ++ cs = body ++ '"' :: rest ∧ Loose body := by
  obtain ⟨body, rfl, hloose⟩ := h
  exact ⟨front ++ body, by simp, hfront hloose⟩

theorem loose_of_skipFrom {offset : Nat} {cs : List Char} {after : Cursor}
    (h : skipFrom offset cs = .ok after) : ∃ body, cs = body ++ '"' :: after.rest ∧ Loose body := by
  fun_induction skipFrom offset cs with
  | case2 offset rest =>
    cases h
    exact ⟨[], rfl, .nil⟩
  | case5 offset h₁ h₂ h₃ h₄ rest n hn ih =>
    exact loose_front ['\\', 'u', h₁, h₂, h₃, h₄] (.number hn) (ih h)
  | case7 offset e rest _ _ c hc ih => exact loose_front ['\\', e] (.letter hc) (ih h)
  | case10 offset c rest hquote hend _ _ hescape hcontrol ih =>
    have hslash : c ≠ '\\' := by
      rintro rfl
      cases rest with
      | nil => exact hend rfl rfl
      | cons e rest => exact hescape e rest rfl rfl
    exact loose_front [c] (.plain (Nat.not_lt.mp hcontrol) hquote hslash) (ih h)
  | _ => cases h

theorem Spells.readFrom {text body : List Char} (h : Spells text body) (offset : Nat)
    (rest : List Char) :
    ∃ stop, ∀ acc, readFrom acc offset (body ++ '"' :: rest) =
      .ok (acc.reverse ++ text, ⟨rest, stop⟩) := by
  induction h generalizing offset with
  | nil => exact ⟨offset + 1, fun acc => by simp [Literal.readFrom]⟩
  | @plain c text body hc hquote hslash tail ih =>
    obtain ⟨stop, hread⟩ := ih (offset + c.utf8Size)
    refine ⟨stop, fun acc => ?_⟩
    rw [List.cons_append, readFrom.eq_7 _ _ _ _ hquote (fun h _ => hslash h)
      (fun _ _ _ _ _ h _ => hslash h) (fun _ h _ => hslash h) (fun _ _ h _ => hslash h),
      if_neg (Nat.not_lt.mpr hc), hread]
    simp
  | @letter e c text body hc tail ih =>
    obtain ⟨stop, hread⟩ := ih (offset + 2)
    have he : e ≠ 'u' := by
      rintro rfl
      cases hc
    exact ⟨stop, fun acc => by simp [Literal.readFrom, he, hc, hread]⟩
  | number hn hchar tail ih =>
    obtain ⟨stop, hread⟩ := ih (offset + 6)
    exact ⟨stop, fun acc => by simp [Literal.readFrom, hn, hchar, hread]⟩
  | @pair h₁ h₂ h₃ h₄ l₁ l₂ l₃ l₄ n m text body hn hhigh hm hlow tail ih =>
    obtain ⟨stop, hread⟩ := ih (offset + 12)
    have hsurrogate : ¬ (n < 0xD800 ∨ 0xE000 ≤ n) := by omega
    have hfirst : ¬ 0xDC00 ≤ n := by omega
    exact ⟨stop, fun acc => by simp [Literal.readFrom, hn, hsurrogate, hfirst, hm, hlow, hread]⟩

theorem spells_front {acc cs text rest : List Char} {c : Char} (front : List Char)
    (hfront : ∀ {more body}, Spells more body → Spells (c :: more) (front ++ body))
    (h : ∃ more body, text = (c :: acc).reverse ++ more ∧ cs = body ++ '"' :: rest ∧
      Spells more body) :
    ∃ more body, text = acc.reverse ++ more ∧ front ++ cs = body ++ '"' :: rest ∧
      Spells more body := by
  obtain ⟨more, body, rfl, rfl, hspells⟩ := h
  exact ⟨c :: more, front ++ body, by simp, by simp, hfront hspells⟩

theorem spells_of_readFrom {acc : List Char} {offset : Nat} {cs text : List Char} {after : Cursor}
    (h : readFrom acc offset cs = .ok (text, after)) :
    ∃ more body, text = acc.reverse ++ more ∧ cs = body ++ '"' :: after.rest ∧
      Spells more body := by
  fun_induction readFrom acc offset cs with
  | case2 acc offset rest =>
    cases h
    exact ⟨[], [], (List.append_nil _).symm, rfl, .nil⟩
  | case5 acc offset h₁ h₂ h₃ h₄ rest n hn hchar ih =>
    exact spells_front ['\\', 'u', h₁, h₂, h₃, h₄] (.number hn hchar) (ih h)
  | case10 acc offset h₁ h₂ h₃ h₄ n hn hnot hfirst l₁ l₂ l₃ l₄ rest m hm hlow ih =>
    exact spells_front ['\\', 'u', h₁, h₂, h₃, h₄, '\\', 'u', l₁, l₂, l₃, l₄]
      (.pair hn ⟨by omega, by omega⟩ hm hlow) (ih h)
  | case16 acc offset e rest _ _ c hc ih => exact spells_front ['\\', e] (.letter hc) (ih h)
  | case19 acc offset c rest hquote hend _ _ hescape hcontrol ih =>
    have hslash : c ≠ '\\' := by
      rintro rfl
      cases rest with
      | nil => exact hend rfl rfl
      | cons e rest => exact hescape e rest rfl rfl
    exact spells_front [c] (.plain (Nat.not_lt.mp hcontrol) hquote hslash) (ih h)
  | _ => cases h

theorem spells_write (text : List Char) : Spells text (text.flatMap writeChar) := by
  induction text with
  | nil => exact .nil
  | cons c text ih =>
    have hwrites := writes_writeChar c
    rw [List.flatMap_cons]
    generalize writeChar c = written at hwrites ⊢
    cases hwrites with
    | letter _ _ hc => exact .letter hc ih
    | number hc =>
      have hspells := Spells.number (hex4?_hexChar c.toNat hc) (.inl (by omega)) ih
      rwa [Char.ofNat_toNat] at hspells
    | plain hc hquote hslash => exact .plain hc hquote hslash ih

/-! ### Writing -/

theorem le_of_mem_write {text : String} {c : Char} (h : c ∈ write text) : 0x20 ≤ c.toNat := by
  have hchar : ∀ d : Char, ∀ c ∈ writeChar d, 0x20 ≤ c.toNat := by
    intro d c hc
    have hwrites := writes_writeChar d
    generalize writeChar d = written at hc hwrites
    cases hwrites with
    | letter _ hprintable _ =>
      rcases List.mem_cons.mp hc with rfl | hc
      · decide
      · exact List.mem_singleton.mp hc ▸ hprintable
    | number hd =>
      obtain ⟨hhigh, hlow⟩ := le_hexChar d.toNat hd
      simp only [List.mem_cons, List.not_mem_nil, or_false] at hc
      rcases hc with rfl | rfl | rfl | rfl | rfl | rfl
      · decide
      · decide
      · decide
      · decide
      · exact hhigh
      · exact hlow
    | plain hd => exact List.mem_singleton.mp hc ▸ hd
  rw [write, List.cons_append, List.mem_cons, List.mem_append, List.mem_flatMap,
    List.mem_singleton] at h
  rcases h with rfl | ⟨d, -, hc⟩ | rfl
  · decide
  · exact hchar d c hc
  · decide

end Literal

namespace Tree

variable {body rest : List Char}

/-- **The tree of a literal**, whatever follows it: it has the text that is spelled, if one is. -/
theorem readString_loose (h : Literal.Loose body) (offset : Nat) (rest : List Char) :
    ∃ r stop, readString ⟨'"' :: (body ++ '"' :: rest), offset⟩ =
      (.string r stop, some ⟨rest, stop⟩) ∧
        ∀ s, r.toOption = some s ↔ Literal.Spells s.toList body := by
  obtain ⟨stop, hskip⟩ := h.skipFrom (offset + 1) rest
  have hnext : (Cursor.mk ('"' :: (body ++ '"' :: rest)) offset).next =
      ⟨body ++ '"' :: rest, offset + 1⟩ := rfl
  refine ⟨(Literal.read ⟨body ++ '"' :: rest, offset + 1⟩).map (·.1), stop,
    by rw [readString, hnext, Literal.skip, hskip], fun s => ?_⟩
  constructor
  · intro hs
    obtain ⟨⟨s', after⟩, hread, rfl⟩ := map_eq_ok (toOption_eq_some_iff.mp hs)
    obtain ⟨⟨text, after'⟩, hreadFrom, hpair⟩ := map_eq_ok hread
    obtain ⟨rfl, rfl⟩ := Prod.mk.inj hpair
    obtain ⟨more, body', rfl, hbody, hspells⟩ := Literal.spells_of_readFrom hreadFrom
    -- Passers-by stop behind the same quote.
    obtain ⟨stop', hskip'⟩ := hspells.loose.skipFrom (offset + 1) after'.rest
    rw [← hbody, hskip] at hskip'
    obtain ⟨hrest, -⟩ := Cursor.mk.inj (Except.ok.inj hskip')
    rw [hrest] at hbody
    obtain rfl := List.append_cancel_right hbody
    simpa using hspells
  · intro hspells
    obtain ⟨behind, hread⟩ := hspells.readFrom (offset + 1) rest
    simp [Literal.read, hread, Except.map, Except.toOption]

theorem loose_of_readString {c after : Cursor} {text : List Char} {t : Tree}
    (hquote : c.rest = '"' :: text) (h : readString c = (t, some after)) :
    ∃ r body, t = .string r after.offset ∧ text = body ++ '"' :: after.rest ∧
      Literal.Loose body ∧ ∀ s, r.toOption = some s ↔ Literal.Spells s.toList body := by
  have hnext : c.next.rest = text := by
    rw [Cursor.next, hquote]
  have hskip : Literal.skip c.next = .ok after := by
    rw [readString] at h
    split at h
    · rename_i hskip
      rw [hskip, Option.some.inj (Prod.mk.inj h).2]
    · cases h
    · cases h
  obtain ⟨body, htext, hloose⟩ := Literal.loose_of_skipFrom hskip
  rw [hnext] at htext
  obtain ⟨r, stop, hread, hr⟩ := readString_loose hloose c.offset after.rest
  have hc : c = ⟨'"' :: (body ++ '"' :: after.rest), c.offset⟩ := by
    rw [← htext, ← hquote]
  rw [hc, hread] at h
  obtain ⟨rfl, hafter⟩ := Prod.mk.inj h
  rw [← Option.some.inj hafter]
  exact ⟨r, body, rfl, htext, hloose, hr⟩

end Tree

end MangaReader.Json

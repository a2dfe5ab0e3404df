import MangaReader.Proofs.Text.Utf8
import MangaReader.Url.Form

/-!
# What is sent in a query is read from it

A name or a value may be any text. Once encoded it holds none of the marks between names and values,
and the characters that a blank and a byte are written with stand for nothing else.

* `Host.parts_append`, `Host.parts_intercalate` : a text and its parts between marks.
* `Percent.decode_bytes` : **encoded bytes are decoded**.
* `Form.unpart_part` : so is a name or a value.
* `Form.decode_encode` : **names and values are read as they were sent**.
-/

namespace MangaReader.Url

/-! ### Parts between marks -/

namespace Host

variable {mark : Char} {front rest : List Char}

theorem parts_of_not_mem (h : mark ∉ front) : parts mark front = [front] := by
  induction front with
  | nil => rfl
  | cons c front ih =>
    obtain ⟨hc, hfront⟩ : mark ≠ c ∧ mark ∉ front := by simpa using h
    simp only [parts, ih hfront, if_neg (Ne.symm hc)]

theorem exists_parts (mark : Char) (text : List Char) :
    ∃ first others, parts mark text = first :: others := by
  cases text with
  | nil => exact ⟨[], [], rfl⟩
  | cons c rest =>
    rw [parts]
    split
    · exact ⟨_, _, rfl⟩
    · split <;> exact ⟨_, _, rfl⟩

theorem parts_append (h : mark ∉ front) :
    parts mark (front ++ mark :: rest) = front :: parts mark rest := by
  induction front with
  | nil =>
    obtain ⟨first, others, hparts⟩ := exists_parts mark rest
    rw [List.nil_append, parts, hparts]
    simp
  | cons c front ih =>
    obtain ⟨hc, hfront⟩ : mark ≠ c ∧ mark ∉ front := by simpa using h
    rw [List.cons_append, parts, ih hfront]
    simp [Ne.symm hc]

theorem parts_intercalate {first : List Char} {others : List (List Char)}
    (h : ∀ part ∈ first :: others, mark ∉ part) :
    parts mark ([mark].intercalate (first :: others)) = first :: others := by
  induction others generalizing first with
  | nil => rw [List.intercalate_singleton, parts_of_not_mem (h first List.mem_cons_self)]
  | cons next others ih =>
    obtain ⟨hfirst, hothers⟩ := List.forall_mem_cons.mp h
    rw [List.intercalate_cons_cons, List.append_assoc, List.singleton_append, parts_append hfirst,
      ih hothers]

theorem mem_of_mem_parts {c : Char} {text part : List Char} (hpart : part ∈ parts mark text)
    (hc : c ∈ part) : c ∈ text ∧ c ≠ mark := by
  induction text generalizing part with
  | nil =>
    rw [parts, List.mem_singleton] at hpart
    subst hpart
    cases hc
  | cons d text ih =>
    obtain ⟨first, others, hparts⟩ := exists_parts mark text
    have hlater : ∀ {part}, part ∈ first :: others → c ∈ part → c ∈ d :: text ∧ c ≠ mark := by
      intro part hpart hc
      obtain ⟨hmem, hne⟩ := ih (hparts ▸ hpart) hc
      exact ⟨List.mem_cons_of_mem d hmem, hne⟩
    simp only [parts, hparts] at hpart
    split at hpart
    · rcases List.mem_cons.mp hpart with rfl | hpart
      · cases hc
      · exact hlater hpart hc
    · rename_i hd
      rcases List.mem_cons.mp hpart with rfl | hpart
      · rcases List.mem_cons.mp hc with rfl | hc
        · exact ⟨List.mem_cons_self, hd⟩
        · exact hlater List.mem_cons_self hc
      · exact hlater (List.mem_cons_of_mem first hpart) hc

end Host

/-! ### Bytes as a percent sign and two digits -/

namespace Percent

theorem value?_digit : ∀ n < 16, value? (digit n) = some n := by decide

theorem decode_byte (b : UInt8) (rest : List Char) :
    decode (byte b ++ rest) = b :: decode rest := by
  have hb : b.toNat < 256 := b.toNat_lt
  have hhigh : b.toNat / 16 < 16 := by omega
  have hlow : b.toNat % 16 < 16 := by omega
  have hbyte : (b.toNat / 16 * 16 + b.toNat % 16).toUInt8 = b := by
    rw [Nat.div_add_mod' b.toNat 16]
    exact UInt8.ofNat_toNat
  simp only [byte, List.cons_append, List.nil_append, decode, value?_digit _ hhigh,
    value?_digit _ hlow, hbyte]

theorem decode_bytes (bytes : List UInt8) (rest : List Char) :
    decode (bytes.flatMap byte ++ rest) = bytes ++ decode rest := by
  induction bytes with
  | nil => rfl
  | cons b bytes ih => rw [List.flatMap_cons, List.append_assoc, decode_byte, ih, List.cons_append]

theorem decode_cons {c : Char} (hc : c ≠ '%') (rest : List Char) :
    decode (c :: rest) = String.utf8EncodeChar c ++ decode rest := by
  rw [decode.eq_3]
  rintro _ _ _ rfl
  exact absurd rfl hc

end Percent

/-! ### Names and values -/

namespace Form

theorem kept_of_mem_part {text : String} {c : Char} (h : c ∈ part text) :
    isKept c ∨ c = '+' ∨ c = '%' := by
  have hdigit : ∀ n < 16, isKept (Percent.digit n) = true := by decide
  obtain ⟨d, -, hc⟩ := List.mem_flatMap.mp h
  rw [char] at hc
  split at hc
  · exact .inr (.inl (List.mem_singleton.mp hc))
  · rw [Percent.char] at hc
    split at hc
    · rename_i hkept
      rw [List.mem_singleton.mp hc]
      exact .inl hkept
    · obtain ⟨b, -, hb⟩ := List.mem_flatMap.mp hc
      have hlt := b.toNat_lt
      simp only [Percent.byte, List.mem_cons, List.not_mem_nil, or_false] at hb
      rcases hb with rfl | rfl | rfl
      · exact .inr (.inr rfl)
      · exact .inl (hdigit _ (by omega))
      · exact .inl (hdigit _ (by omega))

theorem not_mem_part {mark : Char} (hmark : mark = '&' ∨ mark = '=') (text : String) :
    mark ∉ part text := by
  intro h
  rcases hmark with rfl | rfl <;> exact absurd (kept_of_mem_part h) (by decide)

def blankFor (c : Char) : Char := if c = '+' then ' ' else c

theorem map_blankFor_byte (b : UInt8) : (Percent.byte b).map blankFor = Percent.byte b := by
  have hdigit : ∀ n < 16, blankFor (Percent.digit n) = Percent.digit n := by decide
  have hlt : b.toNat < 256 := b.toNat_lt
  have hhigh : b.toNat / 16 < 16 := by omega
  have hlow : b.toNat % 16 < 16 := by omega
  rw [Percent.byte, List.map_cons, List.map_cons, List.map_singleton, hdigit _ hhigh, hdigit _ hlow]
  rfl

theorem decode_char (c : Char) (rest : List Char) :
    Percent.decode ((char c).map blankFor ++ rest) =
      String.utf8EncodeChar c ++ Percent.decode rest := by
  rw [char]
  split
  · rename_i hc
    subst hc
    exact Percent.decode_cons (by decide) rest
  · rw [Percent.char]
    split
    · rename_i hkept
      have hplus : c ≠ '+' := by
        rintro rfl
        exact absurd hkept (by decide)
      have hpercent : c ≠ '%' := by
        rintro rfl
        exact absurd hkept (by decide)
      rw [List.map_singleton, blankFor, if_neg hplus]
      exact Percent.decode_cons hpercent rest
    · rw [List.map_flatMap, funext map_blankFor_byte, Percent.decode_bytes]

theorem unpart_part (text : String) : unpart (part text) = text := by
  have hbytes : ∀ chars : List Char,
      Percent.decode ((chars.flatMap char).map blankFor) = Utf8.encode chars := by
    intro chars
    induction chars with
    | nil => rfl
    | cons c chars ih =>
      rw [List.flatMap_cons, List.map_append, decode_char, ih]
      rfl
  show String.ofList (Utf8.decode (Percent.decode ((part text).map blankFor))) = text
  rw [part, hbytes, Utf8.decode_encode, String.ofList_toList]

theorem unpair_pair (p : String × String) : unpair (pair p) = p := by
  have hname : ∀ c ∈ part p.1, (c != '=') = true := by
    intro c hc
    have hne : c ≠ '=' := fun h => not_mem_part (.inr rfl) p.1 (h ▸ hc)
    simpa using hne
  rw [unpair, pair, List.takeWhile_append_of_pos hname, List.dropWhile_append_of_pos hname,
    List.takeWhile_cons_of_neg (by decide), List.dropWhile_cons_of_neg (by decide),
    List.append_nil, List.drop_one, List.tail_cons, unpart_part, unpart_part]

theorem decode_encode (pairs : List (String × String)) : decode (encode pairs) = pairs := by
  have hmark : ∀ text ∈ pairs.map pair, '&' ∉ text := by
    intro text htext hmem
    obtain ⟨p, -, rfl⟩ := List.mem_map.mp htext
    rw [pair, List.mem_append, List.mem_cons] at hmem
    rcases hmem with h | h | h
    · exact not_mem_part (.inl rfl) p.1 h
    · cases h
    · exact not_mem_part (.inl rfl) p.2 h
  have hpart : ∀ text ∈ pairs.map pair, (!text.isEmpty) = true := by
    intro text htext
    obtain ⟨p, -, rfl⟩ := List.mem_map.mp htext
    simp [pair]
  rw [decode, encode, String.toList_ofList]
  cases pairs with
  | nil => rfl
  | cons p pairs =>
    have hself : unpair ∘ pair = id := funext unpair_pair
    rw [List.map_cons] at hmark hpart ⊢
    rw [Host.parts_intercalate hmark, List.filter_eq_self.mpr hpart, ← List.map_cons, List.map_map,
      hself, List.map_id]

end Form

end MangaReader.Url

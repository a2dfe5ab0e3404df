import MangaReader.Text.Utf8
import Mathlib.Tactic.SplitIfs

/-!
# What lenient reading gives

* `Utf8.State.decode_ne_nil`, `Utf8.decode_eq_nil_iff` : no bytes go without a trace.
* `Utf8.decode_encode` : what is encoded is decoded.
* `Utf8.toArray_toList` : an array of bytes is made of its bytes.
-/

namespace MangaReader.Utf8

theorem first_snd_ne_between (b : UInt8) (h : (first b).1 = []) : (first b).2 ≠ .between := by
  revert h
  unfold first
  split_ifs <;> simp

theorem State.step_snd_ne_between (s : State) (b : UInt8) (h : (s.step b).1 = []) :
    (s.step b).2 ≠ .between := by
  cases s with
  | between => exact first_snd_ne_between b h
  | inside bits owed low high =>
    revert h
    rw [State.step]
    split_ifs <;> simp

theorem State.decode_ne_nil (s : State) (bytes : List UInt8) (h : s ≠ .between ∨ bytes ≠ []) :
    s.decode bytes ≠ [] := by
  induction bytes generalizing s with
  | nil =>
    cases s with
    | between => simp at h
    | inside => exact List.cons_ne_nil _ _
  | cons b bytes ih =>
    intro hnil
    rw [State.decode, List.append_eq_nil_iff] at hnil
    obtain ⟨hout, hrest⟩ := hnil
    exact ih _ (.inl (s.step_snd_ne_between b hout)) hrest

theorem decode_eq_nil_iff {bytes : List UInt8} : decode bytes = [] ↔ bytes = [] := by
  cases bytes with
  | nil => exact ⟨fun _ => rfl, fun _ => rfl⟩
  | cons b bytes =>
    have hdecode : decode (b :: bytes) ≠ [] :=
      State.decode_ne_nil .between _ (.inr (List.cons_ne_nil b bytes))
    exact ⟨fun h => absurd h hdecode, fun h => by cases h⟩

/-! ### What is encoded -/

theorem toNat_ofNat_of_lt {n : Nat} (h : n < 256) : (UInt8.ofNat n).toNat = n := by
  simp [Nat.mod_eq_of_lt h]

theorem first_ofNat {m : Nat} (hm : m < 256) :
    first (UInt8.ofNat m) =
      if m < 0x80 then ([Char.ofNat m], .between)
      else if 0xC2 ≤ m ∧ m ≤ 0xDF then ([], .inside (m % 32) 1 0x80 0xBF)
      else if m = 0xE0 then ([], .inside 0 2 0xA0 0xBF)
      else if m = 0xED then ([], .inside 13 2 0x80 0x9F)
      else if 0xE1 ≤ m ∧ m ≤ 0xEF then ([], .inside (m % 16) 2 0x80 0xBF)
      else if m = 0xF0 then ([], .inside 0 3 0x90 0xBF)
      else if 0xF1 ≤ m ∧ m ≤ 0xF3 then ([], .inside (m % 8) 3 0x80 0xBF)
      else if m = 0xF4 then ([], .inside 4 3 0x80 0x8F)
      else ([replacement], .between) := by
  simp only [first, UInt8.lt_iff_toNat_lt, UInt8.le_iff_toNat_le, ← UInt8.toNat_inj,
    toNat_ofNat_of_lt hm, UInt8.reduceToNat]

theorem first_two {n : Nat} (h : 0x80 ≤ n) (h' : n < 0x800) :
    first (UInt8.ofNat (n / 64 % 0x20 + 0xC0)) = ([], .inside (n / 64) 1 0x80 0xBF) := by
  have hbits : (n / 64 % 0x20 + 0xC0) % 32 = n / 64 := by omega
  rw [first_ofNat (by omega), if_neg (by omega), if_pos (by omega), hbits]

theorem first_three {n : Nat} (h : 0x800 ≤ n) (h' : n < 0x10000) (hn : n.isValidChar) :
    ∃ low high, first (UInt8.ofNat (n / 4096 % 0x10 + 0xE0)) = ([], .inside (n / 4096) 2 low high) ∧
      low.toNat ≤ n / 64 % 64 + 128 ∧ n / 64 % 64 + 128 ≤ high.toNat := by
  rw [Nat.isValidChar] at hn
  rw [first_ofNat (by omega), if_neg (by omega), if_neg (by omega)]
  have hbits : (n / 4096 % 0x10 + 0xE0) % 16 = n / 4096 := by omega
  by_cases h0 : n / 4096 = 0
  · rw [if_pos (by omega), h0]
    exact ⟨_, _, rfl, by simp; omega, by simp; omega⟩
  by_cases h13 : n / 4096 = 13
  · rw [if_neg (by omega), if_pos (by omega), h13]
    exact ⟨_, _, rfl, by simp, by simp; omega⟩
  · rw [if_neg (by omega), if_neg (by omega), if_pos (by omega), hbits]
    exact ⟨_, _, rfl, by simp, by simp; omega⟩

theorem first_four {n : Nat} (h : 0x10000 ≤ n) (hn : n.isValidChar) :
    ∃ low high, first (UInt8.ofNat (n / 262144 % 0x08 + 0xF0)) =
        ([], .inside (n / 262144) 3 low high) ∧
      low.toNat ≤ n / 4096 % 64 + 128 ∧ n / 4096 % 64 + 128 ≤ high.toNat := by
  rw [Nat.isValidChar] at hn
  rw [first_ofNat (by omega), if_neg (by omega), if_neg (by omega), if_neg (by omega),
    if_neg (by omega), if_neg (by omega)]
  have hbits : (n / 262144 % 0x08 + 0xF0) % 8 = n / 262144 := by omega
  by_cases h0 : n / 262144 = 0
  · rw [if_pos (by omega), h0]
    exact ⟨_, _, rfl, by simp; omega, by simp; omega⟩
  by_cases h4 : n / 262144 = 4
  · rw [if_neg (by omega), if_neg (by omega), if_pos (by omega), h4]
    exact ⟨_, _, rfl, by simp, by simp; omega⟩
  · rw [if_neg (by omega), if_pos (by omega), hbits]
    exact ⟨_, _, rfl, by simp, by simp; omega⟩

theorem State.decode_inside {bits owed m : Nat} {low high : UInt8} (rest : List UInt8)
    (hm : m < 256) (hlow : low.toNat ≤ m) (hhigh : m ≤ high.toNat) :
    (State.inside bits (owed + 2) low high).decode (UInt8.ofNat m :: rest) =
      (State.inside (bits * 64 + m % 64) (owed + 1) 0x80 0xBF).decode rest := by
  have hin : low ≤ UInt8.ofNat m ∧ UInt8.ofNat m ≤ high := by
    simp only [UInt8.le_iff_toNat_le, toNat_ofNat_of_lt hm]
    exact ⟨hlow, hhigh⟩
  have howed : ¬ owed + 2 ≤ 1 := by omega
  rw [State.decode.eq_3, State.step, if_pos hin, if_neg howed, toNat_ofNat_of_lt hm]
  rfl

theorem State.decode_inside_last {bits m : Nat} {low high : UInt8} (rest : List UInt8)
    (hm : m < 256) (hlow : low.toNat ≤ m) (hhigh : m ≤ high.toNat) :
    (State.inside bits 1 low high).decode (UInt8.ofNat m :: rest) =
      Char.ofNat (bits * 64 + m % 64) :: State.between.decode rest := by
  have hin : low ≤ UInt8.ofNat m ∧ UInt8.ofNat m ≤ high := by
    simp only [UInt8.le_iff_toNat_le, toNat_ofNat_of_lt hm]
    exact ⟨hlow, hhigh⟩
  rw [State.decode.eq_3, State.step, if_pos hin, if_pos (Nat.le_refl 1), toNat_ofNat_of_lt hm]
  rfl

theorem decode_utf8EncodeChar (c : Char) (rest : List UInt8) :
    State.between.decode (String.utf8EncodeChar c ++ rest) = c :: State.between.decode rest := by
  have hchar : Char.ofNat c.toNat = c := Char.ofNat_toNat c
  have hvalid : c.toNat.isValidChar := c.valid
  have hval : c.val.toNat = c.toNat := rfl
  unfold String.utf8EncodeChar
  simp only [hval]
  generalize c.toNat = n at hvalid hchar
  subst hchar
  have hlast : n % 64 + 128 < 256 := by omega
  split_ifs with h1 h2 h3
  · rw [List.singleton_append, State.decode.eq_3, State.step, first_ofNat (by omega),
      if_pos (by omega)]
    rfl
  · rw [List.cons_append, State.decode.eq_3, State.step, first_two (by omega) (by omega)]
    show (State.inside (n / 64) 1 0x80 0xBF).decode (UInt8.ofNat (n % 64 + 128) :: rest) = _
    rw [State.decode_inside_last _ hlast (by simp) (by simp; omega)]
    congr 2
    omega
  · obtain ⟨low, high, hfirst, hlow, hhigh⟩ := first_three (by omega) (by omega) hvalid
    rw [List.cons_append, State.decode.eq_3, State.step, hfirst]
    show (State.inside (n / 4096) 2 low high).decode
      (UInt8.ofNat (n / 64 % 64 + 128) :: UInt8.ofNat (n % 64 + 128) :: rest) = _
    rw [State.decode_inside _ (by omega) hlow hhigh,
      State.decode_inside_last _ hlast (by simp) (by simp; omega)]
    congr 2
    omega
  · obtain ⟨low, high, hfirst, hlow, hhigh⟩ := first_four (by omega) hvalid
    rw [List.cons_append, State.decode.eq_3, State.step, hfirst]
    show (State.inside (n / 262144) 3 low high).decode
      (UInt8.ofNat (n / 4096 % 64 + 128) :: UInt8.ofNat (n / 64 % 64 + 128) ::
        UInt8.ofNat (n % 64 + 128) :: rest) = _
    rw [State.decode_inside _ (by omega) hlow hhigh,
      State.decode_inside _ (by omega) (by simp) (by simp; omega),
      State.decode_inside_last _ hlast (by simp) (by simp; omega)]
    congr 2
    omega

theorem decode_encode (text : List Char) : decode (encode text) = text := by
  induction text with
  | nil => rfl
  | cons c text ih =>
    rw [decode, encode, List.flatMap_cons, decode_utf8EncodeChar]
    exact congrArg (c :: ·) ih

/-! ### Bytes and their arrays -/

theorem toList_loop (bytes : ByteArray) (i : Nat) (read : List UInt8) :
    ByteArray.toList.loop bytes i read = read.reverse ++ bytes.data.toList.drop i := by
  fun_induction ByteArray.toList.loop bytes i read with
  | case1 i read hi ih =>
    have hget : bytes.data.toList.drop i = bytes.get! i :: bytes.data.toList.drop (i + 1) := by
      rw [List.drop_eq_getElem_cons (by simpa using hi)]
      congr
      simp [ByteArray.get!, hi]
    rw [ih, hget]
    simp
  | case2 i read hi =>
    have hi : bytes.data.size ≤ i := Nat.not_lt.mp hi
    rw [List.drop_eq_nil_of_le (by simpa using hi), List.append_nil]

theorem toArray_toList (bytes : ByteArray) : (⟨bytes.toList.toArray⟩ : ByteArray) = bytes := by
  rw [ByteArray.toList, toList_loop]
  rfl

end MangaReader.Utf8

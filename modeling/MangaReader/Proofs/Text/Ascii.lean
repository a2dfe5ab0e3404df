import MangaReader.Proofs.Text.Utf8
import Mathlib.Algebra.Group.Nat.Defs

/-!
# ASCII bytes stand for themselves

No byte of ASCII is part of a longer character, and no byte beyond it decides a character of ASCII.
So a text is cut at an ASCII character where its bytes are cut at the byte of it, whatever the other
bytes are.

* `Utf8.IsWide` : a character beyond ASCII.
* `Utf8.State.Sound` : the states that the machine comes to; the bytes owed lead beyond ASCII.
* `Utf8.decode_append_ascii` : what is decoded around an ASCII byte.
* `Utf8.mem_decode_ascii`, `Utf8.getLast?_decode_ascii`, `Utf8.splitOn_decode` : an ASCII character
  of a text as a byte of it.
-/

namespace MangaReader.Utf8

def IsWide (c : Char) : Prop := 0x80 ≤ c.toNat

/-- Whether the bytes that a state owes lead to a character, and to none of ASCII. -/
def State.Sound : State → Prop
  | .between => True
  | .inside bits owed low high =>
    0 < owed ∧ 0x80 ≤ low ∧ high ≤ 0xBF ∧
      ∀ n, (bits * 64 + low.toNat % 64) * 64 ^ (owed - 1) ≤ n →
        n < (bits * 64 + high.toNat % 64 + 1) * 64 ^ (owed - 1) → 0x80 ≤ n ∧ n.isValidChar

/-- What is left of the character begun where the bytes end. -/
def State.flush : State → List Char
  | .between => []
  | .inside .. => [replacement]

/-- The characters that some bytes decide, and the state after them. -/
def State.run (s : State) : List UInt8 → List Char × State
  | [] => ([], s)
  | b :: rest => ((s.step b).1 ++ ((s.step b).2.run rest).1, ((s.step b).2.run rest).2)

variable {s : State} {b : UInt8}

theorem State.sound_between : State.between.Sound := trivial

/-! ### Some bytes and the rest -/

theorem State.decode_nil (s : State) : s.decode [] = s.flush := by
  cases s <;> rfl

theorem State.decode_cons (s : State) (b : UInt8) (rest : List UInt8) :
    s.decode (b :: rest) = (s.step b).1 ++ (s.step b).2.decode rest := by
  cases s <;> rfl

theorem State.decode_append (s : State) (bytes rest : List UInt8) :
    s.decode (bytes ++ rest) = (s.run bytes).1 ++ (s.run bytes).2.decode rest := by
  induction bytes generalizing s with
  | nil => rfl
  | cons b bytes ih => rw [List.cons_append, decode_cons, ih, run, List.append_assoc]

/-! ### Characters beyond ASCII -/

theorem isWide_replacement : IsWide replacement := by
  rw [IsWide]
  decide

theorem isWide_ofNat {n : Nat} (h : 0x80 ≤ n ∧ n.isValidChar) : IsWide (Char.ofNat n) := by
  rw [IsWide, Char.ofNat, dif_pos h.2]
  exact h.1

theorem not_isWide_ofNat (hb : b < 0x80) : ¬ IsWide (Char.ofNat b.toNat) := by
  have hlt : b.toNat < 0x80 := UInt8.lt_iff_toNat_lt.mp hb
  have hvalid : b.toNat.isValidChar := .inl (by omega)
  rw [IsWide, Char.ofNat, dif_pos hvalid]
  exact Nat.not_le.mpr hlt

theorem ofNat_inj {b b' : UInt8} (hb : b < 0x80) (hb' : b' < 0x80)
    (h : Char.ofNat b.toNat = Char.ofNat b'.toNat) : b = b' := by
  have hvalid : ∀ {b : UInt8}, b < 0x80 → b.toNat.isValidChar := fun hb =>
    .inl (Nat.lt_trans (UInt8.lt_iff_toNat_lt.mp hb) (by decide))
  rw [Char.ofNat, dif_pos (hvalid hb), Char.ofNat, dif_pos (hvalid hb')] at h
  exact UInt8.toNat_inj.mp (congrArg Char.toNat h)

/-! ### One byte -/

theorem first_of_lt (hb : b < 0x80) : first b = ([Char.ofNat b.toNat], .between) := by
  rw [first, if_pos hb]

theorem first_of_le (hb : 0x80 ≤ b) : (∀ c ∈ (first b).1, IsWide c) ∧ (first b).2.Sound := by
  unfold first
  simp only [UInt8.lt_iff_toNat_lt, UInt8.le_iff_toNat_le, ← UInt8.toNat_inj] at *
  split_ifs
  all_goals
    simp [State.Sound, UInt8.le_iff_toNat_le, IsWide, replacement, Nat.isValidChar] at *
  all_goals omega

theorem span_of_between (bits k : Nat) {n : Nat} {low high b : UInt8} (hlow : 0x80 ≤ low)
    (hhigh : high ≤ 0xBF) (hb : low ≤ b ∧ b ≤ high) (hn : (bits * 64 + b.toNat % 64) * 64 ^ k ≤ n)
    (hn' : n < (bits * 64 + b.toNat % 64 + 1) * 64 ^ k) :
    (bits * 64 + low.toNat % 64) * 64 ^ k ≤ n ∧ n < (bits * 64 + high.toNat % 64 + 1) * 64 ^ k := by
  simp only [UInt8.le_iff_toNat_le, UInt8.reduceToNat] at hlow hhigh hb
  constructor
  · exact Nat.le_trans (Nat.mul_le_mul_right _ (by omega)) hn
  · exact Nat.lt_of_lt_of_le hn' (Nat.mul_le_mul_right _ (by omega))

theorem State.Sound.step_of_lt (hs : s.Sound) (hb : b < 0x80) :
    s.step b = (s.flush ++ [Char.ofNat b.toNat], .between) := by
  cases s with
  | between => exact first_of_lt hb
  | inside bits owed low high =>
    obtain ⟨-, hlow, -⟩ := hs
    have hout : ¬ (low ≤ b ∧ b ≤ high) := fun h =>
      UInt8.not_lt.mpr (UInt8.le_trans hlow h.1) hb
    rw [State.step, if_neg hout, first_of_lt hb]
    rfl

theorem State.Sound.step_of_le (hs : s.Sound) (hb : 0x80 ≤ b) :
    (∀ c ∈ (s.step b).1, IsWide c) ∧ (s.step b).2.Sound := by
  cases s with
  | between => exact first_of_le hb
  | inside bits owed low high =>
    obtain ⟨howed, hlow, hhigh, hspan⟩ := hs
    by_cases hin : low ≤ b ∧ b ≤ high
    · obtain ⟨k, rfl⟩ : ∃ k, owed = k + 1 := ⟨owed - 1, by omega⟩
      rw [Nat.add_sub_cancel] at hspan
      rw [State.step, if_pos hin]
      cases k with
      | zero =>
        rw [if_pos (Nat.le_refl _)]
        refine ⟨fun c hc => ?_, trivial⟩
        obtain rfl := List.mem_singleton.mp hc
        obtain ⟨hge, hlt⟩ := span_of_between bits 0 hlow hhigh hin
          (Nat.le_of_eq (Nat.mul_one _)) (by omega)
        exact isWide_ofNat (hspan _ hge hlt)
      | succ k =>
        rw [if_neg (by omega)]
        refine ⟨fun c hc => absurd hc List.not_mem_nil, Nat.succ_pos k, by decide, by decide, ?_⟩
        intro n hn hn'
        simp only [UInt8.reduceToNat, Nat.add_one_sub_one, Nat.reduceMod, Nat.add_zero] at hn hn'
        -- one byte less is owed, and the bits read so far count 64 times as much
        have hlower : (bits * 64 + b.toNat % 64) * 64 ^ (k + 1) ≤ n := by
          rw [Nat.pow_succ', ← Nat.mul_assoc]
          exact hn
        have hupper : n < (bits * 64 + b.toNat % 64 + 1) * 64 ^ (k + 1) := by
          rw [Nat.pow_succ', ← Nat.mul_assoc, Nat.add_one_mul]
          exact hn'
        obtain ⟨hge, hlt⟩ := span_of_between bits (k + 1) hlow hhigh hin hlower hupper
        exact hspan n hge hlt
    · obtain ⟨hwide, hsound⟩ := first_of_le hb
      rw [State.step, if_neg hin]
      exact ⟨List.forall_mem_cons.mpr ⟨isWide_replacement, hwide⟩, hsound⟩

theorem State.Sound.step (hs : s.Sound) (b : UInt8) : (s.step b).2.Sound := by
  rcases UInt8.lt_or_le b 0x80 with hb | hb
  · rw [hs.step_of_lt hb]
    trivial
  · exact (hs.step_of_le hb).2

theorem State.Sound.run (hs : s.Sound) (bytes : List UInt8) : (s.run bytes).2.Sound := by
  induction bytes generalizing s with
  | nil => exact hs
  | cons b bytes ih => exact ih (hs.step b)

theorem State.isWide_flush : ∀ c ∈ s.flush, IsWide c := by
  intro c hc
  cases s with
  | between => cases hc
  | inside => exact List.mem_singleton.mp hc ▸ isWide_replacement

/-! ### An ASCII byte among others -/

/-- **What is decoded around an ASCII byte** is decoded of the bytes before it and of those after
it. -/
theorem decode_append_ascii (hb : b < 0x80) (bytes rest : List UInt8) :
    decode (bytes ++ b :: rest) = decode bytes ++ Char.ofNat b.toNat :: decode rest := by
  have hsound : (State.between.run bytes).2.Sound := State.sound_between.run bytes
  have hbytes :
      decode bytes = (State.between.run bytes).1 ++ (State.between.run bytes).2.flush := by
    rw [decode, ← List.append_nil bytes, State.decode_append, State.decode_nil, List.append_nil]
  rw [decode, State.decode_append, State.decode_cons, hsound.step_of_lt hb, hbytes, decode]
  simp only [List.append_assoc, List.singleton_append]

theorem State.Sound.mem_of_mem_decode (hs : s.Sound) (hb : b < 0x80) {bytes : List UInt8}
    (h : Char.ofNat b.toNat ∈ s.decode bytes) : b ∈ bytes := by
  induction bytes generalizing s with
  | nil =>
    rw [State.decode_nil] at h
    exact absurd (State.isWide_flush _ h) (not_isWide_ofNat hb)
  | cons b' bytes ih =>
    rw [State.decode_cons, List.mem_append] at h
    rcases h with h | h
    · rcases UInt8.lt_or_le b' 0x80 with hb' | hb'
      · rw [hs.step_of_lt hb', List.mem_append, List.mem_singleton] at h
        rcases h with h | h
        · exact absurd (State.isWide_flush _ h) (not_isWide_ofNat hb)
        · exact ofNat_inj hb hb' h ▸ List.mem_cons_self
      · exact absurd ((hs.step_of_le hb').1 _ h) (not_isWide_ofNat hb)
    · exact List.mem_cons_of_mem _ (ih (hs.step b') h)

theorem mem_decode_ascii (hb : b < 0x80) {bytes : List UInt8} :
    Char.ofNat b.toNat ∈ decode bytes ↔ b ∈ bytes := by
  constructor
  · exact State.sound_between.mem_of_mem_decode hb
  · intro h
    obtain ⟨front, rest, rfl⟩ := List.append_of_mem h
    rw [decode_append_ascii hb]
    simp

theorem getLast?_decode_ascii (hb : b < 0x80) {bytes : List UInt8} :
    (decode bytes).getLast? = some (Char.ofNat b.toNat) ↔ bytes.getLast? = some b := by
  rcases List.eq_nil_or_concat bytes with rfl | ⟨bytes, last, rfl⟩
  · simp [decode, State.decode_nil, State.flush]
  · rw [List.concat_eq_append, List.getLast?_concat, Option.some.injEq]
    rcases UInt8.lt_or_le last 0x80 with hlast | hlast
    · have hdecode : decode (bytes ++ [last]) = decode bytes ++ [Char.ofNat last.toNat] :=
        decode_append_ascii hlast bytes []
      rw [hdecode, List.getLast?_concat, Option.some.injEq]
      exact ⟨fun h => ofNat_inj hlast hb h, fun h => h ▸ rfl⟩
    · -- a last byte beyond ASCII decides the last character, which is beyond ASCII too
      have hsound : (State.between.run bytes).2.Sound := State.sound_between.run bytes
      have hnil : (State.between.run bytes).2.decode [last] ≠ [] :=
        State.decode_ne_nil _ _ (.inr (List.cons_ne_nil _ _))
      refine ⟨fun h => ?_, fun h => absurd hb (UInt8.not_lt.mpr (h ▸ hlast))⟩
      rw [decode, State.decode_append, List.getLast?_append, List.getLast?_eq_some_getLast hnil,
        Option.some_or, ← List.getLast?_eq_some_getLast hnil] at h
      have hmem := List.mem_of_getLast? h
      rw [State.decode_cons, State.decode_nil, List.mem_append] at hmem
      rcases hmem with hmem | hmem
      · exact absurd ((hsound.step_of_le hlast).1 _ hmem) (not_isWide_ofNat hb)
      · exact absurd (State.isWide_flush _ hmem) (not_isWide_ofNat hb)

/-- **A text is cut at an ASCII character where its bytes are cut** at the byte of it. -/
theorem splitOn_decode (hb : b < 0x80) (bytes : List UInt8) :
    (decode bytes).splitOn (Char.ofNat b.toNat) = (bytes.splitOn b).map decode := by
  by_cases h : b ∈ bytes
  · obtain ⟨front, rest, rfl⟩ := List.append_of_mem h
    rw [decode_append_ascii hb, List.splitOn_append_cons_self, List.splitOn_append_cons_self,
      List.map_append, splitOn_decode hb front, splitOn_decode hb rest]
  · have hc : Char.ofNat b.toNat ∉ decode bytes := fun hc => h ((mem_decode_ascii hb).mp hc)
    rw [List.splitOn_eq_singleton h, List.splitOn_eq_singleton hc, List.map_singleton]
termination_by bytes.length
decreasing_by
  · simp_all
  · simp_all
    omega

end MangaReader.Utf8

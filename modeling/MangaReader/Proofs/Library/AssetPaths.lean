import MangaReader.Library.AssetPaths
import Mathlib.Data.List.Infix

/-!
# The leftmost storage prefix is replaced

A part can occur in a text more than once, and its occurrences can overlap. The leftmost one is the
one with the shortest text before it.

* `Text.Leftmost` : a text taken apart at the leftmost occurrence of a part.
* `Text.splitAt?_eq_some_iff`, `Text.splitAt?_eq_none_iff` : **splitting finds that occurrence**,
  and fails only where there is none.
* `AssetPaths.leftmost_storage_is_replaced` : **where a stored file is served**.
-/

namespace MangaReader

namespace Text

variable {pattern text before after : List Char}

/-- A text taken apart at the leftmost occurrence of a part: no occurrence has a shorter text before
it. -/
structure Leftmost (pattern text before after : List Char) : Prop where
  eq : text = before ++ pattern ++ after
  least : ∀ {before' after'}, text = before' ++ pattern ++ after' →
    before.length ≤ before'.length

theorem dropPattern?_eq_some_iff :
    dropPattern? pattern text = some after ↔ text = pattern ++ after := by
  induction pattern generalizing text with
  | nil => simp [dropPattern?]
  | cons p ps ih =>
    cases text with
    | nil => simp [dropPattern?]
    | cons c cs =>
      rw [dropPattern?]
      split
      · rename_i hp
        rw [ih, hp, List.cons_append, List.cons.injEq]
        exact ⟨fun h => ⟨rfl, h⟩, And.right⟩
      · rename_i hp
        simp only [List.cons_append, List.cons.injEq, reduceCtorEq, false_iff, not_and]
        exact fun h => absurd h.symm hp

theorem Leftmost.unique {before' after' : List Char} (h : Leftmost pattern text before after)
    (h' : Leftmost pattern text before' after') : before = before' ∧ after = after' := by
  have hlength : before.length = before'.length := Nat.le_antisymm (h.least h'.eq) (h'.least h.eq)
  have hboth := h.eq.symm.trans h'.eq
  rw [List.append_assoc, List.append_assoc] at hboth
  obtain ⟨hbefore, hrest⟩ := List.append_inj hboth hlength
  exact ⟨hbefore, List.append_cancel_left hrest⟩

theorem leftmost_cons {c : Char} (hfront : dropPattern? pattern (c :: text) = none) :
    Leftmost pattern (c :: text) (c :: before) after ↔ Leftmost pattern text before after := by
  have hlater : ∀ {before' after'}, c :: text = before' ++ pattern ++ after' →
      ∃ more, before' = c :: more ∧ text = more ++ pattern ++ after' := by
    intro before' after' h
    cases before' with
    | nil => exact absurd (dropPattern?_eq_some_iff.mpr h) (by simp [hfront])
    | cons d more =>
      rw [List.cons_append, List.cons_append, List.cons.injEq] at h
      exact ⟨more, by rw [h.1], h.2⟩
  constructor
  · intro h
    obtain ⟨_, ⟨⟩, htext⟩ := hlater h.eq
    refine ⟨htext, fun {before' after'} h' => ?_⟩
    have hle := @h.least (c :: before') after' (by rw [h']; rfl)
    simpa using hle
  · intro h
    refine ⟨by rw [h.eq]; rfl, fun h' => ?_⟩
    obtain ⟨more, rfl, htext⟩ := hlater h'
    exact Nat.succ_le_succ (h.least htext)

theorem leftmost_of_splitAt? (h : splitAt? pattern text = some (before, after)) :
    Leftmost pattern text before after := by
  induction text generalizing before after with
  | nil =>
    rw [splitAt?] at h
    split at h
    · rename_i rest hrest
      cases h
      exact ⟨dropPattern?_eq_some_iff.mp hrest, fun _ => Nat.zero_le _⟩
    · cases h
  | cons c cs ih =>
    rw [splitAt?] at h
    split at h
    · rename_i rest hrest
      cases h
      exact ⟨dropPattern?_eq_some_iff.mp hrest, fun _ => Nat.zero_le _⟩
    · rename_i hfront
      obtain ⟨⟨before, after⟩, hsplit, ⟨⟩⟩ := Option.map_eq_some_iff.mp h
      exact (leftmost_cons hfront).mpr (ih hsplit)

theorem splitAt?_eq_none_iff : splitAt? pattern text = none ↔ ¬ pattern <:+: text := by
  constructor
  · rintro h ⟨before, after, htext⟩
    induction before generalizing text with
    | nil =>
      have hfront : dropPattern? pattern text = some after :=
        dropPattern?_eq_some_iff.mpr htext.symm
      rw [splitAt?.eq_def, hfront] at h
      cases h
    | cons c before ih =>
      rw [← htext, List.cons_append, List.cons_append, splitAt?] at h
      split at h
      · cases h
      · exact ih (Option.map_eq_none_iff.mp h) rfl
  · intro h
    cases hsplit : splitAt? pattern text with
    | none => rfl
    | some sides => exact absurd ⟨_, _, (leftmost_of_splitAt? hsplit).eq.symm⟩ h

theorem splitAt?_eq_some_iff :
    splitAt? pattern text = some (before, after) ↔ Leftmost pattern text before after := by
  refine ⟨leftmost_of_splitAt?, fun h => ?_⟩
  cases hsplit : splitAt? pattern text with
  | none => exact absurd ⟨before, after, h.eq.symm⟩ (splitAt?_eq_none_iff.mp hsplit)
  | some sides =>
    obtain ⟨hbefore, hafter⟩ := (leftmost_of_splitAt? hsplit).unique h
    rw [← hbefore, ← hafter]

end Text

namespace AssetPaths

open Text

/-- **Where a stored file is served.** A path in which the storage prefix does not occur is left as
it is, and so is every path if that prefix is empty. In all others the leftmost occurrence is
replaced, and what stands before and after it is kept. -/
theorem leftmost_storage_is_replaced (a : AssetPaths) (path : String) :
    (a.storage = "" → a.servedPath path = path) ∧
    (¬ a.storage.toList <:+: path.toList → a.servedPath path = path) ∧
    (a.storage ≠ "" → a.storage.toList <:+: path.toList →
      ∃ before after, Leftmost a.storage.toList path.toList before after ∧
        (a.servedPath path).toList = before ++ a.served.toList ++ after) := by
  refine ⟨fun hempty => ?_, fun hnone => ?_, fun hstorage hoccurs => ?_⟩
  · rw [servedPath, hempty]
    rfl
  · rw [servedPath, replaceFirst, splitAt?_eq_none_iff.mpr hnone, String.ofList_toList, ite_self]
  · cases hsplit : splitAt? a.storage.toList path.toList with
    | none => exact absurd hoccurs (splitAt?_eq_none_iff.mp hsplit)
    | some sides =>
      obtain ⟨before, after⟩ := sides
      refine ⟨before, after, splitAt?_eq_some_iff.mp hsplit, ?_⟩
      rw [servedPath, if_neg (by simpa using hstorage), String.toList_ofList, replaceFirst, hsplit]

/-- Occurrences that overlap, and a replacement in which the storage prefix occurs. -/
example : servedPath ⟨"/a/a", "/a/a/b"⟩ "x/a/a/a/a" = "x/a/a/b/a/a" := by decide

end AssetPaths

end MangaReader

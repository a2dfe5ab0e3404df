/-!
# Computations that may fail

* `map_eq_ok`, `map_eq_ok_iff`, `map_eq_error_iff` : a computation that goes on with its result.
* `toOption_eq_some_iff`, `toOption_map` : the result of one.
* `mapError_ok`, `mapError_error`, `mapError_eq_ok_iff` : one whose error is told in another way.
* `bind_eq_ok_iff` : a computation that goes on with another one.
-/

namespace MangaReader

variable {ε α β : Type} {x : Except ε α} {f : α → β} {b : β}

theorem map_eq_ok (h : x.map f = .ok b) : ∃ a, x = .ok a ∧ f a = b := by
  cases x with
  | error e => cases h
  | ok a => exact ⟨a, rfl, Except.ok.inj h⟩

theorem map_eq_ok_iff : x.map f = .ok b ↔ ∃ a, x = .ok a ∧ f a = b := by
  refine ⟨map_eq_ok, ?_⟩
  rintro ⟨a, rfl, rfl⟩
  rfl

theorem map_eq_error_iff {e : ε} : x.map f = .error e ↔ x = .error e := by
  cases x with
  | error e' => simp [Except.map]
  | ok a => simp [Except.map]

theorem toOption_eq_some_iff {a : α} : x.toOption = some a ↔ x = .ok a := by
  cases x with
  | error e => exact ⟨nofun, nofun⟩
  | ok a' => simp [Except.toOption]

theorem toOption_map : (x.map f).toOption = x.toOption.map f := by
  cases x <;> rfl

section

variable {ε' : Type} {g : ε → ε'} {a : α}

theorem mapError_ok : (.ok a : Except ε α).mapError g = .ok a := rfl

theorem mapError_error {e : ε} : (.error e : Except ε α).mapError g = .error (g e) := rfl

theorem mapError_eq_ok_iff : x.mapError g = .ok a ↔ x = .ok a := by
  cases x with
  | error e => exact ⟨nofun, nofun⟩
  | ok a' => rw [mapError_ok, Except.ok.injEq, Except.ok.injEq]

end

theorem bind_eq_ok_iff {g : α → Except ε β} : x.bind g = .ok b ↔ ∃ a, x = .ok a ∧ g a = .ok b := by
  cases x with
  | error e => exact ⟨nofun, fun ⟨_, h, _⟩ => nomatch h⟩
  | ok a => exact ⟨fun h => ⟨a, rfl, h⟩, fun ⟨_, h, hb⟩ => Except.ok.inj h ▸ hb⟩

end MangaReader

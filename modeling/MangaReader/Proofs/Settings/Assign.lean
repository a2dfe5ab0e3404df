import MangaReader.Proofs.Except
import MangaReader.Settings.Key

/-!
# Setting one key of one profile

* `Profile.without` : a profile up to the value of one key.
* `Profile.without_assign` : setting a key changes the value of that key only.
* `Settings.of_assign` : what is done where a key of one profile is set.
* `Settings.SameBut`, `Settings.sameBut_assign` : so it does in the settings, on one profile.
-/

namespace MangaReader

namespace Profile

/-- A profile with the value of one key as if it had never been set. -/
def without (p : Profile) : SettingKey → Profile
  | .server => { p with server := "" }
  | .site => { p with site := .manhuaren }
  | .publicPath => { p with publicPath := none }
  | .storagePath => { p with storagePath := none }
  | .cookie => { p with cookie := none }
  | .cookieVariable => { p with cookieVariable := none }
  | .caFile => { p with caFile := none }
  | .insecure => { p with insecure := none }
  | .recordHistory => { p with recordHistory := none }
  | .timeout => { p with timeout := none }
  | .streamTimeout => { p with streamTimeout := none }

theorem without_assign {p p' : Profile} {key : SettingKey} {value : String}
    (h : p.assign key value = .ok p') : p'.without key = p.without key := by
  cases key with
  | server | publicPath | storagePath | cookie | cookieVariable | caFile =>
    obtain rfl := Except.ok.inj h
    rfl
  | site | insecure | recordHistory | timeout | streamTimeout =>
    obtain ⟨a, -, rfl⟩ := map_eq_ok h
    rfl

theorem eq_of_checked {p p' : Profile} (h : p.checked = .ok p') : p' = p := by
  unfold checked at h
  split at h
  · exact (Except.ok.inj h).symm
  · obtain ⟨-, -, rfl⟩ := map_eq_ok h
    rfl

end Profile

namespace Settings

/-- Two settings that differ at most in the value of one key of one profile, which is blank in the
first ones if they do not have it and has the value that a text stands for in the second ones. -/
structure SameBut (name : String) (key : SettingKey) (value : String) (s s' : Settings) : Prop where
  defaultProfile : s'.defaultProfile = s.defaultProfile
  defaults : s'.defaults = s.defaults
  others : ∀ other, other ≠ name → s'.profiles.get? other = s.profiles.get? other
  changed : ∃ p, s'.profiles.get? name = some p ∧
    ((s.profiles.get? name).getD {}).assign key value = .ok p ∧
    p.without key = ((s.profiles.get? name).getD {}).without key

theorem of_assign {s s' : Settings} {name value : String} {key : SettingKey}
    (h : s.assign name key value = .ok s') :
    ∃ p, ((s.profiles.get? name).getD {}).assign key value = .ok p ∧ p.checked = .ok p ∧
      s' = { s with profiles := s.profiles.insert name p } := by
  unfold assign at h
  cases hassign : ((s.profiles.get? name).getD {}).assign key value with
  | error e =>
    rw [hassign] at h
    cases h
  | ok p =>
    cases hchecked : p.checked with
    | error e =>
      simp only [hassign, Bind.bind, Except.bind, hchecked] at h
      cases h
    | ok p' =>
      obtain rfl := Profile.eq_of_checked hchecked
      simp only [hassign, Bind.bind, Except.bind, hchecked] at h
      exact ⟨p', rfl, hchecked, (Except.ok.inj h).symm⟩

theorem sameBut_assign {s s' : Settings} {name value : String} {key : SettingKey}
    (h : s.assign name key value = .ok s') : SameBut name key value s s' := by
  obtain ⟨p, hassign, -, rfl⟩ := of_assign h
  exact
    { defaultProfile := rfl
      defaults := rfl
      others := fun other hne => Named.get?_insert_of_ne _ _ hne
      changed := ⟨p, Named.get?_insert_self _ _ _, hassign, Profile.without_assign hassign⟩ }

end Settings

end MangaReader

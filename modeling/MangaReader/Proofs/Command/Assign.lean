import MangaReader.Proofs.Command.Action
import MangaReader.Proofs.Settings.Loaded
import MangaReader.Proofs.Settings.Value

/-!
# Setting a key of a profile

* `assign_keeps_the_rest` : a key that has been set is all that has changed, compared with what was
  loaded, and with what the file held where that is what was loaded.
* `assign_forgets` : settings that cannot be loaded are lost.
* `assign_all_or_nothing` : a key that cannot be set changes nothing; one that is set has its value.
-/

namespace MangaReader.Command

open Settings

theorem of_run_assign {o : Options} {name value : String} {session session' : Session}
    (h : (assign o name value).run session = (.ok (), session')) :
    ∃ key s' files, SettingKey.ofName? name = some key ∧
      (loadOrDefault session.machine).assign (o.profileName (loadOrDefault session.machine)) key
        value = .ok s' ∧
      s'.saveTo session.machine.files session.machine.settingsPath = .ok files ∧
      session'.machine = { session.machine with files } := by
  rw [run_assign] at h
  cases hkey : SettingKey.ofName? name with
  | none =>
    rw [hkey] at h
    cases h
  | some key =>
    simp only [hkey] at h
    split at h
    · cases h
    · rename_i s' hassign
      split at h
      · cases h
      · rename_i files hsave
        obtain ⟨-, rfl⟩ := Prod.mk.inj h
        exact ⟨key, s', files, rfl, hassign, hsave, rfl⟩

theorem eq_of_run_assign {o : Options} {name value : String} {session session' : Session}
    {e : CommandError} (h : (assign o name value).run session = (.error e, session')) :
    session' = session := by
  rw [run_assign] at h
  split at h
  · exact (Prod.mk.inj h).2.symm
  · simp only at h
    split at h
    · exact (Prod.mk.inj h).2.symm
    · split at h
      · exact (Prod.mk.inj h).2.symm
      · cases h

/-- **A key that has been set is all that has changed.** The file of the settings can be read
afterwards, and it holds what was loaded before but for that key of the profile that is meant. What
was loaded is what the file held where that could be read and the environment sets nothing. -/
theorem assign_keeps_the_rest {o : Options} {name value : String} {session session' : Session}
    (h : (assign o name value).run session = (.ok (), session')) :
    ∃ key s', SettingKey.ofName? name = some key ∧ kept session'.machine = .ok s' ∧
      SameBut (o.profileName (loadOrDefault session.machine)) key value
        (loadOrDefault session.machine) s' ∧
      ((∀ p ∈ session.machine.environment, Environment.path? p.1 = none) →
        ∀ s, kept session.machine = .ok s → SameBut (o.profileName s) key value s s') := by
  obtain ⟨key, s', files, hkey, hassign, hsave, hmachine⟩ := of_run_assign h
  have hsame := sameBut_assign hassign
  have hname : s'.defaultProfile.isSome := by
    rw [hsame.defaultProfile]
    exact defaultProfile_loadOrDefault session.machine
  refine ⟨key, s', hkey, ?_, hsame, fun hsilent s hs => ?_⟩
  · rw [hmachine]
    exact kept_of_saveTo hname hsave
  · have hload : loadOrDefault session.machine = s := by
      unfold loadOrDefault
      rw [load_eq_kept hsilent, hs]
    rwa [hload] at hsame

def machineWith (file : String) (environment : Environment) : Machine where
  files := { entries := [("/cfg/mangaview/config.toml", file.toUTF8.toList)] }
  environment := ("XDG_CONFIG_HOME", "/cfg") :: environment

theorem exists_kept {α : Type} {m : Machine} {f : Settings → α} {a : α}
    (h : (kept m).toOption.map f = some a) : ∃ s, kept m = .ok s ∧ f s = a := by
  cases hkept : kept m with
  | ok s =>
    rw [hkept] at h
    exact ⟨s, rfl, Option.some.inj h⟩
  | error e =>
    rw [hkept] at h
    cases h

def twoProfiles : Machine :=
  machineWith ("default_profile = \"home\"\n[profiles.home]\nserver = \"\"\n" ++
    "[profiles.work]\nserver = \"\"\n") []

theorem assign_keeps_the_rest_two_profiles :
    ∃ key s s', SettingKey.ofName? "timeout" = some key ∧ kept twoProfiles = .ok s ∧
      kept ((assign {} "timeout" "5").run { machine := twoProfiles }).2.machine = .ok s' ∧
      SameBut (Options.profileName {} s) key "5" s s' := by
  have hrun : (assign {} "timeout" "5").run { machine := twoProfiles } =
      (.ok (), ((assign {} "timeout" "5").run { machine := twoProfiles }).2) :=
    Prod.ext (by decide +kernel) rfl
  have hheld : (kept twoProfiles).toOption.map (fun _ => ()) = some () := by decide +kernel
  obtain ⟨s, hs, -⟩ := exists_kept hheld
  obtain ⟨key, s', hkey, hkept, -, hsame⟩ := assign_keeps_the_rest hrun
  exact ⟨key, s, s', hkey, hs, hkept, hsame (by decide +kernel) s hs⟩

/-! ### What is lost -/

/-- **Settings that cannot be loaded are lost.** Setting a key leaves the profile that is meant, all
other fields of which are blank, and no other. -/
theorem assign_forgets {o : Options} {name value : String} {session session' : Session}
    (h : (assign o name value).run session = (.ok (), session'))
    (hload : (load session.machine).toOption = none) :
    ∃ s', kept session'.machine = .ok s' ∧ s'.defaultProfile = some "default" ∧
      s'.defaults = {} ∧ ∀ other, other ≠ o.profileName {} → s'.profiles.get? other = none := by
  obtain ⟨key, s', files, -, hassign, hsave, hmachine⟩ := of_run_assign h
  have hdefault : loadOrDefault session.machine = {} := by
    unfold loadOrDefault
    cases hread : load session.machine with
    | error e => rfl
    | ok s =>
      rw [hread] at hload
      cases hload
  rw [hdefault] at hassign
  have hsame := sameBut_assign hassign
  refine ⟨s', ?_, hsame.defaultProfile, hsame.defaults, hsame.others⟩
  rw [hmachine]
  exact kept_of_saveTo (by rw [hsame.defaultProfile]; rfl) hsave

/-- A machine with a profile, and a variable for the settings that should be a number and is not. -/
def spoiled : Machine :=
  machineWith "default_profile = \"home\"\n[profiles.home]\nserver = \"http://a/\"\n"
    [("MANGAVIEW_DEFAULTS__TIMEOUT", "soon")]

/-- The file held a profile by itself, and holds it no longer once a key of another is set. -/
theorem assign_forgets_spoiled :
    ∃ s s', kept spoiled = .ok s ∧
      ((assign {} "timeout" "5").run { machine := spoiled }).1 = .ok () ∧
      kept ((assign {} "timeout" "5").run { machine := spoiled }).2.machine = .ok s' ∧
      s.defaultProfile = some "home" ∧ (s.profiles.get? "home").isSome = true ∧
      s'.defaultProfile = some "default" ∧ s'.profiles.get? "home" = none := by
  have hrun : ((assign {} "timeout" "5").run { machine := spoiled }).1 = .ok () := by decide +kernel
  have hheld : (kept spoiled).toOption.map (fun s =>
      (s.defaultProfile, (s.profiles.get? "home").isSome)) = some (some "home", true) := by
    decide +kernel
  obtain ⟨s, hs, hheld⟩ := exists_kept hheld
  obtain ⟨hname, hhome⟩ := Prod.mk.inj hheld
  obtain ⟨s', hkept, hdefault, -, hnone⟩ := assign_forgets (Prod.ext hrun rfl)
    (show (load spoiled).toOption = none from Option.isNone_iff_eq_none.mp (by decide +kernel))
  exact ⟨s, s', hs, hrun, hkept, hname, hhome, hdefault, hnone "home" (by decide)⟩

/-! ### All or nothing -/

/-- **Setting a key is all or nothing.** Where it fails, everything is as it was, the file of the
settings too. Where it succeeds, the key is one of those there are, the text stands for a value of
it, and the file can be read by itself: the profile that is meant, before and after, has that value
under the key, and names no backend or one that can be asked over HTTP. -/
theorem assign_all_or_nothing (o : Options) (name text : String) (session : Session) :
    match (assign o name text).run session with
    | (.error _, after) => after = session
    | (.ok (), after) =>
      ∃ key ∈ SettingKey.all, (name = key.name ∨ name = key.hyphenated) ∧
        ∃ value, key.parse? text = some value ∧
          ∃ s p, kept after.machine = .ok s ∧
            o.profileName s = o.profileName (loadOrDefault session.machine) ∧
            s.profiles.get? (o.profileName s) = some p ∧ p.value? key = some value ∧ p.Served := by
  rcases hrun : (assign o name text).run session with ⟨e | _, after⟩
  · exact eq_of_run_assign hrun
  · obtain ⟨key, s, files, hkey, hassign, hsave, hmachine⟩ := of_run_assign hrun
    obtain ⟨hmem, hspelled⟩ := SettingKey.spelled_of_ofName? hkey
    have hname : s.defaultProfile.isSome := by
      rw [(sameBut_assign hassign).defaultProfile]
      exact defaultProfile_loadOrDefault session.machine
    obtain ⟨p, hset, hchecked, rfl⟩ := of_assign hassign
    obtain ⟨value, hparse, hvalue⟩ := Profile.value?_assign hset
    have hkept := kept_of_saveTo hname hsave
    rw [← hmachine] at hkept
    exact ⟨key, hmem, hspelled, value, hparse, _, p, hkept, rfl, Named.get?_insert_self _ _ _,
      hvalue, Profile.served_of_checked hchecked⟩

end MangaReader.Command

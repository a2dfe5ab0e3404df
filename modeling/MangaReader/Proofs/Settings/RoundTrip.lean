import MangaReader.Proofs.Command.Action
import MangaReader.Proofs.Settings.Loaded

/-!
# Settings are loaded as they were saved

Settings that name their default profile, as all that are loaded do, go through a file and come back
as they were: the names of the profiles and all texts are free, and so is the order in which the
profiles are written. What a file cannot hold is a time beyond the signed numbers of 64 bits;
settings with such a time are not saved, and the file stays as it was.

* `Settings.longest` : the longest time that a file holds.
* `Settings.saveTo_eq_ok`, `Settings.saveTo_eq_error` : when settings are saved.
* `Settings.saved_is_loaded` : what is loaded after settings have been saved, and when they are not.
-/

namespace MangaReader

namespace Settings

/-- The longest time that a file holds. -/
def longest : Nat := (1 <<< 63) - 1

/-- Whether a file holds all times of the settings. -/
def Fits (s : Settings) : Prop := ∀ n ∈ s.timeouts, n ≤ longest

variable {m : Machine} {s : Settings} {path : String} {profiles : List (String × Profile)}

theorem fits_iff : s.Fits ↔ ∀ n ∈ s.timeouts, n < 1 <<< 63 := by
  have hlongest (n : Nat) : n ≤ longest ↔ n < 1 <<< 63 := by
    have hlast : 1 <<< 63 = longest + 1 := rfl
    rw [hlast, Nat.lt_succ_iff]
  simp only [Fits, hlongest]

theorem saveTo_eq_ok (h : s.Fits) (files : Files) :
    s.saveTo files path =
      .ok (files.write path (s.textIn s.profiles.entries).toUTF8.toList) := by
  have hall : s.timeouts.all (· < 1 <<< 63) = true := by simpa using fits_iff.mp h
  unfold saveTo written?
  rw [if_pos hall]
  rfl

theorem saveTo_eq_error (h : ¬ s.Fits) (files : Files) :
    s.saveTo files path = .error (.unwritable "out-of-range value for u64 type") := by
  have hnot : ¬ s.timeouts.all (· < 1 <<< 63) = true := by
    intro hall
    exact h (fits_iff.mpr (by simpa using hall))
  unfold saveTo written?
  rw [if_neg hnot]

theorem loadFrom_textIn (hname : s.defaultProfile.isSome) (h : s.Fits)
    (horder : profiles.Perm s.profiles.entries)
    (hsilent : ∀ p ∈ m.environment, Environment.path? p.1 = none) :
    loadFrom { m with files := m.files.write path (s.textIn profiles).toUTF8.toList } path =
      .ok s := by
  unfold loadFrom
  rw [Files.read?_write_self]
  exact ofLayers_textIn hname (fits_iff.mp h) horder _ (Environment.settings_eq hsilent)

/-- **What is saved is what is loaded.** On a machine without variables for the settings, and for
settings that name their default profile: if a file holds all their times, they are saved, and
loading the same path gives them back, also if the profiles had been written in another order. If
there is a longer time, they are not saved, and a command that keeps them fails and changes nothing:
every file reads as before. -/
theorem saved_is_loaded (path : String) (hname : s.defaultProfile.isSome)
    (hsilent : ∀ p ∈ m.environment, Environment.path? p.1 = none) :
    ((∀ n ∈ s.timeouts, n ≤ longest) →
      (∃ files, s.saveTo m.files path = .ok files ∧ loadFrom { m with files } path = .ok s) ∧
      ∀ profiles : List (String × Profile), profiles.Perm s.profiles.entries →
        loadFrom { m with files := m.files.write path (s.textIn profiles).toUTF8.toList } path =
          .ok s) ∧
    ((∃ n ∈ s.timeouts, longest < n) →
      let e : SettingsError := .unwritable "out-of-range value for u64 type"
      s.saveTo m.files path = .error e ∧
        ∀ session, (Command.save s).run session = (.error (.ofSettings e), session)) := by
  refine ⟨fun hfits => ⟨?_, fun profiles horder => ?_⟩, fun hlong => ?_⟩
  · exact ⟨_, saveTo_eq_ok hfits m.files, loadFrom_textIn hname hfits (.refl _) hsilent⟩
  · exact loadFrom_textIn hname hfits horder hsilent
  · obtain ⟨n, hn, hlong⟩ := hlong
    have hnot : ¬ s.Fits := fun hfits => absurd (hfits n hn) (Nat.not_le_of_lt hlong)
    refine ⟨saveTo_eq_error hnot m.files, fun session => ?_⟩
    rw [Command.run_save, saveTo_eq_error hnot]

/-- A machine on which nothing but a home is set, with a file of settings. -/
def homely : Machine where
  files := { entries := [("/home/.config/mangaview/config.toml", "[defaults]\n".toUTF8.toList)] }
  environment := [("HOME", "/home")]

/-- Two profiles whose names and texts have to be quoted, with a time. -/
def oddlyNamed (timeout : Nat) : Settings where
  defaultProfile := some "no such"
  defaults := { color := "", timeout }
  profiles := .ofList
    [("a.b \"c\"\n",
        { server := "\x27\x27\x27", cookie := some "\t#\\ ", recordHistory := some false }),
      ("", { site := .mangabat, caFile := some "\n", streamTimeout := some 0 })]

/-- The longest time goes through a file together with odd names, and the next one is not saved. -/
theorem saved_is_loaded_oddly_named :
    let path := homely.settingsPath
    (∃ files, (oddlyNamed longest).saveTo homely.files path = .ok files ∧
      loadFrom { homely with files } path = .ok (oddlyNamed longest)) ∧
    ((Command.save (oddlyNamed (longest + 1))).run { machine := homely }).2 =
      { machine := homely } := by
  intro path
  have hsilent : ∀ p ∈ homely.environment, Environment.path? p.1 = none := by decide +kernel
  obtain ⟨hsaved, -⟩ := (saved_is_loaded (s := oddlyNamed longest) path rfl hsilent).1 <| by
    decide +kernel
  obtain ⟨-, hkept⟩ := (saved_is_loaded (s := oddlyNamed (longest + 1)) path rfl hsilent).2
    ⟨longest + 1, List.mem_cons_self, Nat.lt_succ_self _⟩
  exact ⟨hsaved, by rw [hkept]⟩

end Settings

end MangaReader

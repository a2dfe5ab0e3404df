import MangaReader.Proofs.Settings.Written

/-!
# Loaded settings name their default profile

The built-in settings name one, and neither a file nor the environment can take the name away.

* `Datum.Holds` : a table that has a member of a name.
* `Settings.defaultProfile_of_ofLayers`, `Settings.defaultProfile_loadOrDefault` : the name is
  there.
* `Settings.kept` : what the file of the settings holds by itself.
-/

namespace MangaReader

namespace Datum

def Holds (name : String) (d : Datum) : Prop :=
  ∃ source members, d = .table source members ∧ name ∈ members.map (·.1)

def IsTable (d : Datum) : Prop := ∃ source members, d = .table source members

theorem mem_insertNamed_of_mem {α : Type} {name other : String} (a : α)
    {entries : List (String × α)} (h : name ∈ entries.map (·.1)) :
    name ∈ (insertNamed other a entries).map (·.1) := by
  induction entries with
  | nil => cases h
  | cons p rest ih =>
    rw [List.map_cons, List.mem_cons] at h
    unfold insertNamed
    split
    · rw [List.map_cons, List.map_cons]
      exact List.mem_cons_of_mem _ (List.mem_cons.mpr h)
    · split
      · rename_i heq
        rw [List.map_cons, List.mem_cons, heq]
        exact h
      · rw [List.map_cons, List.mem_cons]
        exact h.imp_right ih

theorem mem_mergeMembers {name : String} {old new : List (String × Datum)}
    (h : name ∈ old.map (·.1)) : name ∈ (mergeMembers old new).map (·.1) := by
  induction new generalizing old with
  | nil =>
    rw [mergeMembers]
    exact h
  | cons p new ih =>
    rw [mergeMembers]
    exact ih (mem_insertNamed_of_mem _ h)

theorem Holds.merge {name : String} {old new : Datum} (hold : old.Holds name) (hnew : new.IsTable) :
    (old.merge new).Holds name := by
  obtain ⟨_, members, rfl, hmem⟩ := hold
  obtain ⟨source, new, rfl⟩ := hnew
  rw [Datum.merge]
  exact ⟨source, _, rfl, mem_mergeMembers hmem⟩

theorem IsTable.merge {old new : Datum} (hnew : new.IsTable) : (old.merge new).IsTable := by
  obtain ⟨source, new, rfl⟩ := hnew
  cases old with
  | table source' old => exact ⟨source, _, by rw [Datum.merge]⟩
  | text | character | flag | number | list =>
    refine ⟨source, new, ?_⟩
    rw [Datum.merge]
    simp

end Datum

namespace Environment

theorem path?_ne_nil {name : String} {path : List String} (h : path? name = some path) :
    path ≠ [] := by
  unfold path? at h
  simp only at h
  split at h
  case isFalse => cases h
  case isTrue =>
    split at h
    · cases h
    · obtain rfl := Option.some.inj h
      exact fun hnil => List.splitOn_ne_nil _ _ (List.map_eq_nil_iff.mp hnil)

theorem isTable_settings (environment : Environment) : environment.settings.IsTable := by
  unfold settings
  have hempty : (Datum.table .environment []).IsTable := ⟨.environment, [], rfl⟩
  generalize Datum.table .environment [] = d at hempty
  induction environment generalizing d with
  | nil => exact hempty
  | cons p environment ih =>
    rw [List.foldl_cons]
    apply ih
    cases hpath : path? p.1 with
    | none => exact hempty
    | some path =>
      obtain ⟨first, names, rfl⟩ := List.exists_cons_of_ne_nil (path?_ne_nil hpath)
      exact Datum.IsTable.merge ⟨.environment, _, rfl⟩

theorem settings_eq {environment : Environment} (h : ∀ p ∈ environment, path? p.1 = none) :
    environment.settings = .table .environment [] := by
  unfold settings
  induction environment with
  | nil => rfl
  | cons p environment ih =>
    obtain ⟨hp, hrest⟩ := List.forall_mem_cons.mp h
    rw [List.foldl_cons, hp]
    exact ih hrest

end Environment

namespace Settings

theorem reads_defaultProfile {e : Entry Settings} (he : e ∈ entries) {d : Datum} {s t : Settings}
    (h : e.read d s = .ok t) :
    (s.defaultProfile.isSome → t.defaultProfile.isSome) ∧
      (e.name = "default_profile" → t.defaultProfile.isSome) := by
  simp only [entries, List.mem_cons, List.not_mem_nil, or_false] at he
  rcases he with rfl | rfl | rfl
  · obtain ⟨x, -, rfl⟩ := Entry.of_read_eq_ok h
    exact ⟨fun _ => rfl, fun _ => rfl⟩
  · obtain ⟨x, -, rfl⟩ := Entry.of_read_eq_ok h
    exact ⟨id, fun h => absurd h (by decide)⟩
  · obtain ⟨x, -, rfl⟩ := Entry.of_read_eq_ok h
    exact ⟨id, fun h => absurd h (by decide)⟩

theorem defaultProfile_of_readMembers {members : List (String × Datum)} {s t : Settings}
    (h : readMembers entries s members = .ok t)
    (hname : s.defaultProfile.isSome ∨ "default_profile" ∈ members.map (·.1)) :
    t.defaultProfile.isSome := by
  induction members generalizing s with
  | nil =>
    rcases hname with hname | hname
    · rw [readMembers] at h
      cases h
      exact hname
    · cases hname
  | cons p members ih =>
    obtain ⟨name, d⟩ := p
    rw [readMembers] at h
    cases hfind : entries.find? (·.name = name) with
    | none =>
      have hne : name ≠ "default_profile" := by
        rintro rfl
        cases hfind
      simp only [hfind] at h
      refine ih h (hname.imp_right fun hmem => ?_)
      exact (List.mem_cons.mp hmem).resolve_left hne.symm
    | some e =>
      simp only [hfind] at h
      cases hread : e.read d s with
      | error m => simp [hread] at h
      | ok s' =>
        simp only [hread] at h
        have hset := reads_defaultProfile (List.mem_of_find?_eq_some hfind) hread
        have he : e.name = name := by simpa using List.find?_some hfind
        refine ih h ?_
        rcases hname with hname | hmem
        · exact .inl (hset.1 hname)
        · rcases List.mem_cons.mp hmem with hfirst | hmem
          · exact .inl (hset.2 (he.trans hfirst.symm))
          · exact .inr hmem

theorem defaultProfile_of_ofDatum {d : Datum} {s : Settings} (hd : d.Holds "default_profile")
    (h : ofDatum d = .ok s) : s.defaultProfile.isSome := by
  obtain ⟨source, members, rfl, hmem⟩ := hd
  rw [ofDatum, readRecord] at h
  cases hread : readMembers entries { defaultProfile := none } members with
  | error m =>
    rw [hread] at h
    cases h
  | ok t =>
    rw [hread] at h
    cases h
    exact defaultProfile_of_readMembers hread (.inr hmem)

theorem holds_builtin : builtin.Holds "default_profile" :=
  ⟨.builtin, _, rfl, List.mem_cons_self⟩

theorem isTable_fileDatum {shown : String} {bytes : List UInt8} {d : Datum}
    (h : fileDatum shown bytes = .ok d) : d.IsTable := by
  unfold fileDatum at h
  split at h
  · cases h
  · split at h
    · cases h
    · cases h
      exact ⟨.file shown, _, by rw [Datum.ofToml]⟩

theorem defaultProfile_of_ofLayers {shown : String} {bytes : Option (List UInt8)}
    {environment : Environment} {s : Settings} (h : ofLayers shown bytes environment = .ok s) :
    s.defaultProfile.isSome := by
  have hlayers : ∀ d : Datum, d.Holds "default_profile" →
      (ofDatum (d.merge environment.settings)).mapError (SettingsError.unreadable <| .misfit ·) =
        .ok s →
      s.defaultProfile.isSome := by
    intro d hd h
    have hall := hd.merge environment.isTable_settings
    cases hread : ofDatum (d.merge environment.settings) with
    | error m =>
      rw [hread] at h
      cases h
    | ok t =>
      rw [hread] at h
      cases h
      exact defaultProfile_of_ofDatum hall hread
  cases bytes with
  | none =>
    rw [ofLayers_none] at h
    exact hlayers _ holds_builtin h
  | some bytes =>
    cases hfile : fileDatum shown bytes with
    | error e =>
      unfold ofLayers at h
      simp only [hfile] at h
      cases h
    | ok d =>
      rw [ofLayers_some hfile] at h
      exact hlayers _ (holds_builtin.merge (isTable_fileDatum hfile)) h

theorem defaultProfile_loadOrDefault (m : Machine) : (loadOrDefault m).defaultProfile.isSome := by
  unfold loadOrDefault
  cases hload : load m with
  | error e => rfl
  | ok s => exact defaultProfile_of_ofLayers hload

/-- What the file of the settings holds by itself. -/
def kept (m : Machine) : Except SettingsError Settings :=
  ofLayers (m.shown m.settingsPath) (m.files.read? m.settingsPath) []

/-- **Without variables for the settings**, what is loaded is what the file holds. -/
theorem load_eq_kept {m : Machine} (h : ∀ p ∈ m.environment, Environment.path? p.1 = none) :
    load m = kept m := by
  unfold load loadFrom kept ofLayers
  rw [Environment.settings_eq h]
  rfl

theorem kept_of_saveTo {m : Machine} {s : Settings} {files : Files}
    (hname : s.defaultProfile.isSome) (h : s.saveTo m.files m.settingsPath = .ok files) :
    kept { m with files } = .ok s := by
  unfold saveTo at h
  cases hwritten : s.written? with
  | none =>
    rw [hwritten] at h
    cases h
  | some text =>
    rw [hwritten] at h
    cases h
    let files := m.files.write m.settingsPath text.toUTF8.toList
    have hpath : Machine.settingsPath { m with files } = m.settingsPath := rfl
    unfold kept
    rw [hpath, Files.read?_write_self]
    exact ofLayers_written hname hwritten _ rfl

end Settings

end MangaReader

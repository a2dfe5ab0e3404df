import MangaReader.Proofs.Settings.Record
import MangaReader.Proofs.Text.Utf8
import MangaReader.Proofs.Toml.Table

/-!
# Settings are read as they are written

* `Settings.textIn` : a file of settings with the profiles in some order.
* `Settings.parse_textIn` : the members of a file of settings.
* `Settings.ofDatum_written` : the settings that those members hold, laid over the built-in ones.
* `Settings.ofLayers_textIn`, `Settings.ofLayers_written` : settings that name their default profile
  are read back from a file if the environment sets nothing, in whatever order the profiles are.
-/

namespace MangaReader

namespace Settings

open Toml

/-! ## The file -/

def sectionsIn (s : Settings) (profiles : List (String × Profile)) : List Section :=
  (s.defaultProfile.map fun name => Section.mk [] [("default_profile", .text name)]).toList ++
    [⟨["defaults"], defaultPairs s.defaults⟩] ++
    (if profiles.isEmpty then [⟨["profiles"], []⟩]
      else profiles.map fun p => ⟨["profiles", p.1], profilePairs p.2⟩)

def textIn (s : Settings) (profiles : List (String × Profile)) : String :=
  Section.document (s.sectionsIn profiles)

theorem of_written? {s : Settings} {text : String} (h : s.written? = some text) :
    (∀ n ∈ s.timeouts, n < 1 <<< 63) ∧ text = s.textIn s.profiles.entries := by
  unfold written? at h
  split at h
  case isFalse => cases h
  case isTrue hfits =>
    obtain rfl := Option.some.inj h
    exact ⟨by simpa using hfits, rfl⟩

theorem plain_pair? {α : Type} {name : String} {value : α → Value} {a : Option α}
    (h : ∀ x ∈ a, (value x).Plain) : ∀ p ∈ pair? name value a, p.2.Plain := by
  intro p hp
  cases a with
  | none => cases hp
  | some a =>
    obtain rfl := List.mem_singleton.mp hp
    exact h a rfl

theorem plain_count {n : Nat} (h : n < 1 <<< 63) : (count n).Plain := by
  have h : n < 2 ^ 63 := h
  refine .integer ?_ ?_
  · omega
  · omega

theorem plain_defaultPairs {d : Defaults} (htimeout : d.timeout < 1 <<< 63)
    (hstream : d.streamTimeout < 1 <<< 63) : ∀ p ∈ defaultPairs d, p.2.Plain := by
  simp only [defaultPairs, List.forall_mem_cons]
  exact ⟨.text _, .text _, .flag _, plain_count htimeout, plain_count hstream, by simp⟩

theorem plain_profilePairs {p : Profile} (htimeout : ∀ n ∈ p.timeout, n < 1 <<< 63)
    (hstream : ∀ n ∈ p.streamTimeout, n < 1 <<< 63) : ∀ q ∈ profilePairs p, q.2.Plain := by
  have htext : ∀ (name : String) (a : Option String), ∀ q ∈ pair? name Value.text a, q.2.Plain :=
    fun name a => plain_pair? fun x _ => .text x
  have hflag : ∀ (name : String) (a : Option Bool), ∀ q ∈ pair? name Value.flag a, q.2.Plain :=
    fun name a => plain_pair? fun x _ => .flag x
  simp only [profilePairs, List.forall_mem_append]
  refine ⟨⟨⟨⟨⟨⟨⟨⟨⟨?_, htext _ _⟩, htext _ _⟩, htext _ _⟩, htext _ _⟩, htext _ _⟩, hflag _ _⟩,
    plain_pair? fun n hn => plain_count (htimeout n hn)⟩,
    plain_pair? fun n hn => plain_count (hstream n hn)⟩, hflag _ _⟩
  simp only [List.forall_mem_cons]
  exact ⟨.text _, .text _, by simp⟩

theorem plain_sectionsIn {s : Settings} (h : ∀ n ∈ s.timeouts, n < 1 <<< 63)
    {profiles : List (String × Profile)} (horder : profiles.Perm s.profiles.entries) :
    ∀ x ∈ s.sectionsIn profiles, x.Plain := by
  have hdefaults := plain_defaultPairs (d := s.defaults) (h _ (by simp [timeouts]))
    (h _ (by simp [timeouts]))
  have hprofile : ∀ q ∈ profiles, ∀ p ∈ profilePairs q.2, p.2.Plain := by
    intro q hq
    have hq := horder.mem_iff.mp hq
    have hmem : ∀ n ∈ q.2.timeout.toList ++ q.2.streamTimeout.toList, n < 1 <<< 63 := by
      intro n hn
      apply h
      unfold timeouts
      exact List.mem_append_right _ (List.mem_flatMap.mpr ⟨q, hq, hn⟩)
    refine plain_profilePairs (fun n hn => hmem n ?_) fun n hn => hmem n ?_
    · exact List.mem_append_left _ (Option.mem_toList.mpr hn)
    · exact List.mem_append_right _ (Option.mem_toList.mpr hn)
  have hshort : ∀ path : List String, path.length ≤ 2 → path.length < Document.depthLimit := by
    intro path hpath
    unfold Document.depthLimit
    omega
  unfold sectionsIn
  simp only [List.forall_mem_append]
  refine ⟨⟨?_, ?_⟩, ?_⟩
  · intro x hx
    obtain ⟨name, -, rfl⟩ := Option.map_eq_some_iff.mp (Option.mem_toList.mp hx)
    exact ⟨hshort _ (by simp), by simpa using Value.Plain.text name⟩
  · intro x hx
    obtain rfl := List.mem_singleton.mp hx
    exact ⟨hshort _ (by simp), hdefaults⟩
  · intro x hx
    split at hx
    · obtain rfl := List.mem_singleton.mp hx
      exact ⟨hshort _ (by simp), by simp⟩
    · obtain ⟨q, hq, rfl⟩ := List.mem_map.mp hx
      exact ⟨hshort _ (by simp), hprofile q hq⟩

def profileMembers (profiles : List (String × Profile)) : List (String × Value) :=
  profiles.map fun p => (p.1, .table (profilePairs p.2))

def fileMembersIn (name : String) (s : Settings) (profiles : List (String × Profile)) :
    List (String × Value) :=
  [("default_profile", .text name), ("defaults", .table (defaultPairs s.defaults)),
    ("profiles", .table (profileMembers profiles))]

theorem nodup_defaultPairs (d : Defaults) : ((defaultPairs d).map (·.1)).Nodup := by
  show ["output", "color", "insecure", "timeout", "stream_timeout"].Nodup
  decide

def baseMembers (name : String) (d : Defaults) : Members :=
  [("default_profile", .leaf (.text name)),
    ("defaults", .table .header (Members.leaves (defaultPairs d)))]

theorem values_baseMembers (name : String) (d : Defaults) : (baseMembers name d).values =
    [("default_profile", .text name), ("defaults", .table (defaultPairs d))] := by
  show [("default_profile", Value.text name),
    ("defaults", .table (Members.leaves (defaultPairs d)).values)] = _
  rw [Members.values_leaves]

theorem foldlM_baseSections (name : String) (d : Defaults) :
    ∃ draft, [Section.mk [] [("default_profile", .text name)],
        ⟨["defaults"], defaultPairs d⟩].foldlM Draft.takeIn {} = some draft ∧
      draft.close = some (baseMembers name d) := by
  let first : Draft := { current := [("default_profile", .leaf (.text name))] }
  have hfirst : Draft.takeIn {} ⟨[], [("default_profile", .text name)]⟩ = some first := rfl
  have hclose : first.close = some first.current := rfl
  have hnew : "defaults" ∉ first.current.map (·.1) := by
    show "defaults" ∉ ["default_profile"]
    decide
  obtain ⟨draft, htake, hdraft⟩ := Draft.takeIn_top hclose hnew (nodup_defaultPairs d)
  refine ⟨draft, ?_, hdraft⟩
  rw [List.foldlM_cons, hfirst]
  show List.foldlM Draft.takeIn first _ = _
  rw [List.foldlM_cons, htake]
  rfl

theorem foldlM_profileSections {draft : Draft} {base : Members} (hclose : draft.close = some base)
    (hnew : "profiles" ∉ base.map (·.1)) {profiles : List (String × Profile)}
    (hdistinct : (profiles.map (·.1)).Nodup) :
    ∃ draft' members,
      (if profiles.isEmpty then [⟨["profiles"], []⟩]
        else profiles.map fun p =>
          Section.mk ["profiles", p.1] (profilePairs p.2)).foldlM Draft.takeIn draft = some draft' ∧
      draft'.close = some members ∧
      members.values = base.values ++ [("profiles", .table (profileMembers profiles))] := by
  by_cases hempty : profiles = []
  · have hnodup : (([] : List (String × Value)).map (·.1)).Nodup := List.nodup_nil
    obtain ⟨draft', htake, hdraft'⟩ := Draft.takeIn_top hclose hnew hnodup
    refine ⟨draft', _, ?_, hdraft', ?_⟩
    · rw [hempty, if_pos List.isEmpty_nil, List.foldlM_cons, htake]
      rfl
    · rw [Members.values_append, hempty]
      rfl
  · have hnames : (([] : Members).map (·.1) ++
        (profiles.map fun p => (p.1, profilePairs p.2)).map (·.1)).Nodup := by
      rw [List.map_map]
      exact hdistinct
    have hnodup : ∀ t ∈ profiles.map (fun p => (p.1, profilePairs p.2)),
        (t.2.map (·.1)).Nodup := by
      intro t ht
      obtain ⟨p, -, rfl⟩ := List.mem_map.mp ht
      exact p.2.nodup_profilePairs
    obtain ⟨draft', hfold, hdraft'⟩ := Draft.foldlM_takeIn_below hclose hnew hnames hnodup
    refine ⟨draft', _, ?_, hdraft', ?_⟩
    · rw [if_neg (by simpa using hempty), ← hfold, List.map_map]
      rfl
    · rw [List.nil_append, Draft.below_of_ne_nil base _ (by simpa using hempty),
        Members.values_append]
      show _ ++ [("profiles", Value.table (Members.values _))] = _
      rw [Members.values_tables, List.map_map]
      rfl

theorem foldlM_sectionsIn {s : Settings} {name : String} (hname : s.defaultProfile = some name)
    {profiles : List (String × Profile)} (hdistinct : (profiles.map (·.1)).Nodup) :
    ∃ d members, (s.sectionsIn profiles).foldlM Draft.takeIn {} = some d ∧
      d.close = some members ∧ members.values = fileMembersIn name s profiles := by
  obtain ⟨draft, hbase, hclose⟩ := foldlM_baseSections name s.defaults
  have hnew : "profiles" ∉ (baseMembers name s.defaults).map (·.1) := by
    show "profiles" ∉ ["default_profile", "defaults"]
    decide
  obtain ⟨draft', members, hprofiles, hclose', hvalues⟩ :=
    foldlM_profileSections hclose hnew hdistinct
  refine ⟨draft', members, ?_, hclose', ?_⟩
  · unfold sectionsIn
    rw [hname]
    show List.foldlM Draft.takeIn {} ([_, _] ++ _) = _
    rw [List.foldlM_append, hbase]
    exact hprofiles
  · rw [hvalues, values_baseMembers]
    rfl

theorem parse_textIn {s : Settings} {name : String} (hname : s.defaultProfile = some name)
    (hfits : ∀ n ∈ s.timeouts, n < 1 <<< 63) {profiles : List (String × Profile)}
    (horder : profiles.Perm s.profiles.entries) :
    Document.parse (s.textIn profiles) = .ok (fileMembersIn name s profiles) := by
  have hdistinct : (profiles.map (·.1)).Nodup :=
    (horder.map _).nodup_iff.mpr (InOrder.nodup s.profiles.sorted)
  obtain ⟨d, members, hfold, hclose, hvalues⟩ := foldlM_sectionsIn hname hdistinct
  rw [← hvalues]
  exact Document.parse_document (plain_sectionsIn hfits horder) hfold hclose

/-! ## The data -/

theorem readProfiles_members (source : Source) {read : Named Profile}
    {profiles : List (String × Profile)} (h : InOrder (read.entries ++ profiles)) :
    ∃ all, readProfiles read (Datum.members source (profileMembers profiles)) = .ok all ∧
      all.entries = read.entries ++ profiles := by
  induction profiles generalizing read with
  | nil => exact ⟨read, rfl, (List.append_nil _).symm⟩
  | cons p profiles ih =>
    have hlast : (read.insert p.1 p.2).entries = read.entries ++ [p] :=
      insertNamed_of_gt _ fun q hq => (List.pairwise_append.mp h).2.2 q hq p List.mem_cons_self
    have hrest : InOrder ((read.insert p.1 p.2).entries ++ profiles) := by
      rw [hlast, List.append_assoc]
      exact h
    obtain ⟨all, hread, hall⟩ := ih hrest
    refine ⟨all, ?_, by rw [hall, hlast, List.append_assoc]; rfl⟩
    show readProfiles read ((p.1, .table source (Datum.ofTomlMembers source (profilePairs p.2))) ::
      Datum.members source (profileMembers profiles)) = _
    rw [readProfiles]
    simp only [p.2.readRecord_profilePairs source]
    exact hread

theorem asProfiles_written (source : Source) (profiles : Named Profile) :
    Datum.asProfiles (.table source (Datum.mergeMembers []
      (Datum.ofTomlMembers source (profileMembers profiles.entries)))) = .ok profiles := by
  have hsorted : InOrder (profileMembers profiles.entries) := by
    unfold InOrder profileMembers
    rw [List.pairwise_map]
    exact profiles.sorted
  have hinOrder : InOrder (Datum.ofTomlMembers source (profileMembers profiles.entries)) :=
    Datum.inOrder_ofTomlMembers _ _
  rw [Datum.mergeMembers_of_inOrder (by simpa using hinOrder), List.nil_append,
    Datum.ofTomlMembers_of_inOrder source hsorted]
  obtain ⟨all, hread, hall⟩ : ∃ all, readProfiles .empty (Datum.members source
      (profileMembers profiles.entries)) = .ok all ∧ all.entries = [] ++ profiles.entries :=
    readProfiles_members source profiles.sorted
  rw [Datum.asProfiles, hread, Named.eq_of_entries hall]

theorem merge_written (source : Source) (name : String) (s : Settings) :
    builtin.merge (Datum.ofToml source (.table (fileMembersIn name s s.profiles.entries))) =
      .table source
        [("default_profile", .text source name),
          ("defaults", .table source (s.defaults.members source)),
          ("profiles", .table source (Datum.mergeMembers []
            (Datum.ofTomlMembers source (profileMembers s.profiles.entries))))] := by
  have hdefaults := Defaults.ofTomlMembers_defaultPairs source s.defaults
  have hmembers : Datum.ofToml source (.table (fileMembersIn name s s.profiles.entries)) =
      .table source
        [("default_profile", .text source name),
          ("defaults", .table source (s.defaults.members source)),
          ("profiles", .table source
            (Datum.ofTomlMembers source (profileMembers s.profiles.entries)))] := by
    simp only [fileMembersIn, Datum.ofToml, Datum.ofTomlMembers, insertNamed, hdefaults,
      String.reduceLT, String.reduceEq, if_true, if_false]
  rw [hmembers]
  simp only [builtin, Defaults.members, Datum.merge, Datum.mergeMembers, insertNamed,
    List.lookup_cons, String.reduceLT, String.reduceEq, String.reduceBEq, if_true, if_false]

/-- **The settings that a file holds**, laid over the built-in ones, are those that were written. -/
theorem ofDatum_written {s : Settings} {name : String} (hname : s.defaultProfile = some name)
    (source : Source) {environment : Environment}
    (hsilent : environment.settings = .table .environment []) :
    ofDatum ((builtin.merge
      (Datum.ofToml source (.table (fileMembersIn name s s.profiles.entries)))).merge
      environment.settings) = .ok s := by
  have hmerge : ∀ members, (Datum.table source members).merge (.table .environment []) =
      .table .environment members := by
    intro members
    rw [Datum.merge, Datum.mergeMembers]
  have hread : ∀ source, readMembers entries { defaultProfile := none }
      [("default_profile", .text source name),
        ("defaults", .table source (s.defaults.members source)),
        ("profiles", .table source (Datum.mergeMembers []
          (Datum.ofTomlMembers source (profileMembers s.profiles.entries))))] = .ok s := by
    intro source
    have htext : Datum.asText "a string" (.text source name) = .ok name := rfl
    rw [readMembers_cons rfl (Entry.read_of htext _),
      readMembers_cons rfl (Entry.read_of (s.defaults.readRecord_members source) _),
      readMembers_cons rfl (Entry.read_of (asProfiles_written source s.profiles) _), ← hname]
    rfl
  rw [merge_written, hsilent, hmerge, ofDatum, readRecord, hread]
  rfl

theorem textOfBytes?_toUTF8 (text : String) : textOfBytes? text.toUTF8.toList = some text := by
  unfold textOfBytes?
  rw [Utf8.toArray_toList]
  exact dif_pos text.isValidUTF8

theorem ofToml_fileMembersIn (source : Source) (name : String) (s : Settings)
    {profiles : List (String × Profile)} (horder : profiles.Perm s.profiles.entries) :
    Datum.ofToml source (.table (fileMembersIn name s profiles)) =
      Datum.ofToml source (.table (fileMembersIn name s s.profiles.entries)) := by
  have hnames (profiles : List (String × Profile)) :
      (profileMembers profiles).map (·.1) = profiles.map (·.1) := by
    simp [profileMembers]
  have hdistinct : ((profileMembers s.profiles.entries).map (·.1)).Nodup := by
    rw [hnames]
    exact InOrder.nodup s.profiles.sorted
  have hperm : (profileMembers profiles).Perm (profileMembers s.profiles.entries) := horder.map _
  have hdata : Datum.ofTomlMembers source (profileMembers profiles) =
      Datum.ofTomlMembers source (profileMembers s.profiles.entries) :=
    Datum.ofTomlMembers_eq_of_perm source hperm hdistinct
  simp only [fileMembersIn, Datum.ofToml, Datum.ofTomlMembers, hdata]

theorem fileDatum_textIn {s : Settings} {name : String} (hname : s.defaultProfile = some name)
    (hfits : ∀ n ∈ s.timeouts, n < 1 <<< 63) {profiles : List (String × Profile)}
    (horder : profiles.Perm s.profiles.entries) (shown : String) :
    fileDatum shown (s.textIn profiles).toUTF8.toList =
      .ok (Datum.ofToml (.file shown) (.table (fileMembersIn name s s.profiles.entries))) := by
  unfold fileDatum
  simp only [textOfBytes?_toUTF8, parse_textIn hname hfits horder]
  rw [ofToml_fileMembersIn _ name s horder]

theorem ofLayers_none (shown : String) (environment : Environment) :
    ofLayers shown none environment =
      (ofDatum (builtin.merge environment.settings)).mapError (.unreadable <| .misfit ·) := by
  have hbind (d : Datum) (next : Datum → Except SettingsError Settings) :
      (.ok d >>= next) = next d := rfl
  unfold ofLayers
  simp only [hbind]
  cases ofDatum (builtin.merge environment.settings) with
  | ok s => rfl
  | error m => rfl

theorem ofLayers_some {shown : String} {bytes : List UInt8} {d : Datum}
    (hfile : fileDatum shown bytes = .ok d) (environment : Environment) :
    ofLayers shown (some bytes) environment =
      (ofDatum ((builtin.merge d).merge environment.settings)).mapError
        (.unreadable <| .misfit ·) := by
  have hbind (d : Datum) (next : Datum → Except SettingsError Settings) :
      (.ok d >>= next) = next d := rfl
  unfold ofLayers
  simp only [hfile, hbind]
  cases ofDatum ((builtin.merge d).merge environment.settings) with
  | ok s => rfl
  | error m => rfl

/-- **Settings are read as they are written** if they name their default profile and the environment
sets nothing, in whatever order the profiles are. -/
theorem ofLayers_textIn {s : Settings} (hname : s.defaultProfile.isSome)
    (hfits : ∀ n ∈ s.timeouts, n < 1 <<< 63) {profiles : List (String × Profile)}
    (horder : profiles.Perm s.profiles.entries) (shown : String) {environment : Environment}
    (hsilent : environment.settings = .table .environment []) :
    ofLayers shown (some (s.textIn profiles).toUTF8.toList) environment = .ok s := by
  obtain ⟨name, hname⟩ := Option.isSome_iff_exists.mp hname
  rw [ofLayers_some (fileDatum_textIn hname hfits horder shown),
    ofDatum_written hname (.file shown) hsilent]
  rfl

theorem ofLayers_written {s : Settings} {text : String} (hname : s.defaultProfile.isSome)
    (hwritten : s.written? = some text) (shown : String) {environment : Environment}
    (hsilent : environment.settings = .table .environment []) :
    ofLayers shown (some text.toUTF8.toList) environment = .ok s := by
  obtain ⟨hfits, rfl⟩ := of_written? hwritten
  exact ofLayers_textIn hname hfits (.refl _) shown hsilent

end Settings

end MangaReader

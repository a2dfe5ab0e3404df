import MangaReader.Proofs.Settings.Named
import MangaReader.Settings.Store

/-!
# Records are read in any order

The members of a table come in the order of their names, whichever order they were written in. A
record is the same in either, since each field sets what no other field does.

* `Entry.Apart` : two fields of which each sets something else.
* `readMembers_perm` : members in another order.
* `readMembers_pair?` : a member that may be missing.
* `Profile.readRecord_profilePairs`, `Defaults.readRecord_members` : the tables of a profile and of
  the defaults.
-/

namespace MangaReader

variable {σ : Type}

namespace Entry

theorem of_read_eq_ok {α : Type} {name : String} {optional : Bool} {read : Reading α}
    {set : σ → α → σ} {d : Datum} {s t : σ}
    (h : (Entry.of name optional read set).read d s = .ok t) :
    ∃ a, read d = .ok a ∧ set s a = t := by
  unfold Entry.of at h
  simp only at h
  cases hread : read d with
  | error m =>
    rw [hread] at h
    cases h
  | ok a =>
    rw [hread] at h
    exact ⟨a, rfl, Except.ok.inj h⟩

theorem read_of {α : Type} {name : String} {optional : Bool} {read : Reading α} {set : σ → α → σ}
    {d : Datum} {a : α} (h : read d = .ok a) (s : σ) :
    (Entry.of name optional read set).read d s = .ok (set s a) := by
  unfold Entry.of
  simp only [h]
  rfl

/-- Two fields of which each sets something else. -/
def Apart (e e' : Entry σ) : Prop :=
  ∀ d d' s t u, e.read d s = .ok t → e'.read d' t = .ok u →
    ∃ t', e'.read d' s = .ok t' ∧ e.read d t' = .ok u

theorem apart_of {α β : Type} {name name' : String} {optional optional' : Bool} {read : Reading α}
    {read' : Reading β} {set : σ → α → σ} {set' : σ → β → σ}
    (h : ∀ s a b, set' (set s a) b = set (set' s b) a) :
    Apart (Entry.of name optional read set) (Entry.of name' optional' read' set') := by
  intro d d' s t u ht hu
  obtain ⟨a, ha, rfl⟩ := of_read_eq_ok ht
  obtain ⟨b, hb, rfl⟩ := of_read_eq_ok hu
  exact ⟨set' s b, read_of hb s, by rw [h]; exact read_of ha _⟩

end Entry

/-! ## The order of the members -/

theorem readMembers_swap {entries : List (Entry σ)}
    (hapart : ∀ e ∈ entries, ∀ e' ∈ entries, e.name ≠ e'.name → e.Apart e') {p q : String × Datum}
    (hne : p.1 ≠ q.1) {rest : List (String × Datum)} {s t : σ}
    (h : readMembers entries s (p :: q :: rest) = .ok t) :
    readMembers entries s (q :: p :: rest) = .ok t := by
  obtain ⟨name, d⟩ := p
  obtain ⟨name', d'⟩ := q
  simp only [readMembers] at h ⊢
  cases hfind : entries.find? (·.name = name) with
  | none => simpa only [hfind] using h
  | some e =>
    cases hfind' : entries.find? (·.name = name') with
    | none => simpa only [hfind, hfind'] using h
    | some e' =>
      simp only [hfind, hfind'] at h ⊢
      have hname : e.name = name := by simpa using List.find?_some hfind
      have hname' : e'.name = name' := by simpa using List.find?_some hfind'
      cases hread : e.read d s with
      | error m => simp [hread] at h
      | ok s' =>
        simp only [hread] at h
        cases hread' : e'.read d' s' with
        | error m => simp [hread'] at h
        | ok s'' =>
          simp only [hread'] at h
          obtain ⟨between, hfirst, hsecond⟩ :=
            hapart e (List.mem_of_find?_eq_some hfind) e' (List.mem_of_find?_eq_some hfind')
              (by rw [hname, hname']; exact hne) d d' s s' s'' hread hread'
          simp only [hfirst, hsecond]
          exact h

theorem readMembers_perm {entries : List (Entry σ)}
    (hapart : ∀ e ∈ entries, ∀ e' ∈ entries, e.name ≠ e'.name → e.Apart e')
    {members members' : List (String × Datum)} (hperm : members.Perm members')
    (hnodup : (members.map (·.1)).Nodup) {s t : σ} (h : readMembers entries s members = .ok t) :
    readMembers entries s members' = .ok t := by
  induction hperm generalizing s with
  | nil => exact h
  | @cons p front back _ ih =>
    rw [List.map_cons, List.nodup_cons] at hnodup
    obtain ⟨name, d⟩ := p
    rw [readMembers] at h ⊢
    cases hfind : entries.find? (·.name = name) with
    | none =>
      simp only [hfind] at h ⊢
      exact ih hnodup.2 h
    | some e =>
      simp only [hfind] at h ⊢
      cases hread : e.read d s with
      | error m => simp [hread] at h
      | ok s' =>
        simp only [hread] at h ⊢
        exact ih hnodup.2 h
  | swap p q rest =>
    refine readMembers_swap hapart ?_ h
    rw [List.map_cons, List.map_cons, List.nodup_cons] at hnodup
    exact fun heq => hnodup.1 (heq ▸ List.mem_cons_self)
  | trans hfront _ ih ih' => exact ih' ((hfront.map (·.1)).nodup hnodup) (ih hnodup h)

/-! ## The members of a profile -/

theorem readMembers_cons {entries : List (Entry σ)} {name : String} {e : Entry σ} {d : Datum}
    {s t : σ} (hfind : entries.find? (·.name = name) = some e) (hread : e.read d s = .ok t)
    (rest : List (String × Datum)) :
    readMembers entries s ((name, d) :: rest) = readMembers entries t rest := by
  rw [readMembers, hfind]
  simp only [hread]

theorem readMembers_member {entries : List (Entry σ)} {name : String} {e : Entry σ} {s t : σ}
    (source : Source) (v : Toml.Value) {rest : List (String × Toml.Value)}
    (hfind : entries.find? (·.name = name) = some e)
    (hread : e.read (Datum.ofToml source v) s = .ok t) :
    readMembers entries s (Datum.members source ((name, v) :: rest)) =
      readMembers entries t (Datum.members source rest) :=
  readMembers_cons hfind hread _

theorem readMembers_pair? {α : Type} {entries : List (Entry σ)} {name : String} {e : Entry σ}
    {s : σ} {a : Option α} {rest : List (String × Toml.Value)} (source : Source)
    (value : α → Toml.Value) (set : σ → Option α → σ)
    (hfind : entries.find? (·.name = name) = some e)
    (hread : ∀ a, e.read (Datum.ofToml source (value a)) s = .ok (set s (some a)))
    (hnone : set s none = s) :
    readMembers entries s (Datum.members source (Settings.pair? name value a ++ rest)) =
      readMembers entries (set s a) (Datum.members source rest) := by
  cases a with
  | none => rw [hnone]; rfl
  | some a => exact readMembers_member source (value a) hfind (hread a)

theorem asCount_natCast (source : Source) (n : Nat) :
    Datum.asCount (Datum.ofToml source (Settings.count n)) = .ok n := by
  show Datum.asCount (.number source (.signed n)) = _
  simp [Datum.asCount]

theorem asSite_name (source : Source) (site : Site) :
    Datum.asSite (Datum.ofToml source (.text site.name)) = .ok site := by
  cases site with
  | manhuaren => rfl
  | copymanga => rfl
  | mangabat => rfl

namespace Profile

theorem entries_apart : ∀ e ∈ entries, ∀ e' ∈ entries, e.name ≠ e'.name → e.Apart e' := by
  intro e he e' he' hne
  simp only [entries, List.mem_cons, List.not_mem_nil, or_false] at he he'
  rcases he with rfl | rfl | rfl | rfl | rfl | rfl | rfl | rfl | rfl | rfl | rfl <;>
    rcases he' with rfl | rfl | rfl | rfl | rfl | rfl | rfl | rfl | rfl | rfl | rfl <;>
    first | exact absurd rfl hne | exact Entry.apart_of fun _ _ _ => rfl

theorem readMembers_profilePairs (source : Source) (p : Profile) :
    readMembers entries {} (Datum.members source (Settings.profilePairs p)) = .ok p := by
  simp only [Settings.profilePairs, List.append_assoc, List.cons_append, List.nil_append]
  rw [readMembers_member source (.text p.server) rfl rfl]
  dsimp only
  rw [readMembers_member source (.text p.site.name) rfl
    (Entry.read_of (asSite_name source p.site) _)]
  dsimp only
  rw [readMembers_pair? source .text (fun s a => { s with publicPath := a }) rfl (fun _ => rfl) rfl]
  dsimp only
  rw [readMembers_pair? source .text (fun s a => { s with storagePath := a }) rfl (fun _ => rfl)
    rfl]
  dsimp only
  rw [readMembers_pair? source .text (fun s a => { s with cookie := a }) rfl (fun _ => rfl) rfl]
  dsimp only
  rw [readMembers_pair? source .text (fun s a => { s with cookieVariable := a }) rfl (fun _ => rfl)
    rfl]
  dsimp only
  rw [readMembers_pair? source .text (fun s a => { s with caFile := a }) rfl (fun _ => rfl) rfl]
  dsimp only
  rw [readMembers_pair? source .flag (fun s a => { s with insecure := a }) rfl (fun _ => rfl) rfl]
  dsimp only
  rw [readMembers_pair? source Settings.count (fun s a => { s with timeout := a }) rfl
    (fun n => Entry.read_of (asCount_natCast source n) _) rfl]
  dsimp only
  rw [readMembers_pair? source Settings.count (fun s a => { s with streamTimeout := a }) rfl
    (fun n => Entry.read_of (asCount_natCast source n) _) rfl]
  dsimp only
  rw [← List.append_nil (Settings.pair? "record_history" _ _),
    readMembers_pair? source .flag (fun s a => { s with recordHistory := a }) rfl (fun _ => rfl)
      rfl]
  rfl

theorem profilePairs_sublist (p : Profile) :
    ((Settings.profilePairs p).map (·.1)).Sublist
      ["server", "site", "public_prefix", "storage_prefix", "session_cookie", "session_cookie_env",
        "ca_cert", "insecure", "timeout", "stream_timeout", "record_history"] := by
  have hpair : ∀ {α : Type} (name : String) (value : α → Toml.Value) (a : Option α),
      ((Settings.pair? name value a).map (·.1)).Sublist [name] := by
    intro α name value a
    cases a with
    | none => exact List.nil_sublist _
    | some a => exact List.Sublist.refl _
  simp only [Settings.profilePairs, List.map_append]
  exact ((((((((((List.Sublist.refl ["server", "site"]).append (hpair _ _ _)).append
    (hpair _ _ _)).append (hpair _ _ _)).append (hpair _ _ _)).append (hpair _ _ _)).append
    (hpair _ _ _)).append (hpair _ _ _)).append (hpair _ _ _)).append (hpair _ _ _))

theorem nodup_profilePairs (p : Profile) : ((Settings.profilePairs p).map (·.1)).Nodup :=
  (profilePairs_sublist p).nodup (by decide)

theorem readRecord_profilePairs (source : Source) (p : Profile) :
    readRecord "Profile" entries ["server"] {}
      (.table source (Datum.ofTomlMembers source (Settings.profilePairs p))) = .ok p := by
  have hperm := Datum.ofTomlMembers_perm source (nodup_profilePairs p)
  have hnodup : ((Datum.members source (Settings.profilePairs p)).map (·.1)).Nodup := by
    rw [Datum.map_fst_members]
    exact nodup_profilePairs p
  have hread := readMembers_perm entries_apart hperm.symm hnodup (readMembers_profilePairs source p)
  have hserver :
      (Datum.ofTomlMembers source (Settings.profilePairs p)).any (·.1 = "server") = true := by
    rw [List.any_eq_true]
    exact ⟨("server", _), hperm.mem_iff.mpr List.mem_cons_self, rfl⟩
  rw [readRecord, hread]
  simp [hserver]

end Profile

/-! ## The members of the defaults -/

namespace Defaults

def members (source : Source) (d : Defaults) : List (String × Datum) :=
  [("color", .text source d.color), ("insecure", .flag source d.insecure),
    ("output", .text source d.output), ("stream_timeout", .number source (.signed d.streamTimeout)),
    ("timeout", .number source (.signed d.timeout))]

theorem ofTomlMembers_defaultPairs (source : Source) (d : Defaults) :
    Datum.ofTomlMembers source (Settings.defaultPairs d) = d.members source := by
  simp only [Settings.defaultPairs, Datum.ofTomlMembers, insertNamed, Datum.ofToml, Settings.count,
    members, String.reduceLT, String.reduceEq, if_true, if_false]

theorem readRecord_members (source : Source) (d : Defaults) :
    readRecord "Defaults" entries [] {} (.table source (d.members source)) = .ok d := by
  have hcount : ∀ n : Nat, Datum.asCount (.number source (.signed n)) = .ok n :=
    asCount_natCast source
  simp [members, readRecord, entries, readMembers, Entry.of, Datum.asText, Datum.asFlag, hcount,
    Except.map]

end Defaults

end MangaReader

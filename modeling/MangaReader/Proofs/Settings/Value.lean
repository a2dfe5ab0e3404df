import MangaReader.Proofs.Settings.Assign

/-!
# The value of one key

A key has values of one kind: a text, a site, a truth value or a number of seconds.

* `SettingValue`, `SettingKey.parse?` : the value that a text stands for under a key.
* `Profile.value?`, `Profile.value?_assign` : the value of a key in a profile, and in one on which
  it was set.
* `Profile.Served`, `Profile.served_of_checked` : a profile whose backend can be asked, if it names
  one.
* `SettingKey.spelled_of_ofName?` : how a key is spelled.
-/

namespace MangaReader

inductive SettingValue where
  | text (s : String)
  | site (s : Site)
  | flag (b : Bool)
  | seconds (n : Nat)
  deriving DecidableEq, Repr

namespace SettingKey

/-- The value that a text stands for under a key, if it stands for one. -/
def parse? (key : SettingKey) (text : String) : Option SettingValue :=
  match key with
  | .server | .publicPath | .storagePath | .cookie | .cookieVariable | .caFile => some (.text text)
  | .site => (Site.ofName? text).map .site
  | .insecure | .recordHistory => (Profile.flag? text).map .flag
  | .timeout | .streamTimeout => (Text.natural? (1 <<< 64) text).map .seconds

theorem spelled_of_ofName? {name : String} {key : SettingKey} (h : ofName? name = some key) :
    key ∈ all ∧ (name = key.name ∨ name = key.hyphenated) := by
  have hname := List.find?_some h
  rw [Bool.or_eq_true, decide_eq_true_eq, decide_eq_true_eq] at hname
  exact ⟨List.mem_of_find?_eq_some h, hname.imp Eq.symm Eq.symm⟩

end SettingKey

namespace Profile

def value? (p : Profile) : SettingKey → Option SettingValue
  | .server => some (.text p.server)
  | .site => some (.site p.site)
  | .publicPath => p.publicPath.map .text
  | .storagePath => p.storagePath.map .text
  | .cookie => p.cookie.map .text
  | .cookieVariable => p.cookieVariable.map .text
  | .caFile => p.caFile.map .text
  | .insecure => p.insecure.map .flag
  | .recordHistory => p.recordHistory.map .flag
  | .timeout => p.timeout.map .seconds
  | .streamTimeout => p.streamTimeout.map .seconds

theorem eq_some_of_readUnder {α : Type} {key : SettingKey} {wanted : String} {value : Option α}
    {a : α} (h : readUnder key wanted value = .ok a) : value = some a := by
  cases value with
  | none => cases h
  | some b => rw [Except.ok.inj h]

theorem value?_assign {p p' : Profile} {key : SettingKey} {text : String}
    (h : p.assign key text = .ok p') :
    ∃ v, key.parse? text = some v ∧ p'.value? key = some v := by
  cases key with
  | server | publicPath | storagePath | cookie | cookieVariable | caFile =>
    obtain rfl := Except.ok.inj h
    exact ⟨.text text, rfl, rfl⟩
  | site | insecure | recordHistory | timeout | streamTimeout =>
    obtain ⟨a, hread, rfl⟩ := map_eq_ok h
    exact ⟨_, by rw [SettingKey.parse?, eq_some_of_readUnder hread, Option.map_some], rfl⟩

/-- Whether a profile names no backend, or one that can be asked over HTTP. -/
def Served (p : Profile) : Prop :=
  p.server = "" ∨ ∃ url, Url.parse p.server = .ok url ∧ (url.scheme = "http" ∨ url.scheme = "https")

theorem address_eq_ok_iff {p : Profile} {url : Url} :
    p.address = .ok url ↔
      Url.parse p.server = .ok url ∧ (url.scheme = "http" ∨ url.scheme = "https") := by
  have hweb (url : Url) : url.isWeb = true ↔ url.scheme = "http" ∨ url.scheme = "https" := by
    simp [Url.isWeb]
  unfold address
  cases hparse : Url.parse p.server with
  | error fault => simp
  | ok parsed =>
    simp only [← hweb, Except.ok.injEq]
    split
    · rename_i h
      constructor
      · rintro heq
        cases heq
        exact ⟨rfl, h⟩
      · rintro ⟨rfl, -⟩
        rfl
    · rename_i h
      refine ⟨nofun, ?_⟩
      rintro ⟨rfl, h'⟩
      exact absurd h' h

theorem served_of_checked {p p' : Profile} (h : p.checked = .ok p') : p.Served := by
  unfold checked at h
  split at h
  · rename_i hempty
    exact .inl (String.isEmpty_iff.mp hempty)
  · obtain ⟨url, haddress, -⟩ := map_eq_ok h
    exact .inr ⟨url, address_eq_ok_iff.mp haddress⟩

end Profile

end MangaReader

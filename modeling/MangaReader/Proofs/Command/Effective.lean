import MangaReader.Command.Options
import MangaReader.Proofs.Backend.Sent
import MangaReader.Proofs.Settings.Sources
import MangaReader.Proofs.Settings.Value
import MangaReader.Proofs.Url.Web

/-!
# The settings in effect

The settings of a reader come from the options of the command line, from the environment, from the
keyring, from the profile that is meant, from what holds for all profiles and from what is built in.
Each of them has sources of its own, one above the other.

* `Sources`, `Options.sources` : what every source says.
* `Sources.settings`, `Options.readerSettingsUnder_eq` : the settings that the sources come to.
* `Sources.SameEffect` : sources that differ at most in what is overridden.
* `Options.onWeb_of_connect` : the library that they lead to is at a web address.
* `settings_in_effect` : when there are settings of a reader, what they are, and that nothing that
  is overridden matters.
-/

namespace MangaReader.Command

/-- What every source says of the settings of a reader, the highest source first. -/
structure Sources where
  server : List (Option String)
  trust : List (Option Trust)
  /-- Seconds. -/
  timeout : List (Option Nat)
  /-- Seconds. -/
  streamTimeout : List (Option Nat)
  cookie : List (Option String)
  storagePath : List (Option String)
  publicPath : List (Option String)
  recordHistory : List (Option Bool)
  /-- The failure if no source names a backend. -/
  unnamed : CommandError

namespace Sources

def named (x : Sources) : Except CommandError String :=
  match firstSaid x.server with
  | some server => .ok server
  | none => .error x.unnamed

def readerAt (x : Sources) (manga : Int) (server : Url) : ReaderSettings :=
  let builtin : AssetPaths := {}
  { server, manga
    access := {
      trust := (firstSaid x.trust).getD .system
      timeout := 1000 * (firstSaid x.timeout).getD 0
      cookie := firstSaid x.cookie }
    streamTimeout := 1000 * (firstSaid x.streamTimeout).getD 0
    assets := ⟨(firstSaid x.storagePath).getD builtin.storage,
      (firstSaid x.publicPath).getD builtin.served⟩
    recordHistory := (firstSaid x.recordHistory).getD true }

def settings (x : Sources) (manga : Int) : Except CommandError ReaderSettings :=
  x.named.bind fun server =>
    (({ server } : Profile).address.mapError .ofSettings).map (x.readerAt manga)

/-- Sources that differ at most in what is overridden by a higher one. -/
structure SameEffect (x y : Sources) : Prop where
  server : SameAbove x.server y.server
  trust : SameAbove x.trust y.trust
  timeout : SameAbove x.timeout y.timeout
  streamTimeout : SameAbove x.streamTimeout y.streamTimeout
  cookie : SameAbove x.cookie y.cookie
  storagePath : SameAbove x.storagePath y.storagePath
  publicPath : SameAbove x.publicPath y.publicPath
  recordHistory : SameAbove x.recordHistory y.recordHistory
  unnamed : firstSaid x.server = none → x.unnamed = y.unnamed

theorem settings_eq_ok_iff {x : Sources} {manga : Int} {r : ReaderSettings} :
    x.settings manga = .ok r ↔
      ∃ server url, firstSaid x.server = some server ∧ Url.parse server = .ok url ∧
        (url.scheme = "http" ∨ url.scheme = "https") ∧ x.readerAt manga url = r := by
  have hnamed (server : String) : x.named = .ok server ↔ firstSaid x.server = some server := by
    unfold named
    cases firstSaid x.server <;> simp
  have haddress (server : String) (url : Url) :
      (({ server } : Profile).address.mapError CommandError.ofSettings) = .ok url ↔
        Url.parse server = .ok url ∧ (url.scheme = "http" ∨ url.scheme = "https") := by
    rw [mapError_eq_ok_iff, Profile.address_eq_ok_iff]
  simp only [settings, bind_eq_ok_iff, map_eq_ok_iff, hnamed, haddress, and_assoc, exists_and_left]

theorem SameEffect.named_eq {x y : Sources} (h : x.SameEffect y) : x.named = y.named := by
  have hserver := h.server.firstSaid_eq
  unfold named
  cases hfirst : firstSaid x.server with
  | none => simp only [← hserver, hfirst, h.unnamed hfirst]
  | some server => simp only [← hserver, hfirst]

theorem SameEffect.settings_eq {x y : Sources} (h : x.SameEffect y) (manga : Int) :
    x.settings manga = y.settings manga := by
  have hreader (server : Url) : x.readerAt manga server = y.readerAt manga server := by
    unfold readerAt
    rw [h.trust.firstSaid_eq, h.timeout.firstSaid_eq, h.streamTimeout.firstSaid_eq,
      h.cookie.firstSaid_eq, h.storagePath.firstSaid_eq, h.publicPath.firstSaid_eq,
      h.recordHistory.firstSaid_eq]
  simp only [settings, h.named_eq, funext hreader]

end Sources

namespace Options

def sources (o : Options) (m : Machine) (s : Settings) : Sources :=
  let name := o.profileName s
  let p := (s.profiles.get? name).getD {}
  { server := [o.server, (s.profiles.get? name).map (·.server)]
    trust :=
      [if o.insecure then some .insecure else none,
        if p.insecure.getD s.defaults.insecure then some .insecure else none,
        p.caFile.map .customCa]
    timeout := [o.timeout, p.timeout, some s.defaults.timeout]
    streamTimeout := [o.streamTimeout, p.streamTimeout, some s.defaults.streamTimeout]
    cookie :=
      [o.cookie, m.environment.get? (p.cookieVariable.getD Profile.cookieVariableOfAll),
        m.keyring.get? name, p.cookie]
    storagePath := [p.storagePath]
    publicPath := [p.publicPath]
    recordHistory := [p.recordHistory]
    unnamed :=
      if o.profile.isSome then .profileNotFound name s.available
      else .noSettings m.settingsPath }

variable (o : Options) (m : Machine) (s : Settings)

/-- The profile that is meant, blank if there is none, with a backend. -/
def profileAt (server : String) : Profile :=
  { (s.profiles.get? (o.profileName s)).getD {} with server }

theorem profileIn_eq :
    (o.profileIn m s).map (fun p => { p with server := o.server.getD p.server }) =
      (o.sources m s).named.map (o.profileAt s) := by
  unfold profileIn profileAt
  simp only [Sources.named, sources, firstSaid_cons, firstSaid_nil, Option.or_none]
  cases s.profiles.get? (o.profileName s) with
  | some p => cases o.server <;> rfl
  | none =>
    cases o.server with
    | some server => rfl
    | none =>
      simp only [Option.map_none, Option.or_none]
      split <;> rfl

theorem firstSaid_trust (insecure unchecked : Bool) (caFile : Option String) :
    (firstSaid
      [if insecure then some .insecure else none, if unchecked then some .insecure else none,
        caFile.map .customCa]).getD .system =
      if insecure || unchecked then .insecure else (caFile.map .customCa).getD Trust.system := by
  cases insecure with
  | true => rfl
  | false =>
    cases unchecked with
    | true => rfl
    | false => cases caFile <;> rfl

theorem trust_overlay (p : Profile) (d : Defaults) :
    (if o.insecure then .insecure else p.trust d) =
      (firstSaid
        [if o.insecure then some .insecure else none,
          if p.insecure.getD d.insecure then some .insecure else none,
          p.caFile.map .customCa]).getD .system := by
  rw [firstSaid_trust, Profile.trust]
  cases o.insecure with
  | true => rfl
  | false => cases p.caFile <;> rfl

theorem firstSaid_seconds (given set : Option Nat) (fallback : Nat) :
    (firstSaid [given, set, some fallback]).getD 0 = (firstSaid [given, set]).getD fallback := by
  cases given with
  | some n => rfl
  | none => cases set <;> rfl

theorem seconds_overlay (given set : Option Nat) (fallback : Nat) :
    (given.map (1000 * ·)).getD (1000 * set.getD fallback) =
      1000 * (firstSaid [given, set, some fallback]).getD 0 := by
  rw [firstSaid_seconds]
  cases given with
  | some n => rfl
  | none => cases set <;> rfl

theorem cookie_overlay (p : Profile) (name : String) :
    o.cookie.or (p.cookieOn m name) =
      firstSaid
        [o.cookie, m.environment.get? (p.cookieVariable.getD Profile.cookieVariableOfAll),
          m.keyring.get? name, p.cookie] := by
  simp only [firstSaid_cons, firstSaid_nil, Option.or_none, Profile.cookieOn, Option.or_assoc]

/-- **What the options lay over the settings of a profile** is what the sources come to. -/
theorem overlay_readerSettings (server : String) (manga : Int) :
    ((o.profileAt s server).readerSettings m (o.profileName s) s.defaults manga).map o.overlay =
      ({ server } : Profile).address.map ((o.sources m s).readerAt manga) := by
  have haddress : (o.profileAt s server).address = ({ server } : Profile).address := rfl
  unfold Profile.readerSettings
  rw [haddress]
  cases ({ server } : Profile).address with
  | error e => rfl
  | ok url =>
    simp only [Bind.bind, Except.bind, Pure.pure, Except.pure, Except.map, overlay, trust_overlay,
      seconds_overlay, cookie_overlay, Sources.readerAt, sources, firstSaid_singleton]
    rfl

theorem readerSettingsUnder_eq (manga : Int) :
    o.readerSettingsUnder m s manga = (o.sources m s).settings manga := by
  have hprofile := o.profileIn_eq m s
  unfold readerSettingsUnder Sources.settings
  cases hnamed : (o.sources m s).named with
  | error e =>
    rw [hnamed] at hprofile
    rw [map_eq_error_iff.mp hprofile]
    rfl
  | ok server =>
    rw [hnamed] at hprofile
    obtain ⟨p, hin, hp⟩ := map_eq_ok hprofile
    have hoverlay := congrArg (Except.mapError CommandError.ofSettings)
      (o.overlay_readerSettings m s server manga)
    simp only [hin, hp, Bind.bind, Except.bind]
    generalize (o.profileAt s server).readerSettings m (o.profileName s) s.defaults manga = r
      at hoverlay ⊢
    generalize ({ server } : Profile).address = url at hoverlay ⊢
    cases r <;> cases url <;> exact hoverlay

theorem firstSaid_server :
    firstSaid (o.sources m s).server =
      if (s.profiles.get? (o.profileName s)).isSome ∨ o.server.isSome then
        some (o.server.getD ((s.profiles.get? (o.profileName s)).getD {}).server)
      else none := by
  simp only [sources, firstSaid_cons, firstSaid_nil, Option.or_none]
  cases o.server <;> cases s.profiles.get? (o.profileName s) <;> rfl

variable {o : Options} {m : Machine} {manga : Int} {r : ReaderSettings} {library : Library}

theorem onWeb_of_connect (hsettings : o.readerSettings m manga = .ok r)
    (hlibrary : Library.connect m.files r.access r.assets r.server = .ok library) :
    library.client.OnWeb ∧ library.client.base.origin = r.server.origin := by
  rw [readerSettings, readerSettingsUnder_eq, Sources.settings_eq_ok_iff] at hsettings
  obtain ⟨text, url, -, hparse, hscheme, rfl⟩ := hsettings
  have hweb : url.isWeb = true := by simpa [Url.isWeb] using hscheme
  exact Library.onWeb_of_connect hweb (Url.segments_of_parse hparse hweb) hlibrary

end Options

/-- **The settings in effect.** Let the profile that is meant be the one that the options name, else
the default one; if there is no such profile, a blank one stands in for it. There are settings of a
reader if and only if there is the profile or the options name a backend, and the backend, which is
the options' or else the profile's, can be asked over HTTP. Times are the options', else the
profile's, else those for all profiles. No certificate is wanted if the options say so, or the
profile, which else leaves it to what holds for all profiles; otherwise the profile's file of
certificates counts, else the system. The cookie is the options', else that of the variable that the
profile names, else that in the keyring under its name, else the profile's own. The rest is the
profile's, else built in. So whatever differs only where a higher source overrides it has the same
settings, or the same failure. -/
theorem settings_in_effect (o : Options) (m : Machine) (s : Settings) (manga : Int) :
    let name := (firstSaid [o.profile, s.defaultProfile]).getD "default"
    let p := (s.profiles.get? name).getD {}
    let server := o.server.getD p.server
    ((∃ r, o.readerSettingsUnder m s manga = .ok r) ↔
      ((s.profiles.get? name).isSome ∨ o.server.isSome) ∧
        ∃ url, Url.parse server = .ok url ∧ (url.scheme = "http" ∨ url.scheme = "https")) ∧
    (∀ r, o.readerSettingsUnder m s manga = .ok r →
      Url.parse server = .ok r.server ∧ r.manga = manga ∧
      r.access.timeout = 1000 * (firstSaid [o.timeout, p.timeout]).getD s.defaults.timeout ∧
      r.streamTimeout =
        1000 * (firstSaid [o.streamTimeout, p.streamTimeout]).getD s.defaults.streamTimeout ∧
      r.access.trust =
        (if o.insecure || p.insecure.getD s.defaults.insecure then .insecure
        else (p.caFile.map .customCa).getD .system) ∧
      r.access.cookie =
        firstSaid [o.cookie, m.environment.get? (p.cookieVariable.getD "MANGAVIEW_SESSION_COOKIE"),
          m.keyring.get? name, p.cookie] ∧
      r.assets = ⟨p.storagePath.getD "/downloaded", p.publicPath.getD "/static"⟩ ∧
      r.recordHistory = p.recordHistory.getD true) ∧
    ∀ (o' : Options) (m' : Machine) (s' : Settings),
      (o.sources m s).SameEffect (o'.sources m' s') →
        o'.readerSettingsUnder m' s' manga = o.readerSettingsUnder m s manga := by
  intro name p server
  have hname : name = o.profileName s := by
    simp only [name, firstSaid_cons, firstSaid_nil, Option.or_none]
    rfl
  have hserver := o.firstSaid_server m s
  rw [← hname] at hserver
  refine ⟨?_, fun r hr => ?_, fun o' m' s' h => ?_⟩
  · simp only [o.readerSettingsUnder_eq, Sources.settings_eq_ok_iff, hserver]
    constructor
    · rintro ⟨r, text, url, hfirst, hparse, hweb, -⟩
      split at hfirst
      · rename_i hnamed
        obtain rfl := Option.some.inj hfirst
        exact ⟨hnamed, url, hparse, hweb⟩
      · cases hfirst
    · rintro ⟨hnamed, url, hparse, hweb⟩
      exact ⟨_, server, url, if_pos hnamed, hparse, hweb, rfl⟩
  · rw [o.readerSettingsUnder_eq, Sources.settings_eq_ok_iff, hserver] at hr
    obtain ⟨text, url, hfirst, hparse, -, rfl⟩ := hr
    split at hfirst
    · obtain rfl := Option.some.inj hfirst
      simp only [Sources.readerAt, Options.sources, ← hname, Options.firstSaid_seconds,
        Options.firstSaid_trust, firstSaid_singleton]
      exact ⟨hparse, trivial, rfl, rfl, rfl, rfl, rfl, rfl⟩
    · cases hfirst
  · rw [o.readerSettingsUnder_eq, o'.readerSettingsUnder_eq, h.settings_eq]

/-! ### Everything overridden -/

def outspoken : Options where
  server := some "https://reader/"
  cookie := some "session=1"
  insecure := true
  timeout := some 5
  streamTimeout := some 9

/-- A profile all of whose settings those options override. -/
def silenced : Profile where
  server := "ftp://elsewhere/"
  cookie := some "session=2"
  cookieVariable := some "COOKIE"
  caFile := some "/ca.pem"
  insecure := some false
  timeout := some 30
  streamTimeout := some 60

/-- The options have the same effect whether there is such a profile, with a cookie in the
environment and in the keyring, or none. -/
theorem settings_in_effect_overridden :
    outspoken.readerSettingsUnder
        { environment := [("COOKIE", "session=3")], keyring := ⟨some [("default", "session=4")]⟩ }
        { profiles := .ofList [("default", silenced)] } 7 =
      outspoken.readerSettingsUnder {} {} 7 :=
  (settings_in_effect outspoken {} {} 7).2.2 outspoken _ _
    { server := .said _ _ _
      trust := .said _ _ _
      timeout := .said _ _ _
      streamTimeout := .said _ _ _
      cookie := .said _ _ _
      storagePath := .inl (by decide +kernel)
      publicPath := .inl (by decide +kernel)
      recordHistory := .inl (by decide +kernel)
      unnamed := nofun }

end MangaReader.Command

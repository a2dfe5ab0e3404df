import MangaReader.Command.Shows
import MangaReader.Proofs.Backend.Asking
import MangaReader.Proofs.Command.Effective
import MangaReader.Proofs.Command.Reading

/-!
# What watching asks for

Watching looks for an episode, and where it finds one it asks for the video. If what is watched is
recorded, it tells the history before and, once there is a video, behind it. Nothing that is shown
and nothing that is asked for is a matter of what the history answers to that: every part of the
command is undisturbed by it, and so is what is put together from such parts.

* `asked` : what watching asks for, one thing after the other.
* `backend_watchIn` : what it leaves of the backend.
* `Undisturbed`, `undisturbed_watchIn` : it does the same whatever the history answers.
* `watching_apart_from_history` : what watching asks for, and that the history does not matter.
-/

namespace MangaReader.Command

open Backend Client Command.Action

/-! ### What is asked for -/

def looking (library : Library) (r : WatchingRequest) (b : Backend) : List Asking :=
  .episodes r.anime ::
    if r.next && (library.episodes r.anime b).1.isOk then [.lastWatched r.anime] else []

def playable? : Resume → Option Episode
  | .play episode => episode
  | .finished _ => none

def chosen? (library : Library) (r : WatchingRequest) (b : Backend) : Option Episode :=
  match library.episodes r.anime b with
  | (.error _, _) => none
  | (.ok found, b) =>
    if r.next then
      match library.lastWatched r.anime b with
      | (.error _, _) => none
      | (.ok last, _) => playable? (found.resume last)
    else found.get? r.position

def playing (library : Library) (r : WatchingRequest) (recorded : Bool) (b : Backend)
    (episode : Episode) : List Asking :=
  let adding := if recorded then [.adding r.anime] else []
  let resolved := (library.episodeVideo episode (library.client.after b adding)).1.isOk
  adding ++ .video episode.id ::
    if recorded && resolved then [.recording r.anime episode.id] else []

/-- What watching asks for, one thing after the other: once there is an episode, it is played. -/
def asked (library : Library) (r : WatchingRequest) (recorded : Bool) (b : Backend) :
    List Asking :=
  looking library r b ++
    ((chosen? library r b).map
      (playing library r recorded (library.client.after b (looking library r b)))).getD []

/-! ### The parts of watching -/

def play (o : Options) (library : Library) (r : WatchingRequest) (recorded : Bool)
    (episode : Episode) : Action Unit := do
  if recorded then attempt (library.addToAnimeHistory r.anime)
  let video ← Action.ask (.ofShow r.anime) (library.episodeVideo episode)
  if recorded then attempt (library.recordWatching r.anime episode.id)
  Action.report o (videoReport o.colored video)

def goOn (o : Options) (library : Library) (r : WatchingRequest) (recorded : Bool)
    (found : EpisodeList) : Resume → Action Unit
  | .finished title => Action.say o (title ++ " is the last episode")
  | .play none => Action.refuse (outOfRange r.anime r.position found.size)
  | .play (some episode) => play o library r recorded episode

def watchIn (o : Options) (library : Library) (r : WatchingRequest) (recorded : Bool) :
    Action Unit := do
  let found ← Action.ask (.ofShow r.anime) (library.episodes r.anime)
  let resume ← choose library r found
  goOn o library r recorded found resume

/-- The library of a command that watches, and whether what is watched is recorded. -/
def watched (o : Options) (m : Machine) (r : WatchingRequest) :
    Except CommandError (Library × Bool) :=
  (o.readerSettings m r.anime).bind fun settings =>
    ((Library.connect m.files settings.access settings.assets settings.server).mapError
      .ofRead).map fun library => (library, settings.recordHistory && !r.withoutHistory)

variable {o : Options} {r : WatchingRequest} {s : Session} {library : Library} {recorded : Bool}
  {episode : Episode} {b b₁ b₂ : Backend} {α β : Type}

theorem run_watch (o : Options) (r : WatchingRequest) (s : Session) :
    (watch o r).run s =
      match watched o s.machine r with
      | .error e => (.error e, s)
      | .ok (library, recorded) => (watchIn o library r recorded).run s := by
  unfold watch watched
  rw [run_bind, run_machine]
  dsimp only
  rw [run_bind]
  cases o.readerSettings s.machine r.anime with
  | error e => rfl
  | ok settings =>
    dsimp only [run_check_ok, Except.bind]
    rw [run_bind]
    cases Library.connect s.machine.files settings.access settings.assets settings.server with
    | error e => rfl
    | ok library => rfl

theorem onWeb_of_watched {m : Machine} (h : watched o m r = .ok (library, recorded)) :
    library.client.OnWeb := by
  obtain ⟨settings, hsettings, h⟩ := bind_eq_ok_iff.mp h
  obtain ⟨built, hbuilt, h⟩ := map_eq_ok h
  obtain ⟨rfl, -⟩ := Prod.mk.inj h
  exact (Options.onWeb_of_connect hsettings (mapError_eq_ok_iff.mp hbuilt)).1

/-! ### What it leaves of the backend -/

theorem run_attempt (e : Exchange ReadError α) (s : Session) :
    (attempt e).run s = (.ok (), { s with backend := (e s.backend).2 }) := rfl

theorem backend_say (o : Options) (line : String) (s : Session) :
    ((Action.say o line).run s).2.backend = s.backend := by
  rw [run_say_eq]

theorem backend_report (o : Options) (report : Output.Report) (s : Session) :
    ((Action.report o report).run s).2.backend = s.backend := by
  rw [run_report_eq]

theorem backend_play (o : Options) (library : Library) (r : WatchingRequest) (recorded : Bool)
    (episode : Episode) (s : Session) :
    ((play o library r recorded episode).run s).2.backend =
      library.client.after s.backend (playing library r recorded s.backend episode) := by
  have hadding (b : Backend) :
      (library.addToAnimeHistory r.anime b).2 = library.client.after b [.adding r.anime] :=
    Library.fetch_snd
  have hvideo (b : Backend) :
      (library.episodeVideo episode b).2 = library.client.after b [.video episode.id] :=
    Library.fetch_snd
  have hrecording (b : Backend) : (library.recordWatching r.anime episode.id b).2 =
      library.client.after b [.recording r.anime episode.id] := Library.fetch_snd
  unfold play playing
  cases recorded with
  | false =>
    simp only [Bool.false_eq_true, if_false, Bool.false_and, List.nil_append, run_bind, run_ask]
    cases (library.episodeVideo episode s.backend).1 with
    | error e => exact hvideo s.backend
    | ok video =>
      simp only [mapError_ok, backend_report]
      exact hvideo s.backend
  | true =>
    simp only [if_true, Bool.true_and, run_bind, run_attempt, run_ask, hadding, after_append]
    cases (library.episodeVideo episode (library.client.after s.backend [.adding r.anime])).1 with
    | error e => exact hvideo _
    | ok video =>
      simp only [mapError_ok, backend_report, hrecording, hvideo]
      rfl

theorem backend_goOn (o : Options) (library : Library) (r : WatchingRequest) (recorded : Bool)
    (found : EpisodeList) (resume : Resume) (s : Session) :
    ((goOn o library r recorded found resume).run s).2.backend =
      library.client.after s.backend
        (((playable? resume).map (playing library r recorded s.backend)).getD []) := by
  cases resume with
  | finished title => exact backend_say o _ s
  | play episode =>
    cases episode with
    | none => rfl
    | some episode => exact backend_play o library r recorded episode s

theorem backend_watchIn (o : Options) (library : Library) (r : WatchingRequest) (recorded : Bool)
    (s : Session) :
    ((watchIn o library r recorded).run s).2.backend =
      library.client.after s.backend (asked library r recorded s.backend) := by
  have hepisodes : (library.episodes r.anime s.backend).2 =
    library.client.after s.backend [.episodes r.anime] := Library.fetch_snd
  have hlast (b : Backend) :
      (library.lastWatched r.anime b).2 = library.client.after b [.lastWatched r.anime] :=
    Library.fetch_snd
  unfold watchIn asked looking chosen? choose
  rw [run_bind, run_ask, after_append]
  -- without episodes nothing more is asked for; with them the show goes on in one of two ways
  rcases hlisted : library.episodes r.anime s.backend with ⟨e | found, b⟩
  · rw [hlisted] at hepisodes
    simp only [mapError_error, Except.isOk, Except.toBool, Bool.and_false]
    exact hepisodes
  · rw [hlisted] at hepisodes
    dsimp only at hepisodes
    subst hepisodes
    simp only [mapError_ok, Except.isOk, Except.toBool, Bool.and_true, run_bind]
    cases r.next with
    | false => exact backend_goOn o library r recorded found _ _
    | true =>
      have hlast := hlast (library.client.after s.backend [.episodes r.anime])
      simp only [if_true, run_bind, run_ask]
      rcases hwatched : library.lastWatched r.anime
        (library.client.after s.backend [.episodes r.anime]) with ⟨e | last, b⟩
      · rw [hwatched] at hlast
        exact hlast
      · rw [hwatched] at hlast
        dsimp only at hlast
        subst hlast
        exact backend_goOn o library r recorded found _ _

/-! ### What the history does not matter to -/

/-- An action does the same with either of two backends that are alongside each other: it has the
same result, writes the same and sends the same requests, and they stay alongside each other. -/
def Undisturbed (client : Client) (a : Action α) : Prop :=
  ∀ (s : Session) (b₁ b₂ : Backend), client.Alongside b₁ b₂ →
    ∃ (result : Except CommandError α) (after : Session) (received : List Backend.Request)
      (after₁ after₂ : Backend),
      a.run { s with backend := b₁ } = (result, { after with backend := after₁ }) ∧
      a.run { s with backend := b₂ } = (result, { after with backend := after₂ }) ∧
      after₁.received = b₁.received ++ received ∧
      after₂.received = b₂.received ++ received ∧
      client.Alongside after₁ after₂

variable {client : Client}

theorem undisturbed_of_run {a : Action α}
    (h : ∀ s : Session, ∃ (result : Except CommandError α) (after : Session), ∀ b,
      a.run { s with backend := b } = (result, { after with backend := b })) :
    Undisturbed client a := by
  intro s b₁ b₂ halong
  obtain ⟨result, after, hrun⟩ := h s
  exact ⟨result, after, [], b₁, b₂, hrun b₁, hrun b₂, (List.append_nil _).symm,
    (List.append_nil _).symm, halong⟩

theorem undisturbed_say (client : Client) (o : Options) (line : String) :
    Undisturbed client (Action.say o line) :=
  undisturbed_of_run fun s =>
    ⟨.ok (), { s with notes := s.notes ++ if o.quiet then "" else line ++ "\n" },
      fun _ => run_say_eq o line _⟩

theorem undisturbed_report (client : Client) (o : Options) (report : Output.Report) :
    Undisturbed client (Action.report o report) :=
  undisturbed_of_run fun s =>
    ⟨.ok (), { s with
      output := s.output ++ if o.quiet then "" else written (report.text o.output) },
      fun _ => run_report_eq o report _⟩

theorem undisturbed_refuse (client : Client) (e : CommandError) :
    Undisturbed client (refuse e : Action α) :=
  undisturbed_of_run fun s => ⟨.error e, s, fun _ => rfl⟩

theorem undisturbed_pure (client : Client) (a : α) : Undisturbed client (pure a : Action α) :=
  undisturbed_of_run fun s => ⟨.ok a, s, fun _ => rfl⟩

theorem Undisturbed.bind {a : Action α} {next : α → Action β} (ha : Undisturbed client a)
    (hnext : ∀ x, Undisturbed client (next x)) : Undisturbed client (a >>= next) := by
  intro s b₁ b₂ h
  obtain ⟨result, after, received, after₁, after₂, hrun₁, hrun₂, hreceived₁, hreceived₂, halong⟩ :=
    ha s b₁ b₂ h
  cases result with
  | error e =>
    refine ⟨.error e, after, received, after₁, after₂, ?_, ?_, hreceived₁, hreceived₂, halong⟩
    · rw [run_bind, hrun₁]
    · rw [run_bind, hrun₂]
  | ok x =>
    obtain ⟨result, last, more, last₁, last₂, hnext₁, hnext₂, hmore₁, hmore₂, hlast⟩ :=
      hnext x after after₁ after₂ halong
    refine ⟨result, last, received ++ more, last₁, last₂, ?_, ?_, ?_, ?_, hlast⟩
    · rw [run_bind, hrun₁]
      exact hnext₁
    · rw [run_bind, hrun₂]
      exact hnext₂
    · rw [hmore₁, hreceived₁, List.append_assoc]
    · rw [hmore₂, hreceived₂, List.append_assoc]

theorem undisturbed_ask (hclient : client.OnWeb) (x : Asking) (hx : x.isHistory = false)
    {e : Exchange ReadError α} {error : ReadError → CommandError}
    (hview : ∃ read : Except Failure Answer → Except ReadError α, ∀ b,
      e b = (read (exchange (x.request client) b).1, (exchange (x.request client) b).2)) :
    Undisturbed client (Action.ask error e) := by
  intro s b₁ b₂ h
  obtain ⟨read, hview⟩ := hview
  obtain ⟨received, hreceived₁, hreceived₂, halong, hanswer⟩ := h.exchange hclient x
  refine ⟨(read (exchange (x.request client) b₁).1).mapError error, s, received, _, _, ?_, ?_,
    hreceived₁, hreceived₂, halong⟩
  · rw [run_ask, hview]
  · rw [run_ask, hview, hanswer hx]

theorem undisturbed_attempt (hclient : client.OnWeb) (x : Asking) {e : Exchange ReadError α}
    (hleaves : ∀ b, (e b).2 = (exchange (x.request client) b).2) :
    Undisturbed client (attempt e) := by
  intro s b₁ b₂ h
  obtain ⟨received, hreceived₁, hreceived₂, halong, -⟩ := h.exchange hclient x
  refine ⟨.ok (), s, received, _, _, ?_, ?_, hreceived₁, hreceived₂, halong⟩
  · rw [run_attempt, hleaves]
  · rw [run_attempt, hleaves]

theorem undisturbed_play (hclient : library.client.OnWeb) (o : Options) (r : WatchingRequest)
    (recorded : Bool) (episode : Episode) :
    Undisturbed library.client (play o library r recorded episode) := by
  have hadding : Undisturbed library.client (attempt (library.addToAnimeHistory r.anime)) :=
    undisturbed_attempt hclient (.adding r.anime) fun _ => Library.fetch_snd
  have hvideo : Undisturbed library.client
      (Action.ask (.ofShow r.anime) (library.episodeVideo episode)) :=
    undisturbed_ask hclient (.video episode.id) rfl (library.fetch_eq_view _ _)
  have hrecording : Undisturbed library.client
      (attempt (library.recordWatching r.anime episode.id)) :=
    undisturbed_attempt hclient (.recording r.anime episode.id) fun _ => Library.fetch_snd
  unfold play
  cases recorded with
  | false => exact hvideo.bind fun video => undisturbed_report _ o _
  | true =>
    exact hadding.bind fun _ => hvideo.bind fun video => hrecording.bind fun _ =>
      undisturbed_report _ o _

theorem undisturbed_choose (hclient : library.client.OnWeb) (r : WatchingRequest)
    (found : EpisodeList) : Undisturbed library.client (choose library r found) := by
  have hlast : Undisturbed library.client
      (Action.ask (.ofShow r.anime) (library.lastWatched r.anime)) :=
    undisturbed_ask hclient (.lastWatched r.anime) rfl (library.fetch_eq_view _ _)
  unfold choose
  split_ifs
  · exact hlast.bind fun last => undisturbed_pure _ _
  · exact undisturbed_pure _ _

theorem undisturbed_watchIn (hclient : library.client.OnWeb) (o : Options) (r : WatchingRequest)
    (recorded : Bool) : Undisturbed library.client (watchIn o library r recorded) := by
  have hepisodes : Undisturbed library.client
      (Action.ask (.ofShow r.anime) (library.episodes r.anime)) :=
    undisturbed_ask hclient (.episodes r.anime) rfl (library.fetch_eq_view _ _)
  refine hepisodes.bind fun found => (undisturbed_choose hclient r found).bind fun resume => ?_
  -- the ways in which the show goes on
  cases resume with
  | finished title => exact undisturbed_say _ o _
  | play episode =>
    cases episode with
    | none => exact undisturbed_refuse _ _
    | some episode => exact undisturbed_play hclient o r recorded episode

/-- **What watching asks for, and that the history does not matter to it.** Where no library can be
had, watching fails and asks for nothing. Else it asks for the episodes; then for the one watched
last, if the next one is wanted; and once an episode is chosen it adds the show to the history, asks
for the video and, if there is one, records the episode, the first and the last of these only if
what is watched is recorded. After what fails, or if no episode is chosen, nothing more is asked
for. A backend that can be reached receives just these requests, in this order.

A backend that differs from another only in its answers about the history receives the same
requests. The command ends in the same way, and writes the same. -/
theorem watching_apart_from_history (o : Options) (r : WatchingRequest) (s : Session) :
    match watched o s.machine r with
    | .error e => (watch o r).run s = (.error e, s)
    | .ok (library, recorded) =>
      (∃ requests,
        (asked library r recorded s.backend).mapM (·.request library.client) = .ok requests ∧
        ((watch o r).run s).2.backend.received = s.backend.received ++
          if s.backend.origin = some library.client.base.origin then requests else []) ∧
      ∀ other : Backend, library.client.AlikeButHistory s.backend other →
        let ran := (watch o r).run s
        let ran' := (watch o r).run { s with backend := other }
        ran'.1 = ran.1 ∧ ran'.2.output = ran.2.output ∧ ran'.2.notes = ran.2.notes ∧
          ∃ received, ran.2.backend.received = s.backend.received ++ received ∧
            ran'.2.backend.received = other.received ++ received := by
  have hrun (b : Backend) := run_watch o r { s with backend := b }
  dsimp only at hrun
  cases hwatched : watched o s.machine r with
  | error e =>
    rw [hwatched] at hrun
    exact hrun s.backend
  | ok x =>
    obtain ⟨library, recorded⟩ := x
    rw [hwatched] at hrun
    dsimp only at hrun ⊢
    have hclient : library.client.OnWeb := onWeb_of_watched hwatched
    refine ⟨?_, fun other halike => ?_⟩
    · obtain ⟨requests, hrequests, -, hreceived⟩ :=
        received_after hclient s.backend (asked library r recorded s.backend)
      refine ⟨requests, hrequests, ?_⟩
      rw [hrun s.backend, backend_watchIn, hreceived]
    · have halong := Alongside.of_alike hclient halike
      obtain ⟨result, after, received, _, _, hfirst, hsecond, hreceived₁, hreceived₂, -⟩ :=
        undisturbed_watchIn hclient o r recorded s s.backend other halong
      have hran := (hrun s.backend).trans hfirst
      have hran' := (hrun other).trans hsecond
      rw [hran', hran]
      exact ⟨rfl, rfl, rfl, received, hreceived₁, hreceived₂⟩

/-! ### A history that drops every connection -/

def sampleNext : WatchingRequest := { anime := 4, next := true }

/-- A show of two episodes, of which the first was watched last. -/
def sampleShow : Backend where
  origin := some "http://reader"
  routes :=
    [⟨.get, "/api/episodes",
        [.answer ⟨200, ⟨[("[\x7b\"id\":11,\"title\":\"1\"\x7d," ++
          "\x7b\"id\":12,\"title\":\"2\"\x7d]").toUTF8.toList], .complete⟩⟩]⟩,
      ⟨.get, "/api/anime",
        [.answer ⟨200, ⟨[("\x7b\"name\":\"\",\"last_read_episode\":" ++
          "\x7b\"id\":11\x7d\x7d").toUTF8.toList], .complete⟩⟩]⟩,
      ⟨.get, "/api/episode",
        [.answer ⟨200, ⟨["\x7b\"vid_path\":\"/2.mp4\"\x7d".toUTF8.toList], .complete⟩⟩]⟩]

/-- The same show, whose history drops every connection. -/
def sampleMute : Backend :=
  { sampleShow with
    routes := ⟨.post, "/user/a_history", [.dropped]⟩ :: ⟨.put, "/user/a_history", [.dropped]⟩ ::
      sampleShow.routes }

theorem watched_sampleNext :
    watched sampleOptions {} sampleNext = .ok (Reader.sampleLibrary, true) := by decide +kernel

theorem alike_sampleMute : Reader.sampleLibrary.client.AlikeButHistory sampleShow sampleMute := by
  have hpost : ServesApart (Asking.request Reader.sampleLibrary.client) Asking.isHistory
      sampleMute.routes[0] := ⟨.adding 4, _, rfl, rfl, by decide +kernel⟩
  have hput : ServesApart (Asking.request Reader.sampleLibrary.client) Asking.isHistory
      sampleMute.routes[1] := ⟨.recording 4 12, _, rfl, rfl, by decide +kernel⟩
  refine alikeButHistory_of_routes ⟨rfl, ?_⟩
  exact ((routesBut_cons_of_apart hpost).trans (routesBut_cons_of_apart hput)).symm

/-- The show is watched in the same way whether its history answers or drops every connection, and
both backends receive all that is asked for. -/
theorem watching_apart_from_history_mute :
    let ran := (watch sampleOptions sampleNext).run { backend := sampleShow }
    let ran' := (watch sampleOptions sampleNext).run { backend := sampleMute }
    ran'.1 = ran.1 ∧ ran'.2.output = ran.2.output ∧
      (asked Reader.sampleLibrary sampleNext true sampleShow).mapM
        (·.request Reader.sampleLibrary.client) = .ok ran.2.backend.received ∧
      ran'.2.backend.received = ran.2.backend.received := by
  intro ran ran'
  have hran := watching_apart_from_history sampleOptions sampleNext { backend := sampleShow }
  rw [watched_sampleNext] at hran
  obtain ⟨⟨requests, hrequests, hreceived⟩, hother⟩ := hran
  obtain ⟨hresult, houtput, -, received, hshow, hmute⟩ := hother sampleMute alike_sampleMute
  have hreached : sampleShow.origin = some Reader.sampleLibrary.client.base.origin := by
    decide +kernel
  rw [if_pos hreached] at hreceived
  refine ⟨hresult, houtput, ?_, hmute.trans hshow.symm⟩
  rw [hrequests]
  exact congrArg Except.ok hreceived.symm

end MangaReader.Command

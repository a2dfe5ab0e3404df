import MangaReader.Proofs.Reading.Coherent

/-!
# The order in which listeners are told

Whatever is called and however the tasks go on in between, what the listeners are told of a session
comes between its opening and its end, and before the next one is opened. That is so because a task
is ended before the session of the next one is announced: the session of a task that runs is the
last one that was announced (`Reader.InOrder`).

* `ReaderEvent.opened?`, `reported?`, `ended?` : the sessions that events are about.
* `Ordered` : the order of events.
* `Reader.News`, `Reader.Effect.news` : what a step adds to the events.
* `Reader.InOrder`, `Reader.Since` : what every step keeps, from the start and from a call of close.
* `Reader.events_ordered` : **the order of the events of a run**.
-/

namespace MangaReader

namespace ReaderEvent

def opened? : ReaderEvent → Option Nat
  | .sessionOpened session _ => some session
  | _ => none

/-- The session of whose course an event tells: a page, the end or a failure. -/
def reported? : ReaderEvent → Option Nat
  | .pageRendered session _ _ | .chapterComplete session _ _ | .streamFailed session _ _ =>
    some session
  | _ => none

def ended? : ReaderEvent → Option Nat
  | .chapterComplete session _ _ | .streamFailed session _ _ => some session
  | _ => none

variable {e : ReaderEvent} {k : Nat}

theorem session?_of_opened? (h : e.opened? = some k) : e.session? = some k := by
  cases e <;> simp_all [opened?, session?]

theorem session?_of_reported? (h : e.reported? = some k) : e.session? = some k := by
  cases e <;> simp_all [reported?, session?]

theorem session?_of_ended? (h : e.ended? = some k) : e.session? = some k := by
  cases e <;> simp_all [ended?, session?]

theorem opened?_of_reported? (h : e.reported? = some k) : e.opened? = none := by
  cases e <;> simp_all [reported?, opened?]

theorem session?_of_isHistory (h : e.isHistory) : e.session? = none := by
  cases e <;> simp_all [isHistory, session?]

end ReaderEvent

/-! ### Ordered events -/

/-- The order of what listeners are told. -/
structure Ordered (events : List ReaderEvent) : Prop where
  /-- A session is announced before anything is told of its course. -/
  announced : ∀ before e after, events = before ++ e :: after →
    ∀ k, e.reported? = some k → ∃ first ∈ before, first.opened? = some k
  /-- The end of a session is the last that is told of it. -/
  final : events.Pairwise fun e later => ∀ k, e.ended? = some k → later.session? ≠ some k
  /-- Nothing is told of the course of a session once another is announced after it. -/
  current : events.Pairwise fun e later =>
    ∀ k j, e.opened? = some k → later.reported? = some j → k ≤ j
  /-- Sessions are announced in the order of their numbers. -/
  increasing : events.Pairwise fun e later =>
    ∀ k j, e.opened? = some k → later.opened? = some j → k < j

namespace Ordered

variable {events : List ReaderEvent}

theorem nil : Ordered [] where
  announced := by
    intro before e after h
    cases before <;> cases h
  final := .nil
  current := .nil
  increasing := .nil

theorem concat (h : Ordered events) {e : ReaderEvent}
    (hannounced : ∀ k, e.reported? = some k → ∃ first ∈ events, first.opened? = some k)
    (hfinal : ∀ first ∈ events, ∀ k, first.ended? = some k → e.session? ≠ some k)
    (hcurrent : ∀ first ∈ events, ∀ k j, first.opened? = some k → e.reported? = some j → k ≤ j)
    (hincreasing : ∀ first ∈ events, ∀ k j, first.opened? = some k → e.opened? = some j → k < j) :
    Ordered (events ++ [e]) where
  announced := by
    intro before f after hsplit k hk
    rcases List.eq_nil_or_concat after with rfl | ⟨after, last, rfl⟩
    · obtain ⟨rfl, hlast⟩ := List.append_inj' hsplit rfl
      obtain rfl : e = f := by simpa using hlast
      exact hannounced k hk
    · rw [List.concat_eq_append, ← List.cons_append, ← List.append_assoc] at hsplit
      obtain ⟨hevents, -⟩ := List.append_inj' hsplit rfl
      exact h.announced before f after hevents k hk
  final := List.pairwise_append.mpr ⟨h.final, List.pairwise_singleton _ _, by simpa using hfinal⟩
  current :=
    List.pairwise_append.mpr ⟨h.current, List.pairwise_singleton _ _, by simpa using hcurrent⟩
  increasing :=
    List.pairwise_append.mpr ⟨h.increasing, List.pairwise_singleton _ _, by simpa using hincreasing⟩

theorem append_quiet (h : Ordered events) {told : List ReaderEvent}
    (hquiet : ∀ e ∈ told, e.session? = none) : Ordered (events ++ told) := by
  induction told generalizing events with
  | nil => rwa [List.append_nil]
  | cons e told ih =>
    obtain ⟨he, htold⟩ := List.forall_mem_cons.mp hquiet
    have hnone : ∀ k, e.session? ≠ some k := by
      rw [he]
      exact fun k h => nomatch h
    rw [← List.singleton_append, ← List.append_assoc]
    refine ih (h.concat ?_ ?_ ?_ ?_) htold
    · exact fun k hk => absurd (ReaderEvent.session?_of_reported? hk) (hnone k)
    · exact fun _ _ k _ => hnone k
    · exact fun _ _ _ j _ hj => absurd (ReaderEvent.session?_of_reported? hj) (hnone j)
    · exact fun _ _ _ j _ hj => absurd (ReaderEvent.session?_of_opened? hj) (hnone j)

end Ordered

namespace Reader

/-! ### What a step adds to the events -/

/-- The session of the feed task, as long as that runs. -/
def running? (r : Reader) : Option Nat :=
  r.feed.bind fun task => if task.stage = .ended then none else some task.session

/-- The session that is open in the viewer and that the listeners do not know. -/
def awaited? (r : Reader) : Option Nat :=
  match r.pending with
  | some (.opening ticket) => some ticket.session
  | _ => none

/-- What a step adds to the events, with what it does to the tasks. -/
inductive News (r r' : Reader) : Prop
  /-- Nothing about a session. A task does not start, and a session that is opened is new. -/
  | quiet {told : List ReaderEvent} (hevents : r'.events = r.events ++ told)
      (hquiet : ∀ e ∈ told, e.session? = none)
      (hgeneration : r.viewer.generation ≤ r'.viewer.generation)
      (hrunning : ∀ k, r'.running? = some k → r.running? = some k)
      (hawaited : ∀ k, r'.awaited? = some k →
        r.awaited? = some k ∨ r.viewer.generation < k ∧ k ≤ r'.viewer.generation)
  /-- Something of the course of the session whose task runs, which ends with the session. -/
  | reports {k : Nat} {e : ReaderEvent} (hevents : r'.events = r.events ++ [e])
      (he : e.reported? = some k) (hrunning : r.running? = some k)
      (hnext : ∀ j, r'.running? = some j → j = k ∧ e.ended? = none)
      (hgeneration : r'.viewer.generation = r.viewer.generation)
      (hawaited : r'.awaited? = r.awaited?)
  /-- A session that was awaited, with a task that starts. -/
  | announces {k : Nat} {chapter : Chapter}
      (hevents : r'.events = r.events ++ [.sessionOpened k chapter])
      (hawaited : r.awaited? = some k) (hnext : r'.running? = some k)
      (hgeneration : r'.viewer.generation = r.viewer.generation) (hnone : r'.awaited? = none)

variable {r r' : Reader} {s : Step} {a : Option Answer} {task task' : FeedTask} {k : Nat}

theorem running?_of_feed (hfeed : r.feed = some task) (hstage : task.stage ≠ .ended) :
    r.running? = some task.session := by
  rw [running?, hfeed, Option.bind_some, if_neg hstage]

theorem running?_of_ended (hfeed : r.feed = some task) (hstage : task.stage = .ended) :
    r.running? = none := by
  rw [running?, hfeed, Option.bind_some, if_pos hstage]

theorem session_of_running? (hfeed : r.feed = some task) (h : r.running? = some k) :
    task.session = k := by
  rw [running?, hfeed, Option.bind_some] at h
  split at h
  · cases h
  · exact Option.some.inj h

theorem News.of_task (hfeed : r.feed = some task) (hstage : task.stage ≠ .ended)
    (hnext : r'.feed = some task') (hsame : task'.session = task.session)
    (hevents : r'.events = r.events) (hpending : r'.pending = r.pending)
    (hgeneration : r.viewer.generation ≤ r'.viewer.generation) : News r r' := by
  refine .quiet (by rw [hevents, List.append_nil]) (List.forall_mem_nil _) hgeneration ?_ ?_
  · intro k hk
    rw [running?_of_feed hfeed hstage, ← session_of_running? hnext hk, hsame]
  · intro k hk
    rw [awaited?, hpending] at hk
    exact .inl hk

theorem News.of_report (hfeed : r.feed = some task) (hstage : task.stage ≠ .ended)
    {e : ReaderEvent} (he : e.reported? = some task.session) {stage : FeedStage}
    (hend : stage ≠ .ended → e.ended? = none) : News r ((r.tell e).setStage task stage) := by
  have hnext : ((r.tell e).setStage task stage).feed = some { task with stage } := rfl
  refine .reports rfl he (running?_of_feed hfeed hstage) ?_ rfl rfl
  intro j hj
  refine ⟨(session_of_running? hnext hj).symm, hend ?_⟩
  rintro rfl
  rw [running?_of_ended hnext rfl] at hj
  cases hj

theorem News.of_same {told : List ReaderEvent} (hfeed : r'.feed = r.feed)
    (hevents : r'.events = r.events ++ told) (hquiet : ∀ e ∈ told, e.session? = none)
    (hgeneration : r'.viewer.generation = r.viewer.generation)
    (hpending : r'.pending = r.pending ∨ r'.awaited? = none) : News r r' := by
  refine .quiet hevents hquiet (Nat.le_of_eq hgeneration.symm) ?_ ?_
  · intro k hk
    rwa [running?, hfeed] at hk
  · intro k hk
    rcases hpending with hpending | hnone
    · rw [awaited?, hpending] at hk
      exact .inl hk
    · rw [hnone] at hk
      cases hk

theorem Effect.news (h : Effect r s r' a) : News r r' := by
  cases h with
  | waits | refused | stayed | idle | rests | unanswered | notExpired | indexNotFetched | tabSet =>
    exact .of_same rfl (List.append_nil _).symm (List.forall_mem_nil _) rfl (.inl rfl)
  | indexFetched | indexTaken | closing =>
    exact .of_same rfl (List.append_nil _).symm (List.forall_mem_nil _) rfl (.inr rfl)
  | indexTold =>
    exact .of_same rfl rfl (List.forall_mem_singleton.mpr rfl) rfl (.inr rfl)
  | recorded htold =>
    have hquiet := fun e he => ReaderEvent.session?_of_isHistory (htold e he)
    exact .of_same rfl rfl hquiet rfl (.inl rfl)
  | opened hpending hop hv =>
    refine .quiet (List.append_nil _).symm (List.forall_mem_nil _) hv.generation_le
      (fun _ h => h) ?_
    rintro _ ⟨⟩
    exact .inr ⟨hv.lt_ticket rfl, hv.ticket_le rfl⟩
  | @started ticket hpending hover =>
    exact .announces rfl (by rw [awaited?, hpending]) rfl rfl rfl
  | @closed shutdown hpending hover =>
    refine .quiet (List.append_nil _).symm (List.forall_mem_nil _) (Nat.le_refl _) ?_ ?_
    · intro k hk
      cases hk
    · intro k hk
      cases hk
  | @cancelled task hpending hfeed hstage =>
    exact .of_task hfeed hstage rfl rfl rfl rfl (Nat.le_refl _)
  | stops hfeed hstage hstop =>
    exact .of_task hfeed (FeedStage.ne_ended_of_yields hstage) rfl rfl rfl rfl (Nat.le_refl _)
  | asks h =>
    obtain ⟨backend, stage, -, heq⟩ := r.openFeed_eq _
    rw [heq]
    exact .of_task h.feed (by simp [h.stage]) rfl rfl rfl rfl (Nat.le_refl _)
  | pulls h =>
    obtain ⟨stage, -, heq⟩ := r.pull_eq _ _
    rw [heq]
    exact .of_task h.feed (by simp [h.stage]) rfl rfl rfl rfl (Nat.le_refl _)
  | places h hv | completes h hv | stale h hv | rejects h hv | fails h hv =>
    exact .of_task h.feed (by simp [h.stage]) rfl rfl rfl rfl hv.generation_le
  | failsLate h =>
    exact .of_task h.feed (by simp [h.stage]) rfl rfl rfl rfl (Nat.le_refl _)
  | expires h hstage =>
    refine .of_task h.feed ?_ rfl rfl rfl rfl (Nat.le_refl _)
    rw [h.stage]
    rcases hstage with rfl | ⟨feed, rfl, -⟩
    · exact nofun
    · exact nofun
  | tellsPage h =>
    exact .of_report h.feed (by simp [h.stage]) rfl fun _ => rfl
  | tellsComplete h | tellsFailure h =>
    exact .of_report h.feed (by simp [h.stage]) rfl fun hstage => absurd rfl hstage

/-! ### What every step keeps -/

/-- The events are in their order, and the sessions that are still to be told of come after them. -/
structure InOrder (r : Reader) : Prop where
  ordered : Ordered r.events
  told : ∀ e ∈ r.events, ∀ k, e.session? = some k → k ≤ r.viewer.generation
  /-- The session of a task that runs is the last that was announced, and its end was not told. -/
  running : ∀ k, r.running? = some k → k ≤ r.viewer.generation ∧
    (∃ e ∈ r.events, e.opened? = some k) ∧
    (∀ e ∈ r.events, ∀ j, e.session? = some j → j ≤ k) ∧ ∀ e ∈ r.events, e.ended? ≠ some k
  /-- A session that is to be announced comes after all others. -/
  awaited : ∀ k, r.awaited? = some k → k ≤ r.viewer.generation ∧
    (∀ e ∈ r.events, ∀ j, e.session? = some j → j < k) ∧ ∀ j, r.running? = some j → j < k

theorem inOrder_ofLibrary (settings : ReaderSettings) (library : Library) (backend : Backend) :
    InOrder (ofLibrary settings library backend) where
  ordered := .nil
  told := List.forall_mem_nil _
  running := by
    intro k hk
    cases hk
  awaited := by
    intro k hk
    cases hk

theorem forall_mem_told {events events' : List ReaderEvent} {e : ReaderEvent}
    {p : ReaderEvent → Prop} (h : events' = events ++ [e]) (hold : ∀ f ∈ events, p f) (hnew : p e) :
    ∀ f ∈ events', p f := by
  rw [h]
  exact List.forall_mem_append.mpr ⟨hold, List.forall_mem_singleton.mpr hnew⟩

theorem News.inOrder (h : News r r') (hr : InOrder r) : InOrder r' := by
  obtain ⟨hordered, htold, hrunning, hawaited⟩ := hr
  cases h with
  | @quiet told hevents hquiet hgeneration hrunning' hawaited' =>
    have hold : ∀ e ∈ r'.events, ∀ k, e.session? = some k → e ∈ r.events := by
      intro e he k hk
      rw [hevents, List.mem_append] at he
      rcases he with he | he
      · exact he
      · rw [hquiet e he] at hk
        cases hk
    refine ⟨hevents ▸ hordered.append_quiet hquiet, ?_, ?_, ?_⟩
    · exact fun e he k hk => Nat.le_trans (htold e (hold e he k hk) k hk) hgeneration
    · intro k hk
      obtain ⟨hle, ⟨first, hfirst, hopened⟩, hlast, hend⟩ := hrunning k (hrunning' k hk)
      refine ⟨Nat.le_trans hle hgeneration, ⟨first, ?_, hopened⟩, ?_, ?_⟩
      · rw [hevents]
        exact List.mem_append_left _ hfirst
      · exact fun e he j hj => hlast e (hold e he j hj) j hj
      · exact fun e he hk => hend e (hold e he k (ReaderEvent.session?_of_ended? hk)) hk
    · intro k hk
      rcases hawaited' k hk with hbefore | ⟨hnew, hle⟩
      · obtain ⟨hle, hlast, hafter⟩ := hawaited k hbefore
        exact ⟨Nat.le_trans hle hgeneration, fun e he j hj => hlast e (hold e he j hj) j hj,
          fun j hj => hafter j (hrunning' j hj)⟩
      · refine ⟨hle, fun e he j hj => ?_, fun j hj => ?_⟩
        · exact Nat.lt_of_le_of_lt (htold e (hold e he j hj) j hj) hnew
        · exact Nat.lt_of_le_of_lt (hrunning j (hrunning' j hj)).1 hnew
  | @reports k e hevents he hrunning' hnext hgeneration hawaited' =>
    obtain ⟨hle, hopened, hlast, hend⟩ := hrunning k hrunning'
    have hsession : ∀ j, e.session? = some j ↔ j = k := by
      rw [ReaderEvent.session?_of_reported? he]
      exact fun j => ⟨fun h => (Option.some.inj h).symm, fun h => h ▸ rfl⟩
    refine ⟨hevents ▸ hordered.concat ?_ ?_ ?_ ?_, ?_, ?_, ?_⟩
    · intro j hj
      rwa [(hsession j).mp (ReaderEvent.session?_of_reported? hj)]
    · intro f hf j hj hsame
      rw [(hsession j).mp hsame] at hj
      exact hend f hf hj
    · intro f hf i j hi hj
      rw [(hsession j).mp (ReaderEvent.session?_of_reported? hj)]
      exact hlast f hf i (ReaderEvent.session?_of_opened? hi)
    · intro f _ i j _ hj
      rw [ReaderEvent.opened?_of_reported? he] at hj
      cases hj
    · rw [hgeneration]
      exact forall_mem_told hevents htold fun j hj => (hsession j).mp hj ▸ hle
    · intro j hj
      obtain ⟨rfl, hgoeson⟩ := hnext j hj
      obtain ⟨first, hfirst, hopened⟩ := hopened
      refine ⟨hgeneration ▸ hle, ⟨first, ?_, hopened⟩, ?_, ?_⟩
      · rw [hevents]
        exact List.mem_append_left _ hfirst
      · exact forall_mem_told hevents hlast fun i hi => Nat.le_of_eq ((hsession i).mp hi)
      · refine forall_mem_told hevents hend ?_
        rw [hgoeson]
        exact nofun
    · intro j hj
      rw [hawaited'] at hj
      obtain ⟨hle', hlast', hafter⟩ := hawaited j hj
      refine ⟨hgeneration ▸ hle', ?_, ?_⟩
      · exact forall_mem_told hevents hlast' fun i hi => (hsession i).mp hi ▸ hafter k hrunning'
      · exact fun i hi => (hnext i hi).1 ▸ hafter k hrunning'
  | @announces k chapter hevents hawaited' hnext hgeneration hnone =>
    obtain ⟨hle, hlast, -⟩ := hawaited k hawaited'
    refine ⟨hevents ▸ hordered.concat ?_ ?_ ?_ ?_, ?_, ?_, ?_⟩
    · intro j hj
      cases hj
    · rintro f hf j hj ⟨⟩
      exact Nat.lt_irrefl k (hlast f hf k (ReaderEvent.session?_of_ended? hj))
    · intro f _ i j _ hj
      cases hj
    · rintro f hf i j hi ⟨⟩
      exact hlast f hf i (ReaderEvent.session?_of_opened? hi)
    · rw [hgeneration]
      exact forall_mem_told hevents htold fun j hj => Option.some.inj hj ▸ hle
    · intro j hj
      obtain rfl : k = j := Option.some.inj (hnext.symm.trans hj)
      refine ⟨hgeneration ▸ hle, ⟨.sessionOpened k chapter, ?_, rfl⟩, ?_, ?_⟩
      · rw [hevents]
        exact List.mem_append_right _ (List.mem_singleton_self _)
      · refine forall_mem_told hevents ?_ fun i hi => Nat.le_of_eq (Option.some.inj hi).symm
        exact fun f hf i hi => Nat.le_of_lt (hlast f hf i hi)
      · refine forall_mem_told hevents ?_ nofun
        exact fun f hf hended =>
          Nat.lt_irrefl k (hlast f hf k (ReaderEvent.session?_of_ended? hended))
    · intro j hj
      rw [hnone] at hj
      cases hj

theorem inOrder_run (settings : ReaderSettings) (library : Library) (backend : Backend)
    (steps : List Step) : InOrder ((ofLibrary settings library backend).run steps).1 :=
  run_keeps (fun r s hr => (r.step_effect s).news.inOrder hr) (inOrder_ofLibrary _ _ _) steps

/-- What was told since some events is about sessions with greater numbers than a bound, and so is
what is still to be told. -/
structure Since (bound : Nat) (events : List ReaderEvent) (r : Reader) : Prop where
  told : ∃ told, r.events = events ++ told ∧ ∀ e ∈ told, ∀ k, e.session? = some k → bound < k
  generation : bound ≤ r.viewer.generation
  running : ∀ k, r.running? = some k → bound < k
  awaited : ∀ k, r.awaited? = some k → bound < k

theorem News.since {bound : Nat} {events : List ReaderEvent} (h : News r r')
    (hr : Since bound events r) : Since bound events r' := by
  obtain ⟨⟨told, hevents, htold⟩, hbound, hrunning, hawaited⟩ := hr
  cases h with
  | @quiet more hmore hquiet hgeneration hrunning' hawaited' =>
    refine ⟨⟨told ++ more, ?_, ?_⟩, Nat.le_trans hbound hgeneration, ?_, ?_⟩
    · rw [hmore, hevents, List.append_assoc]
    · intro e he k hk
      rcases List.mem_append.mp he with he | he
      · exact htold e he k hk
      · rw [hquiet e he] at hk
        cases hk
    · exact fun k hk => hrunning k (hrunning' k hk)
    · intro k hk
      rcases hawaited' k hk with hbefore | ⟨hnew, -⟩
      · exact hawaited k hbefore
      · exact Nat.lt_of_le_of_lt hbound hnew
  | @reports k e hmore he hrunning' hnext hgeneration hawaited' =>
    have hk := hrunning k hrunning'
    refine ⟨⟨told ++ [e], ?_, ?_⟩, hgeneration ▸ hbound, ?_, ?_⟩
    · rw [hmore, hevents, List.append_assoc]
    · intro f hf j hj
      rcases List.mem_append.mp hf with hf | hf
      · exact htold f hf j hj
      · rw [List.mem_singleton.mp hf, ReaderEvent.session?_of_reported? he] at hj
        exact Option.some.inj hj ▸ hk
    · exact fun j hj => (hnext j hj).1 ▸ hk
    · exact fun j hj => hawaited j (hawaited' ▸ hj)
  | @announces k chapter hmore hawaited' hnext hgeneration hnone =>
    have hk := hawaited k hawaited'
    refine ⟨⟨told ++ [.sessionOpened k chapter], ?_, ?_⟩, hgeneration ▸ hbound, ?_, ?_⟩
    · rw [hmore, hevents, List.append_assoc]
    · intro f hf j hj
      rcases List.mem_append.mp hf with hf | hf
      · exact htold f hf j hj
      · rw [List.mem_singleton.mp hf] at hj
        exact Option.some.inj hj ▸ hk
    · exact fun j hj => Option.some.inj (hnext.symm.trans hj) ▸ hk
    · intro j hj
      rw [hnone] at hj
      cases hj

theorem since_of_closed {shutdown : Bool} (hpending : r.pending = some (.closing shutdown))
    (hdone : r.proceed.pending = none) :
    Since r.proceed.viewer.generation r.proceed.events r.proceed := by
  have heffect := r.effect_proceed
  generalize r.proceed = after at heffect hdone ⊢
  cases heffect with
  | closed =>
    refine ⟨⟨[], (List.append_nil _).symm, List.forall_mem_nil _⟩, Nat.le_refl _, ?_, ?_⟩
    · intro k hk
      cases hk
    · intro k hk
      cases hk
  | idle hnone | started hnone | indexTaken hnone | indexTold hnone =>
    rw [hpending] at hnone
    cases hnone
  | cancelled =>
    rw [hpending] at hdone
    cases hdone

/-! ### Whole runs -/

/-- **The order of what listeners are told.** Let a reader take any steps. Of every session its
pages, its end and its failure are told after the session was announced, and nothing of it after its
end; nothing of its course is told once a later session was announced; and sessions are announced in
the order of their numbers. When a call of close returns, be it for a shutdown, all that is told
from then on is about sessions that come after all those told of before. -/
theorem events_ordered (settings : ReaderSettings) (library : Library) (backend : Backend)
    (steps : List Step) :
    let start := ofLibrary settings library backend
    let final := (start.run steps).1
    Ordered final.events ∧
      ∀ before after shutdown, steps = before ++ .proceed :: after →
        let closing := (start.run before).1
        let closed := closing.proceed
        closing.pending = some (.closing shutdown) → closed.pending = none →
          ∃ told, final.events = closed.events ++ told ∧
            ∀ first ∈ closed.events, ∀ later ∈ told, ∀ j k,
              first.session? = some j → later.session? = some k → j < k := by
  intro start final
  refine ⟨(inOrder_run settings library backend steps).ordered, ?_⟩
  intro before after shutdown hsteps closing closed hpending hdone
  have hclosing : InOrder closing := inOrder_run settings library backend before
  have hclosed : InOrder closed := closing.effect_proceed.news.inOrder hclosing
  have hfinal : final = (closed.run after).1 := by
    show (start.run steps).1 = _
    rw [hsteps, run_append_fst, run_cons_fst]
    rfl
  have hsince : Since closed.viewer.generation closed.events final := by
    rw [hfinal]
    exact run_keeps (fun r s hr => (r.step_effect s).news.since hr)
      (since_of_closed hpending hdone) after
  obtain ⟨told, hevents, htold⟩ := hsince.told
  refine ⟨told, hevents, fun first hfirst later hlater j k hj hk => ?_⟩
  exact Nat.lt_of_le_of_lt (hclosed.told first hfirst j hj) (htold later hlater k hk)

end Reader

end MangaReader

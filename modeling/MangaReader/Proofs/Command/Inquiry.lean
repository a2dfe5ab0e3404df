import MangaReader.Command.Run
import MangaReader.Proofs.Backend.Exchange
import MangaReader.Proofs.Chapter.Groups
import MangaReader.Proofs.Command.Effective
import MangaReader.Proofs.Command.Reading

/-!
# The exit status of an inquiry

An inquiry is a command that asks its backend for one thing. Its exit status is a matter of the
answer alone: of the status of the answer, and of what its body says if it is of the form that is
wanted.

* `Inquiry`, `Inquiry.request`, `Inquiry.sent` : such a command, and the request that it sends.
* `Answer.decoded?`, `Inquiry.said?` : what a good answer says.
* `exitAfter` : the exit status that an answer leads to.
* `Concludes` : how a run ends, and what it leaves.
* `exit_of_inquiry` : every inquiry has the exit status that the answer to its request leads to.
-/

namespace MangaReader

open Backend

/-- What an answer says: it reports success, and its body is whole and of the form wanted. -/
def Backend.Answer.decoded? {α : Type} (form : Json.Form α) (a : Answer) : Option α :=
  match a.isSuccess, a.body.ending with
  | true, .complete => (form.parse a.body.text).toOption
  | _, _ => none

theorem Backend.Answer.isSuccess_of_decoded {α : Type} {form : Json.Form α} {a : Answer} {x : α}
    (h : a.decoded? form = some x) : a.isSuccess = true := by
  unfold Answer.decoded? at h
  split at h
  · assumption
  · cases h

namespace Command

open Command.Action

/-- A command that asks for one thing. -/
inductive Inquiry where
  | chapters (group : Option ChapterKind)
  | header
  | lastRead
  | episodes
  | lastWatched
  | add (medium : Medium)
  | remove (medium : Medium)
  deriving DecidableEq, Repr

namespace Inquiry

def request (id : Int) : Inquiry → Command.Request
  | .chapters group => .chapters id group
  | .header => .header id
  | .lastRead => .lastRead id
  | .episodes => .episodes id
  | .lastWatched => .lastWatched id
  | .add medium => .history medium (.add id)
  | .remove medium => .history medium (.remove id)

def readerId (id : Int) : Inquiry → Int
  | .add medium | .remove medium => medium.readerId id
  | _ => id

def sent (client : Client) (id : Int) : Inquiry → Except Failure Backend.Request
  | .chapters _ => client.request (.chapters id)
  | .header => client.request (.header id)
  | .lastRead => client.request (.manga id)
  | .episodes => client.request (.episodes id)
  | .lastWatched => client.request (.anime id)
  | .add .manga => client.request (.addHistory id)
  | .add .anime => client.request (.addAnimeHistory id)
  | .remove .manga => client.request (.removeHistory id)
  | .remove .anime => client.request (.removeAnimeHistory id)

/-- Whether a good answer says that there was what the command is about; nothing if the answer is
not good. -/
def said? (a : Answer) : Inquiry → Option Bool
  | .chapters _ =>
    ((a.decoded? ChapterGroups.form).bind fun groups =>
      (ChapterIndex.ofGroups? groups).toOption).map fun _ => true
  | .header => (a.decoded? MetaRecord.shape.form).map fun _ => true
  | .lastRead => (a.decoded? MangaRecord.shape.form).map fun _ => true
  | .episodes => (a.decoded? (.list EpisodeRecord.shape.form)).map fun _ => true
  | .lastWatched => (a.decoded? AnimeRecord.shape.form).map fun _ => true
  | .add .manga => (a.decoded? HistoryAck.shape.form).map fun _ => true
  | .add .anime => (a.decoded? AnimeHistoryAck.shape.form).map fun _ => true
  | .remove _ => (a.decoded? RemovalAck.shape.form).map (·.success)

end Inquiry

/-- The exit status that an answer leads to, by what it says if it is good. -/
def exitAfter (a : Answer) : Option Bool → Nat
  | some true => 0
  | some false => 4
  | none => if a.status = 404 then 4 else 1

/-- A run ends with an exit status, leaves a backend and has written no result unless the status
is 0. -/
structure Concludes (s : Session) (after : Backend) (status : Nat)
    (ran : Except CommandError Unit × Session) : Prop where
  exit : exitOf ran.1 = status
  backend : ran.2.backend = after
  output : status ≠ 0 → ran.2.output = s.output

variable {o : Options} {s : Session} {after : Backend} {status : Nat} {library : Library}
  {request : Backend.Request} {a : Answer} {α β : Type}

/-! ### Answers that are not good -/

/-- An error that is told as an answer is that is not good, whatever was looked up. -/
def Missed (a : Answer) (e : ReadError) : Prop :=
  ∀ resource listCommand id,
    (CommandError.ofLookup resource listCommand id e).exit = exitAfter a none

theorem missed_fetch (h : a.isSuccess = true) (message : String) :
    Missed a (.fetch message none) := by
  intro resource listCommand id
  have hstatus : a.status ≠ 404 := by
    intro h404
    rw [Answer.isSuccess, h404] at h
    exact absurd h (by decide)
  rw [exitAfter, if_neg hstatus]
  rfl

theorem missed_failure (a : Answer) : Missed a (.ofFailure a.failure) := by
  intro resource listCommand id
  simp only [CommandError.ofLookup, Answer.failure, ReadError.ofFailure, ReadError.isNotFound,
    exitAfter, beq_iff_eq]
  split_ifs
  · rfl
  · rfl

theorem result_cases (call : Call α) (a : Answer) :
    (∃ x, a.decoded? call.answer = some x ∧ call.result a = .ok x) ∨
      a.decoded? call.answer = none ∧
        ∃ f, call.result a = .error f ∧ Missed a (.ofFailure f) := by
  unfold Answer.decoded? Call.result Body.whole
  cases hsuccess : a.isSuccess with
  | false => exact .inr ⟨rfl, _, rfl, missed_failure a⟩
  | true =>
    rw [Bool.not_true, if_neg Bool.false_ne_true]
    cases a.body.ending with
    | cut => exact .inr ⟨rfl, .transport .cut, rfl, missed_fetch hsuccess _⟩
    | hang => exact .inr ⟨rfl, .transport .expired, rfl, missed_fetch hsuccess _⟩
    | complete =>
      simp only
      cases call.answer.parse a.body.text with
      | ok x => exact .inl ⟨x, rfl, rfl⟩
      | error e => exact .inr ⟨rfl, .undecodable _ _, rfl, missed_fetch hsuccess _⟩

/-! ### One request -/

theorem Concludes.of_ok {notes output : String} :
    Concludes s s.backend 0 (.ok (), { s with notes, output }) :=
  ⟨rfl, rfl, fun h => absurd rfl h⟩

theorem concludes_say (o : Options) (line : String) :
    Concludes s s.backend 0 ((say o line).run s) := by
  rw [run_say_eq]
  exact .of_ok

theorem concludes_report (o : Options) (r : Output.Report) :
    Concludes s s.backend 0 ((report o r).run s) := by
  rw [run_report_eq]
  exact .of_ok

theorem concludes_refuse (e : CommandError) :
    Concludes s s.backend e.exit ((refuse e : Action Unit).run s) :=
  ⟨rfl, rfl, fun _ => rfl⟩

theorem concludes_removed (removed : Bool) {line resource identifier listCommand : String} :
    Concludes s s.backend (exitAfter a (some removed))
      ((if removed then say o line
        else refuse (.notFound resource identifier listCommand) : Action Unit).run s) := by
  cases removed with
  | true => exact concludes_say o line
  | false => exact concludes_refuse (.notFound resource identifier listCommand)

theorem concludes_of_answered {e : Exchange ReadError α} {error : ReadError → CommandError}
    {next : α → Action Unit} {x : α} (hask : e s.backend = (.ok x, after))
    (hnext : ∀ s, Concludes s s.backend status ((next x).run s)) :
    Concludes s after status ((ask error e >>= next).run s) := by
  rw [run_bind, run_ask, hask]
  obtain ⟨hexit, hbackend, houtput⟩ := hnext { s with backend := after }
  exact ⟨hexit, hbackend, houtput⟩

theorem concludes_of_missed {e : Exchange ReadError α} {next : α → Action Unit} {f : ReadError}
    {resource listCommand : String} {id : Int} (hask : e s.backend = (.error f, after))
    (hmissed : Missed a f) :
    Concludes s after (exitAfter a none)
      ((ask (.ofLookup resource listCommand id) e >>= next).run s) := by
  rw [run_bind, run_ask, hask]
  exact ⟨hmissed resource listCommand id, rfl, fun _ => rfl⟩

theorem concludes_fetch (call : Call α) (said : α → Bool) {view : α → β}
    {resource listCommand : String} {id : Int} {next : β → Action Unit}
    (hrequest : library.client.request call = .ok request)
    (hsend : s.backend.send request = (.ok a, after))
    (hnext : ∀ x s, Concludes s s.backend (exitAfter a (some (said x))) ((next (view x)).run s)) :
    Concludes s after (exitAfter a ((a.decoded? call.answer).map said))
      ((ask (.ofLookup resource listCommand id) (library.fetch call view) >>= next).run s) := by
  have hfetch := Library.fetch_of_answer hrequest hsend view
  rcases result_cases call a with ⟨x, hdecoded, hresult⟩ | ⟨hdecoded, f, hresult, hmissed⟩
  · rw [hresult] at hfetch
    rw [hdecoded]
    exact concludes_of_answered hfetch (hnext x)
  · rw [hresult] at hfetch
    rw [hdecoded]
    exact concludes_of_missed hfetch hmissed

theorem concludes_chapters {manga : Int} {next : ChapterIndex → Action Unit}
    (hrequest : library.client.request (.chapters manga) = .ok request)
    (hsend : s.backend.send request = (.ok a, after))
    (hnext : ∀ index s, Concludes s s.backend 0 ((next index).run s)) (group : Option ChapterKind) :
    Concludes s after (exitAfter a ((Inquiry.chapters group).said? a))
      ((ask (.ofSeries manga) (library.chapters manga) >>= next).run s) := by
  have hfetch := Library.fetch_of_answer hrequest hsend (id : ChapterGroups → ChapterGroups)
  have hchapters : library.chapters manga s.backend =
      ((((Call.chapters manga).result a).mapError .ofFailure).bind ChapterIndex.ofGroups?,
        after) := by
    rw [Library.chapters, Client.bind_apply, hfetch]
    cases (Call.chapters manga).result a with
    | ok groups => rfl
    | error f => rfl
  rcases result_cases (.chapters manga) a with
    ⟨groups, hdecoded, hresult⟩ | ⟨hdecoded, f, hresult, hmissed⟩
  · rw [hresult] at hchapters
    have hgroups : a.decoded? ChapterGroups.form = some groups := hdecoded
    rw [Inquiry.said?, hgroups, Option.bind_some]
    -- groups that make no index are refused without a status
    have hindexed : library.chapters manga s.backend = (ChapterIndex.ofGroups? groups, after) :=
      hchapters
    cases hindex : ChapterIndex.ofGroups? groups with
    | ok index =>
      rw [hindex] at hindexed
      exact concludes_of_answered hindexed (hnext index)
    | error e =>
      rw [hindex] at hindexed
      obtain ⟨message, rfl⟩ := ChapterIndex.fetch_of_ofGroups? hindex
      exact concludes_of_missed hindexed (missed_fetch (Answer.isSuccess_of_decoded hgroups) _)
  · rw [hresult] at hchapters
    have hgroups : a.decoded? ChapterGroups.form = none := hdecoded
    rw [Inquiry.said?, hgroups]
    exact concludes_of_missed hchapters hmissed

/-! ### Every inquiry -/

theorem concludes_of_built {manga : Int} {next : Library → Action Unit}
    (hbuilt : (Action.library o manga).run s = (.ok library, s))
    (h : Concludes s after status ((next library).run s)) :
    Concludes s after status ((Action.library o manga >>= next).run s) := by
  rw [run_bind, hbuilt]
  exact h

theorem onWeb_of_built {manga : Int}
    (hbuilt : (Action.library o manga).run s = (.ok library, s)) : library.client.OnWeb := by
  rw [run_library, Prod.mk.injEq, bind_eq_ok_iff] at hbuilt
  obtain ⟨⟨r, hsettings, hlibrary⟩, -⟩ := hbuilt
  exact (Options.onWeb_of_connect hsettings (mapError_eq_ok_iff.mp hlibrary)).1

theorem Inquiry.exists_sent (h : library.client.OnWeb) (q : Inquiry) (id : Int) :
    ∃ request, q.sent library.client id = .ok request := by
  cases q with
  | add medium | remove medium => cases medium <;> exact h.exists_request _
  | _ => exact h.exists_request _

theorem concludes_inquiry (q : Inquiry) {id : Int}
    (hyes : ∀ medium, q = .remove medium → o.yes = true)
    (hbuilt : (Action.library o (q.readerId id)).run s = (.ok library, s))
    (hrequest : q.sent library.client id = .ok request)
    (hsend : s.backend.send request = (.ok a, after)) :
    Concludes s after (exitAfter a (q.said? a)) ((perform o (q.request id)).run s) := by
  cases q with
  | chapters group =>
    show Concludes s after _ ((chapters o id group).run s)
    unfold chapters
    refine concludes_of_built hbuilt ?_
    refine concludes_chapters hrequest hsend (fun index s => ?_) group
    dsimp only
    split_ifs
    · exact concludes_say o _
    · exact concludes_report o _
  | header =>
    show Concludes s after _ ((header o id).run s)
    refine concludes_of_built hbuilt ?_
    exact concludes_fetch (.header id) (fun _ => true) hrequest hsend fun x s =>
      concludes_report o _
  | lastRead =>
    show Concludes s after _ ((lastRead o id).run s)
    refine concludes_of_built hbuilt ?_
    refine concludes_fetch (.manga id) (fun _ => true) hrequest hsend fun x s => ?_
    split
    · exact concludes_say o _
    · exact concludes_report o _
  | episodes =>
    show Concludes s after _ ((episodes o id).run s)
    refine concludes_of_built hbuilt ?_
    refine concludes_fetch (.episodes id) (fun _ => true) hrequest hsend fun x s => ?_
    split_ifs
    · exact concludes_say o _
    · exact concludes_report o _
  | lastWatched =>
    show Concludes s after _ ((lastWatched o id).run s)
    refine concludes_of_built hbuilt ?_
    refine concludes_fetch (.anime id) (fun _ => true) hrequest hsend fun x s => ?_
    split
    · exact concludes_say o _
    · exact concludes_report o _
  | add medium =>
    show Concludes s after _ ((addToHistory o medium id).run s)
    refine concludes_of_built hbuilt ?_
    cases medium with
    | manga =>
      exact concludes_fetch (.addHistory id) (fun _ => true) hrequest hsend fun x s =>
        concludes_say o _
    | anime =>
      exact concludes_fetch (.addAnimeHistory id) (fun _ => true) hrequest hsend fun x s =>
        concludes_say o _
  | remove medium =>
    have hconfirm : ∀ question, confirm o question = pure () := fun question => by
      rw [confirm, hyes medium rfl, if_pos rfl]
    show Concludes s after _ ((removeFromHistory o medium id).run s)
    rw [removeFromHistory, hconfirm, pure_bind]
    refine concludes_of_built hbuilt ?_
    cases medium with
    | manga =>
      exact concludes_fetch (.removeHistory id) (·.success) hrequest hsend fun x s =>
        concludes_removed x.success
    | anime =>
      exact concludes_fetch (.removeAnimeHistory id) (·.success) hrequest hsend fun x s =>
        concludes_removed x.success

/-- **Exit status of an inquiry.** Where the library can be had, every command that asks its backend
for one thing sends the request for it, once. Its exit status is 0 if the answer reports success and
its body is of the form that is wanted, chapters having an index; it is 4 instead if what was to be
removed was not there. If the answer is not good it is 4 where the status is 404, and else 1. No
result is written unless the exit status is 0. -/
theorem exit_of_inquiry (q : Inquiry) (o : Options) (id : Int) (s : Session) (library : Library)
    (hyes : ∀ medium, q = .remove medium → o.yes = true)
    (hbuilt : (Action.library o (q.readerId id)).run s = (.ok library, s)) :
    ∃ request, q.sent library.client id = .ok request ∧
      ∀ a after, s.backend.send request = (.ok a, after) →
        let ran := (perform o (q.request id)).run s
        exitOf ran.1 = exitAfter a (q.said? a) ∧
          (exitOf ran.1 ≠ 0 → ran.2.output = s.output) ∧
          ran.2.backend = after := by
  obtain ⟨request, hrequest⟩ := q.exists_sent (onWeb_of_built hbuilt) id
  refine ⟨request, hrequest, fun a after hsend => ?_⟩
  obtain ⟨hexit, hbackend, houtput⟩ := concludes_inquiry q hyes hbuilt hrequest hsend
  exact ⟨hexit, fun hbad => houtput (hexit ▸ hbad), hbackend⟩

/-! ### A removal of what is not there -/

def sampleYes : Options := { server := some "http://reader", yes := true }

def sampleAbsent : Answer := ⟨200, ⟨["\x7b\"success\":false\x7d".toUTF8.toList], .complete⟩⟩

/-- A backend from whose reading history nothing can be removed. -/
def sampleForgetful : Backend where
  origin := some "http://reader"
  routes := [⟨.delete, "/user/history", [.answer sampleAbsent]⟩]

theorem library_sampleYes :
    (Action.library sampleYes 7).run { backend := sampleForgetful } =
      (.ok Reader.sampleLibrary, { backend := sampleForgetful }) := by
  have hsettings : sampleYes.readerSettings {} 7 =
      .ok { Reader.sampleSettings with manga := 7 } := by decide +kernel
  rw [run_library, hsettings]
  rfl

theorem said?_sampleAbsent : (Inquiry.remove .manga).said? sampleAbsent = some false := by
  decide +kernel

/-- What is not there cannot be removed, of which the exit status tells. -/
theorem exit_of_inquiry_absent :
    let ran := (perform sampleYes (.history .manga (.remove 7))).run { backend := sampleForgetful }
    exitOf ran.1 = 4 ∧ ran.2.output = "" := by
  intro ran
  obtain ⟨request, hrequest, hran⟩ :=
    exit_of_inquiry (.remove .manga) sampleYes 7 { backend := sampleForgetful }
      Reader.sampleLibrary (fun _ _ => rfl) library_sampleYes
  have hsend : (sampleForgetful.send request).1 = .ok sampleAbsent := by
    cases hrequest
    decide +kernel
  obtain ⟨hexit, houtput, -⟩ := hran sampleAbsent (sampleForgetful.send request).2
    (Prod.ext hsend rfl)
  rw [said?_sampleAbsent] at hexit
  exact ⟨hexit, houtput (by rw [hexit]; decide)⟩

end Command

end MangaReader

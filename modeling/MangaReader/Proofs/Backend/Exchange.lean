import MangaReader.Library.Library
import MangaReader.Proofs.Except

/-!
# Exchanges with a backend

A call is a request and a reading of the answer to it.

* `Client.exchange` : sends a request, if there is one.
* `Client.bind_apply`, `Client.perform_eq` : one exchange after another, and that of a call.
* `Library.fetch_eq_view`, `Library.fetch_of_answer` : what is shown of a call is a matter of the
  answer to its request.
-/

namespace MangaReader

open Backend

namespace Client

def exchange (request : Except Failure Request) (b : Backend) : Except Failure Answer × Backend :=
  match request with
  | .error f => (.error f, b)
  | .ok request => ask request b

theorem bind_apply {ε α β : Type} (x : Exchange ε α) (f : α → Exchange ε β) (b : Backend) :
    (x >>= f) b =
      match x b with
      | (.ok a, after) => f a after
      | (.error e, after) => (.error e, after) := by
  show (match x b with
    | (result, after) => ExceptT.bindCont f result after) = _
  rcases x b with ⟨_ | _, _⟩ <;> rfl

theorem perform_eq {α : Type} (client : Client) (call : Call α) (b : Backend) :
    client.perform call b =
      ((exchange (client.request call) b).1.bind call.result,
        (exchange (client.request call) b).2) := by
  unfold perform
  rw [bind_apply]
  cases hrequest : client.request call with
  | error f => rfl
  | ok request =>
    show (ask request >>= _) b = _
    rw [bind_apply]
    cases hask : ask request b with
    | mk outcome after => cases outcome <;> simp [exchange, hask] <;> rfl

end Client

namespace Library

open Client

theorem fetch_eq_view {α β : Type} (library : Library) (call : Call α) (view : α → β) :
    ∃ read : Except Failure Answer → Except ReadError β, ∀ b, library.fetch call view b =
      (read (exchange (library.client.request call) b).1,
        (exchange (library.client.request call) b).2) := by
  refine ⟨fun outcome => ((outcome.bind call.result).map view).mapError .ofFailure, fun b => ?_⟩
  simp only [fetch, perform_eq]
  cases (exchange (library.client.request call) b).1.bind call.result <;> rfl

variable {α β : Type} {library : Library} {call : Call α} {b after : Backend}

theorem fetch_snd {view : α → β} :
    (library.fetch call view b).2 = (exchange (library.client.request call) b).2 := by
  obtain ⟨read, hfetch⟩ := library.fetch_eq_view call view
  rw [hfetch]

theorem fetch_of_answer {request : Request} {a : Answer}
    (hrequest : library.client.request call = .ok request)
    (hsend : b.send request = (.ok a, after)) (view : α → β) :
    library.fetch call view b = (((call.result a).map view).mapError .ofFailure, after) := by
  simp only [fetch, perform_eq, hrequest, exchange, ask, hsend, mapError_ok, Except.bind]
  cases call.result a with
  | ok x => rfl
  | error f => rfl

end Library

end MangaReader

import MangaReader.Proofs.Backend.Alike
import MangaReader.Proofs.Backend.Sent

/-!
# What watching asks a backend for

Watching asks for the episodes of a show, for the one watched last and for a video, and it records
in the watching history what is watched.

* `Backend.Asking`, `Backend.Asking.request` : one thing that is asked for, and its request.
* `Client.after`, `Client.received_after` : what several requests leave of a backend.
* `Client.AlikeButHistory`, `Client.alikeButHistory_of_routes` : two backends that differ only in
  their answers about the history, as scripts do that differ in its routes.
* `Client.Alongside.exchange` : what one more request does to them.
-/

namespace MangaReader

open Backend

inductive Backend.Asking where
  | episodes (anime : Int)
  | lastWatched (anime : Int)
  | adding (anime : Int)
  | video (episode : Int)
  | recording (anime episode : Int)
  deriving DecidableEq, Repr

namespace Backend.Asking

def isHistory : Asking → Bool
  | .adding _ | .recording _ _ => true
  | .episodes _ | .lastWatched _ | .video _ => false

def method : Asking → Method
  | .adding _ => .post
  | .recording _ _ => .put
  | .episodes _ | .lastWatched _ | .video _ => .get

def endpoint : Asking → Endpoint
  | .episodes anime => .episodes anime
  | .lastWatched anime => .anime anime
  | .video episode => .episode episode
  | .adding _ | .recording _ _ => .animeHistory

def fields : Asking → Option (List (String × String))
  | .adding anime => some [("anime_id", toString anime)]
  | .recording anime episode =>
    some [("anime_id", toString anime), ("episode_id", toString episode)]
  | .episodes _ | .lastWatched _ | .video _ => none

def request (client : Client) (x : Asking) : Except Failure Request :=
  match x.endpoint.url client.base with
  | .error fault => .error (.invalidUrl fault)
  | .ok url =>
    .ok { method := x.method, url := url.anonymous, cookie := client.cookie, form := x.fields }

end Backend.Asking

namespace Client

def after (client : Client) (b : Backend) (asked : List Asking) : Backend :=
  asked.foldl (fun b x => (exchange (x.request client) b).2) b

variable {client : Client} {b b₁ b₂ : Backend} {x : Asking}

theorem after_cons (client : Client) (b : Backend) (x : Asking) (asked : List Asking) :
    client.after b (x :: asked) = client.after (exchange (x.request client) b).2 asked := rfl

theorem after_append (client : Client) (b : Backend) (asked rest : List Asking) :
    client.after b (asked ++ rest) = client.after (client.after b asked) rest :=
  List.foldl_append

theorem OnWeb.exists_sent (h : client.OnWeb) (x : Asking) :
    ∃ sent, x.request client = .ok sent ∧ sent.url.isWeb = true ∧
      sent.url.origin = client.base.origin := by
  obtain ⟨url, hurl, hweb, horigin⟩ := h.exists_url x.endpoint
  rw [Asking.request, hurl]
  exact ⟨_, rfl, hweb, horigin⟩

theorem OnWeb.exchange_leaves (h : client.OnWeb) (x : Asking) (b : Backend) :
    ∃ sent, x.request client = .ok sent ∧
      (exchange (x.request client) b).2.origin = b.origin ∧
      (exchange (x.request client) b).2.received =
        b.received ++ if b.origin = some client.base.origin then [sent] else [] := by
  obtain ⟨sent, hsent, hweb, horigin⟩ := h.exists_sent x
  obtain ⟨hsame, hreceived⟩ := Backend.send_leaves hweb b
  rw [horigin] at hreceived
  rw [hsent]
  exact ⟨sent, rfl, hsame, hreceived⟩

/-- **A backend that is reached has received all requests in turn**; others receive none. -/
theorem received_after (h : client.OnWeb) (b : Backend) (asked : List Asking) :
    ∃ requests, asked.mapM (·.request client) = .ok requests ∧
      (client.after b asked).origin = b.origin ∧
      (client.after b asked).received =
        b.received ++ if b.origin = some client.base.origin then requests else [] := by
  induction asked generalizing b with
  | nil => exact ⟨[], rfl, rfl, by simp [after]⟩
  | cons x rest ih =>
    obtain ⟨sent, hsent, horigin, hreceived⟩ := h.exchange_leaves x b
    obtain ⟨requests, hrequests, horigin', hreceived'⟩ := ih (exchange (x.request client) b).2
    refine ⟨sent :: requests, ?_, ?_, ?_⟩
    · rw [List.mapM_cons, hsent, hrequests]
      rfl
    · rw [after_cons, horigin', horigin]
    · rw [after_cons, hreceived', hreceived, horigin, List.append_assoc]
      split_ifs
      · rfl
      · rfl

/-! ### Two backends -/

/-- Two backends that differ only in their answers about the watching history. -/
abbrev AlikeButHistory (client : Client) (b₁ b₂ : Backend) : Prop :=
  AlikeBut (Asking.request client) Asking.isHistory b₁ b₂

/-- Two backends that differ only in their answers about the history, both of which are reached or
neither. -/
structure Alongside (client : Client) (b₁ b₂ : Backend) : Prop where
  alike : client.AlikeButHistory b₁ b₂
  reached : b₁.origin = some client.base.origin ↔ b₂.origin = some client.base.origin

theorem Alongside.of_alike (hclient : client.OnWeb) (h : client.AlikeButHistory b₁ b₂) :
    client.Alongside b₁ b₂ := by
  have hread : Asking.isHistory (.episodes 0) = false := rfl
  obtain ⟨sent, hsent, hweb, horigin⟩ := hclient.exists_sent (.episodes 0)
  have hanswer := (h.reads hread).1
  have hrefused : ∀ b : Backend, (exchange (.ok sent) b).1 =
      .error (.transport (.refused sent.url.text)) ↔ ¬ b.origin = some client.base.origin := by
    intro b
    rw [← horigin, ← ne_eq, ← Backend.send_refused_iff hweb]
    simp only [exchange, ask]
    cases (b.send sent).1 with
    | ok answer => simp [mapError_ok]
    | error fault => simp [mapError_error]
  rw [hsent] at hanswer
  refine ⟨h, Decidable.not_iff_not.mp ?_⟩
  rw [← hrefused, ← hrefused, hanswer]

/-- **One more request leaves them alongside each other.** Both receive it or neither, and the
answer is the same unless it is about the history. -/
theorem Alongside.exchange (h : client.Alongside b₁ b₂) (hclient : client.OnWeb) (x : Asking) :
    ∃ received,
      (exchange (x.request client) b₁).2.received = b₁.received ++ received ∧
      (exchange (x.request client) b₂).2.received = b₂.received ++ received ∧
      client.Alongside (exchange (x.request client) b₁).2 (exchange (x.request client) b₂).2 ∧
      (x.isHistory = false →
        (exchange (x.request client) b₁).1 = (exchange (x.request client) b₂).1) := by
  obtain ⟨sent, hsent, horigin₁, hreceived₁⟩ := hclient.exchange_leaves x b₁
  obtain ⟨sent', hsent', horigin₂, hreceived₂⟩ := hclient.exchange_leaves x b₂
  obtain rfl : sent = sent' := by simpa [hsent] using hsent'
  -- what they have received before may differ, what they receive now does not
  simp only [← h.reached] at hreceived₂
  have hreached : (Client.exchange (x.request client) b₁).2.origin = some client.base.origin ↔
      (Client.exchange (x.request client) b₂).2.origin = some client.base.origin := by
    rw [horigin₁, horigin₂, h.reached]
  cases hx : x.isHistory with
  | true =>
    have halike := ((h.alike.skips hx).symm.skips hx).symm
    exact ⟨_, hreceived₁, hreceived₂, ⟨halike, hreached⟩, fun h => nomatch h⟩
  | false =>
    obtain ⟨hanswer, halike⟩ := h.alike.reads hx
    exact ⟨_, hreceived₁, hreceived₂, ⟨halike, hreached⟩, fun _ => hanswer⟩

/-! ### Scripts -/

theorem method_of_request {sent : Request} (h : x.request client = .ok sent) :
    sent.method = x.method := by
  unfold Asking.request at h
  split at h
  · cases h
  · cases h
    rfl

theorem routesApart_history (client : Client) :
    RoutesApart (Asking.request client) Asking.isHistory := by
  rintro x sent route hx hsent hadmits ⟨y, sent', hy, hsent', hadmits'⟩
  simp only [Route.admits, Bool.and_eq_true, beq_iff_eq] at hadmits hadmits'
  have hmethod : x.method = y.method := by
    rw [← method_of_request hsent, ← method_of_request hsent', ← hadmits.1, hadmits'.1]
  cases x with
  | adding | recording => cases hx
  | episodes | lastWatched | video =>
    cases y with
    | adding | recording => cases hmethod
    | episodes | lastWatched | video => cases hy

/-- **Scripts that differ in the routes of the history** differ only in their answers about it. -/
theorem alikeButHistory_of_routes
    (h : SameRoutesBut (Asking.request client) Asking.isHistory b₁ b₂) :
    client.AlikeButHistory b₁ b₂ :=
  h.alikeBut client.routesApart_history

end Client

end MangaReader

import MangaReader.Proofs.Backend.Alike
import Mathlib.Data.List.Infix

/-!
# Backends that agree on what is read

A reader asks its backend for the chapters of a series and for the pages of a chapter, and it
records in the reading history what was opened. Two backends agree if all that tells them apart are
their answers about the history. Scripts do whose routes are the same but for those of the history:
no route serves both.

* `Backend.Need` : what a reader asks a backend for.
* `Client.Agree` : backends that are alike but for the history.
* `Client.routesApart` : no route serves both the history and what is read.
* `Client.SameButHistory.agree` : scripts that differ in the routes of the history agree.
-/

namespace MangaReader

open Backend

/-- What a reader asks a backend for. -/
inductive Backend.Need where
  | chapters (manga : Int)
  | pages (chapter : Int)
  | recording (manga chapter : Int)
  | lastRead (manga : Int)
  deriving DecidableEq, Repr

namespace Backend.Need

def isHistory : Need → Bool
  | .chapters _ | .pages _ => false
  | .recording _ _ | .lastRead _ => true

def request (client : Client) : Need → Except Failure Request
  | .chapters manga => client.request (.chapters manga)
  | .pages chapter => client.feedRequest chapter
  | .recording manga chapter => client.request (.updateHistory manga chapter)
  | .lastRead manga => client.request (.manga manga)

def endpoint : Need → Endpoint
  | .chapters manga => .chapters manga
  | .pages chapter => .pages chapter
  | .recording _ _ => .history
  | .lastRead manga => .manga manga

def method : Need → Method
  | .recording _ _ => .put
  | .chapters _ | .pages _ | .lastRead _ => .get

end Backend.Need

namespace Client

def meet (client : Client) (need : Need) (b : Backend) : Except Failure Answer × Backend :=
  exchange (need.request client) b

/-- Two backends that differ only in their answers about the reading history. -/
abbrev Agree (client : Client) (b₁ b₂ : Backend) : Prop :=
  AlikeBut (Need.request client) Need.isHistory b₁ b₂

variable {client : Client} {b₁ b₂ : Backend} {need : Need}

/-! ### What is made of the answers -/

theorem openFeed_eq_view (client : Client) (chapter : Int) :
    ∃ view : Except Failure Answer → Opening, ∀ b, client.openFeed chapter b =
      (view (client.meet (.pages chapter) b).1, (client.meet (.pages chapter) b).2) := by
  refine ⟨fun | .ok answer => feedOf answer | .error f => .failed f, fun b => ?_⟩
  have hmeet : client.meet (.pages chapter) b = exchange (client.feedRequest chapter) b := rfl
  rw [hmeet, openFeed]
  cases hrequest : client.feedRequest chapter with
  | error f => simp [exchange]
  | ok request =>
    cases hsend : b.send request with
    | mk outcome after => cases outcome <;> simp [exchange, ask, hsend, mapError_ok, mapError_error]

end Client

namespace Library

open Client

theorem chapters_eq_view (library : Library) (manga : Int) :
    ∃ read : Except Failure Answer → Except ReadError ChapterIndex, ∀ b,
      library.chapters manga b = (read (library.client.meet (.chapters manga) b).1,
        (library.client.meet (.chapters manga) b).2) := by
  obtain ⟨read, hfetch⟩ := library.fetch_eq_view (.chapters manga) id
  refine ⟨fun outcome => (read outcome).bind ChapterIndex.ofGroups?, fun b => ?_⟩
  have hmeet : library.client.meet (.chapters manga) b =
      exchange (library.client.request (.chapters manga)) b := rfl
  unfold chapters
  rw [hmeet, bind_apply, hfetch]
  cases hread : read (exchange (library.client.request (.chapters manga)) b).1 <;>
    simp only [hread] <;> rfl

end Library

/-! ### Scripts -/

namespace Client

variable {client : Client} {b₁ b₂ : Backend} {need other : Need} {request : Request}
  {route : Route}

theorem url_of_request (h : need.request client = .ok request) :
    request.method = need.method ∧
      ∃ url, need.endpoint.url client.base = .ok url ∧ request.url.path = url.path := by
  cases need with
  | chapters | recording | lastRead =>
    simp only [Need.request, Client.request] at h
    split at h
    · cases h
    · rename_i url hurl
      cases h
      exact ⟨rfl, url, hurl, rfl⟩
  | pages =>
    simp only [Need.request, feedRequest] at h
    split at h
    · cases h
    · rename_i url hurl
      cases h
      exact ⟨rfl, url, hurl, rfl⟩

theorem exists_front (client : Client) :
    ∃ front : List Char, ∀ (need : Need) (request : Request), need.request client = .ok request →
      request.url.path.text.toList =
        front ++ (UrlPath.segments need.endpoint.path).text.toList := by
  cases hbase : client.base.path with
  | whole text =>
    refine ⟨[], fun need request hrequest => ?_⟩
    obtain ⟨-, url, hurl, -⟩ := url_of_request hrequest
    simp [Endpoint.url, Url.resolve, hbase, Except.map] at hurl
  | segments old =>
    refine ⟨(UrlPath.segments old.dropLast).text.toList, fun need request hrequest => ?_⟩
    obtain ⟨-, url, hurl, hpath⟩ := url_of_request hrequest
    have hsegments : url.path = .segments (old.dropLast ++ need.endpoint.path) := by
      simp only [Endpoint.url, Url.resolve, hbase, Except.map, Except.ok.injEq] at hurl
      rw [← hurl, Url.withPairs]
      split <;> rfl
    rw [hpath, hsegments, ← String.toList_append]
    simp only [UrlPath.text, List.map_append, String.join_append]

theorem path_prefix_of_admits (h : route.admits request = true) :
    request.url.path.text.toList <+: route.target.toList := by
  rw [Route.admits, Bool.and_eq_true, Bool.or_eq_true, beq_iff_eq] at h
  obtain ⟨-, htarget | hpath⟩ := h
  · rw [beq_iff_eq] at htarget
    rw [htarget, Url.target, String.toList_append]
    exact List.prefix_append _ _
  · rw [Bool.and_eq_true, beq_iff_eq] at hpath
    rw [hpath.2]

/-- **No route serves both the history and what is read**: what is asked for differs in its method
or in its path, neither of which begins with the other. -/
theorem routesApart (client : Client) : RoutesApart (Need.request client) Need.isHistory := by
  rintro need request route hneed hrequest hadmits ⟨other, asked, hother, hasked, hroute⟩
  have hmethod : need.method = other.method := by
    have hfirst : route.method = request.method := by
      simp only [Route.admits, Bool.and_eq_true, beq_iff_eq] at hadmits
      exact hadmits.1
    have hsecond : route.method = asked.method := by
      simp only [Route.admits, Bool.and_eq_true, beq_iff_eq] at hroute
      exact hroute.1
    rw [← (url_of_request hrequest).1, ← (url_of_request hasked).1, ← hfirst, hsecond]
  obtain ⟨front, hfront⟩ := client.exists_front
  have hread := path_prefix_of_admits hadmits
  have hhistory := path_prefix_of_admits hroute
  rw [hfront _ _ hrequest] at hread
  rw [hfront _ _ hasked] at hhistory
  have hplaces := List.prefix_or_prefix_of_prefix hread hhistory
  rw [List.prefix_append_right_inj, List.prefix_append_right_inj] at hplaces
  cases need with
  | recording | lastRead => cases hneed
  | chapters | pages =>
    cases other with
    | chapters | pages => cases hother
    | recording => cases hmethod
    | lastRead =>
      simp only [Need.endpoint, Endpoint.path] at hplaces
      exact absurd hplaces (by decide)

/-- Two scripts at one address whose routes are the same but for those of the history. -/
abbrev SameButHistory (client : Client) (b₁ b₂ : Backend) : Prop :=
  SameRoutesBut (Need.request client) Need.isHistory b₁ b₂

theorem SameButHistory.agree (h : client.SameButHistory b₁ b₂) : client.Agree b₁ b₂ :=
  h.alikeBut client.routesApart

end Client

end MangaReader

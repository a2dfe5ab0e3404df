import MangaReader.Library.Library
import MangaReader.Proofs.Except

/-!
# Requests to a web address

A client whose base is a web address that slashes divide has a request for every call. All of them
go to the origin of the base.

* `Client.OnWeb` : a client of such an address.
* `Client.OnWeb.exists_url`, `Client.OnWeb.exists_request` : it can ask for everything.
* `Backend.send_leaves`, `Backend.send_refused_iff` : what comes of a request to a web address.
-/

namespace MangaReader

open Backend

/-- A client whose base is a web address with a path that slashes divide. -/
structure Client.OnWeb (client : Client) : Prop where
  web : client.base.isWeb = true
  divided : ∃ names, client.base.path = .segments names

namespace Client

variable {client : Client}

theorem OnWeb.exists_url (h : client.OnWeb) (endpoint : Endpoint) :
    ∃ url, endpoint.url client.base = .ok url ∧ url.isWeb = true ∧
      url.origin = client.base.origin := by
  obtain ⟨names, hnames⟩ := h.divided
  simp only [Endpoint.url, Url.resolve, hnames, Except.map]
  refine ⟨_, rfl, ?_⟩
  unfold Url.withPairs
  split
  · exact ⟨h.web, rfl⟩
  · exact ⟨h.web, rfl⟩

theorem OnWeb.exists_request {α : Type} (h : client.OnWeb) (call : Call α) :
    ∃ request, client.request call = .ok request := by
  obtain ⟨url, hurl, -⟩ := h.exists_url call.endpoint
  rw [Client.request, hurl]
  exact ⟨_, rfl⟩

end Client

theorem Library.onWeb_of_connect {files : Files} {access : Access} {assets : AssetPaths}
    {server : Url} {library : Library} (hweb : server.isWeb = true)
    (hdivided : ∃ names, server.path = .segments names)
    (h : Library.connect files access assets server = .ok library) :
    library.client.OnWeb ∧ library.client.base.origin = server.origin := by
  have hbase : library.client.base = server.withSlash := by
    unfold Library.connect Client.connect at h
    split at h
    · rename_i client hclient
      split at hclient
      · cases hclient
      · cases hclient
      · cases hclient
        cases h
        rfl
    · cases h
  obtain ⟨names, hnames⟩ := hdivided
  refine ⟨⟨?_, ?_⟩, ?_⟩
  · rw [hbase]
    exact hweb
  · rw [hbase]
    simp only [Url.withSlash, UrlPath.withSlash, hnames]
    split
    · exact ⟨_, rfl⟩
    · exact ⟨_, rfl⟩
  · rw [hbase]
    rfl

/-- **What a request to a web address leaves of a backend**: it is recorded if it reaches it. -/
theorem Backend.send_leaves {request : Request} (hweb : request.url.isWeb = true) (b : Backend) :
    (b.send request).2.origin = b.origin ∧
      (b.send request).2.received =
        b.received ++ if b.origin = some request.url.origin then [request] else [] := by
  unfold Backend.send
  rw [hweb, Bool.not_true, if_neg (by decide)]
  by_cases horigin : b.origin = some request.url.origin
  · rw [if_neg (by simp [horigin]), if_pos horigin]
    exact ⟨rfl, rfl⟩
  · rw [if_pos (by simp [horigin]), if_neg horigin, List.append_nil]
    exact ⟨rfl, rfl⟩

theorem Backend.send_refused_iff {request : Request} (hweb : request.url.isWeb = true)
    (b : Backend) :
    (b.send request).1 = .error (.refused request.url.text) ↔
      b.origin ≠ some request.url.origin := by
  unfold Backend.send
  rw [hweb, Bool.not_true, if_neg (by decide)]
  by_cases horigin : b.origin = some request.url.origin
  · rw [if_neg (by simp [horigin])]
    refine ⟨fun h => ?_, fun h => absurd horigin h⟩
    dsimp only at h
    split at h
    · cases h
    · cases h
  · rw [if_pos (by simp [horigin])]
    exact ⟨fun _ => horigin, fun _ => rfl⟩

end MangaReader

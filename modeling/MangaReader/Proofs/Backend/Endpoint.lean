import MangaReader.Backend.Client
import MangaReader.Proofs.Url.Path

/-!
# Where a backend is asked

The address of a backend gets a slash at the end of its path, unless it has one, and what it is
asked for goes behind that slash.

* `Url.slashed` : the text of a path with a slash at its end.
* `UrlPath.Divided` : a path of segments that are read unchanged, as that of every web address.
* `UrlPath.Divided.withSlash` : its path is set to that text, in which nothing is encoded anew.
* `Backend.endpoints_of_base` : **the URLs of the endpoints** at a web address.
-/

namespace MangaReader

open Url

def Url.slashed (path : String) : String :=
  if path.toList.getLast? = some '/' then path else path ++ "/"

namespace UrlPath

/-- A path of segments that are read unchanged. -/
structure Divided (path : UrlPath) (names : List String) : Prop where
  eq : path = .segments names
  ne_nil : names ≠ []
  isSegment : ∀ name ∈ names, IsSegment name.toList

variable {path : UrlPath} {names : List String}

theorem Divided.pathOf_text (h : path.Divided names) : pathOf true path.text.toList = path := by
  rw [h.eq]
  exact pathOf_segments h.ne_nil h.isSegment

theorem Divided.eq_of_text {path' : UrlPath} {names' : List String} (h : path.Divided names)
    (h' : path'.Divided names') (htext : path.text = path'.text) : path = path' := by
  rw [← h.pathOf_text, ← h'.pathOf_text, htext]

theorem text_concat (names : List String) (name : String) :
    (UrlPath.segments (names ++ [name])).text = (UrlPath.segments names).text ++ "/" ++ name := by
  simp [UrlPath.text, String.join_append, String.append_assoc]

theorem Divided.endsWithSlash_iff (h : path.Divided names) :
    path.endsWithSlash = true ↔ path.text.toList.getLast? = some '/' := by
  obtain ⟨rfl, hne, hnames⟩ := h
  obtain ⟨front, last, rfl⟩ := (List.eq_nil_or_concat' names).resolve_left hne
  have hwhole := (hnames last (by simp)).whole
  have hlast : (front ++ [last]).getLast? = some last := by simp
  rw [text_concat, String.toList_append, String.toList_append, UrlPath.endsWithSlash, hlast]
  rcases List.eq_nil_or_concat' last.toList with hnil | ⟨more, c, hconcat⟩
  · have hempty : last = "" := String.toList_inj.mp hnil
    simp [hempty]
  · have hc : c ≠ '/' := by
      rintro rfl
      exact absurd (hwhole '/' (by simp [hconcat])) (by decide)
    have hfilled : last ≠ "" := by
      rintro rfl
      simp at hconcat
    rw [hconcat, ← List.append_assoc, List.getLast?_concat]
    simp [hfilled, hc]

/-- **A slash at the end of a path**: it goes behind the text, unless that has one, and the path is
divided as before. -/
theorem Divided.withSlash (h : path.Divided names) :
    ∃ front, path.withSlash.Divided (front ++ [""]) ∧ path.withSlash.text = slashed path.text := by
  rw [slashed, UrlPath.withSlash.eq_def]
  by_cases hends : path.endsWithSlash = true
  · rw [if_pos hends, if_pos (h.endsWithSlash_iff.mp hends)]
    obtain ⟨front, last, rfl⟩ := (List.eq_nil_or_concat' names).resolve_left h.ne_nil
    have hlast : last = "" := by
      rw [h.eq, UrlPath.endsWithSlash] at hends
      simpa using hends
    exact ⟨front, hlast ▸ h, rfl⟩
  · rw [if_neg hends, if_neg (mt h.endsWithSlash_iff.mpr hends)]
    obtain ⟨rfl, hne, hnames⟩ := h
    refine ⟨names, ⟨rfl, by simp, ?_⟩, ?_⟩
    · rw [List.forall_mem_append]
      exact ⟨hnames, by simpa using isSegment_nil⟩
    · rw [text_concat]
      simp

end UrlPath

namespace Backend

variable {text : String} {base : Url}

theorem exists_divided (hparse : Url.parse text = .ok base) (hweb : base.isWeb = true) :
    ∃ names, base.path.Divided names := by
  obtain ⟨rest, hpath⟩ := path_of_parse hparse hweb
  obtain ⟨names, hnames, hne, hsegment⟩ := exists_segments rest
  exact ⟨names, hpath.trans hnames, hne, hsegment⟩

theorem Endpoint.text_path (endpoint : Endpoint) (front : List String) :
    (UrlPath.segments (front ++ endpoint.path)).text =
      (UrlPath.segments (front ++ [""])).text ++ "/".intercalate endpoint.path := by
  rw [UrlPath.text_concat]
  cases endpoint <;> simp [UrlPath.text, String.join_append, Endpoint.path, String.append_assoc]

theorem Endpoint.url_eq (endpoint : Endpoint) {front : List String}
    (h : base.path = .segments (front ++ [""])) :
    ∃ query, endpoint.url base =
        .ok { base with path := .segments (front ++ endpoint.path), query, fragment := none } ∧
      Form.decode (query.getD "") = endpoint.query ∧ (query.isSome ↔ endpoint.query ≠ []) := by
  simp only [Endpoint.url, Url.resolve, h, Except.map, List.dropLast_concat, Url.withPairs]
  split
  · rename_i hempty
    rw [List.isEmpty_iff] at hempty
    exact ⟨none, rfl, by rw [hempty]; rfl, by simp [hempty]⟩
  · rename_i hfilled
    rw [List.isEmpty_iff] at hfilled
    exact ⟨some _, rfl, Form.decode_encode endpoint.query, by simp [hfilled]⟩

/-- **The URLs of the endpoints** at a web address. Its path gets a slash at its end, once and only
if it has none, and nothing in it is encoded anew where it is set again. What is asked for goes
behind that slash; of the address the URL keeps all but query and fragment, and its own query holds
what is asked for and nothing else. So it makes no difference whether the address has that slash. -/
theorem endpoints_of_base (hparse : Url.parse text = .ok base) (hweb : base.isWeb = true) :
    base.withSlash.withSlash = base.withSlash ∧
    base.withSlash = { base with path := pathOf true (slashed base.path.text).toList } ∧
    base.withSlash.path.text = slashed base.path.text ∧
    (∀ endpoint : Endpoint, ∃ path query,
      endpoint.url base.withSlash = .ok { base with path, query, fragment := none } ∧
        path.text = slashed base.path.text ++ "/".intercalate endpoint.path ∧
        Form.decode (query.getD "") = endpoint.query ∧ (query.isSome ↔ endpoint.query ≠ [])) ∧
    ∀ {text' : String} {base' : Url}, Url.parse text' = .ok base' →
      base' = { base with path := base'.path } → base.path.text.toList.getLast? ≠ some '/' →
      base'.path.text = base.path.text ++ "/" →
      ∀ files access, Client.connect files access base' = Client.connect files access base := by
  obtain ⟨names, hnames⟩ := exists_divided hparse hweb
  obtain ⟨front, hfront, htext⟩ := hnames.withSlash
  have hpath : pathOf true (slashed base.path.text).toList = base.path.withSlash := by
    rw [← htext]
    exact hfront.pathOf_text
  have htwice : base.withSlash.withSlash = base.withSlash := by
    have hends : base.path.withSlash.endsWithSlash = true := by
      rw [hfront.eq, UrlPath.endsWithSlash]
      simp
    simp only [Url.withSlash]
    rw [UrlPath.withSlash.eq_def base.path.withSlash, if_pos hends]
  refine ⟨htwice, by rw [hpath]; rfl, htext, fun endpoint => ?_, ?_⟩
  · obtain ⟨query, hurl, hquery⟩ := @Endpoint.url_eq base.withSlash endpoint _ hfront.eq
    refine ⟨_, query, hurl, ?_, hquery⟩
    rw [endpoint.text_path, ← htext, hfront.eq]
  · intro text' base' hparse' hsame hends hslash files access
    have hweb' : base'.isWeb = true := by
      rw [hsame]
      exact hweb
    obtain ⟨names', hnames'⟩ := exists_divided hparse' hweb'
    -- Paths of web addresses are the same if their texts are.
    have hbase' : base' = base.withSlash := by
      have hpaths : base'.path = base.path.withSlash :=
        hnames'.eq_of_text hfront (by rw [hslash, htext, slashed, if_neg hends])
      rw [hsame, hpaths]
      rfl
    rw [Client.connect, Client.connect, hbase', htwice]

def sampleAddress : Url where
  scheme := "http"
  host := some "reader.local"
  port := some 8080
  path := .segments ["ac", "v%201"]
  query := some "x=1"
  fragment := some "top"

def sampleSearch : Endpoint := .search "a+b&c=100% é" "manhuaren"

theorem endpoints_of_base_searched :
    Url.parse "http://Reader.local:8080/ac/v 1?x=1#top" = .ok sampleAddress ∧
    sampleAddress.isWeb = true ∧
    ∃ path query,
      sampleSearch.url sampleAddress.withSlash =
          .ok { sampleAddress with path, query, fragment := none } ∧
        path.text = "/ac/v%201/api/search" ∧
        Form.decode (query.getD "") =
          [("keyword", "a+b&c=100% é"), ("site", "manhuaren")] := by
  have hparse : Url.parse "http://Reader.local:8080/ac/v 1?x=1#top" = .ok sampleAddress := rfl
  have hweb : sampleAddress.isWeb = true := by decide
  obtain ⟨path, query, hurl, htext, hquery, -⟩ :=
    (endpoints_of_base hparse hweb).2.2.2.1 sampleSearch
  refine ⟨hparse, hweb, path, query, hurl, ?_, hquery⟩
  rw [htext]
  decide

end Backend

end MangaReader

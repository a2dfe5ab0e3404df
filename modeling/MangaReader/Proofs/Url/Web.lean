import MangaReader.Proofs.Except
import MangaReader.Url.Parse

/-!
# Web addresses

* `Url.path_of_parse` : the path of a web address that has been read is a text divided by slashes.
* `Url.segments_of_parse` : so it has segments.
-/

namespace MangaReader.Url

variable {scheme text : String} {chars : List Char} {url : Url}

theorem exists_segments_pathOf (special : Bool) (chars : List Char) :
    ∃ names, pathOf special chars = .segments names := by
  unfold pathOf
  split
  · exact ⟨_, rfl⟩
  · exact ⟨_, rfl⟩

theorem path_of_authority (h : authority scheme chars = .ok url) :
    url.scheme = scheme ∧ ∃ rest, url.path = pathOf (isSpecial scheme) rest := by
  unfold authority at h
  simp only at h
  split at h
  · cases h
  · split at h
    all_goals
      obtain ⟨host, -, h⟩ := bind_eq_ok_iff.mp h
      obtain ⟨port, -, h⟩ := bind_eq_ok_iff.mp h
      cases h
      exact ⟨rfl, _, rfl⟩

theorem scheme_of_file (h : file chars = .ok url) : url.scheme = "file" := by
  unfold file at h
  split at h
  · simp only at h
    split at h
    · cases h
      rfl
    · split at h
      · cases h
        rfl
      · obtain ⟨host, -, h⟩ := bind_eq_ok_iff.mp h
        cases h
        rfl
  · cases h
    rfl

theorem path_of_body (h : body scheme chars = .ok url) (hweb : url.isWeb = true) :
    ∃ rest, url.path = pathOf true rest := by
  have hscheme : url.scheme = "http" ∨ url.scheme = "https" := by simpa [isWeb] using hweb
  have hspecial : isSpecial url.scheme = true := by rcases hscheme with h | h <;> rw [h] <;> rfl
  unfold body at h
  split at h
  · rw [scheme_of_file h] at hscheme
    exact absurd hscheme (by decide)
  · split at h
    · rename_i hknown
      rw [← hknown]
      exact (path_of_authority h).2
    · rename_i hother
      split at h
      · rw [(path_of_authority h).1] at hspecial
        exact absurd hspecial hother
      · cases h
        exact absurd hspecial hother
      · cases h
        exact absurd hspecial hother

/-- **The path of a web address** that has been read is a text divided by slashes. -/
theorem path_of_parse (h : parse text = .ok url) (hweb : url.isWeb = true) :
    ∃ rest, url.path = pathOf true rest := by
  unfold parse at h
  simp only at h
  split at h
  · cases h
  · obtain ⟨inner, hbody, h⟩ := bind_eq_ok_iff.mp h
    cases h
    have hinner : inner.isWeb = true := hweb
    obtain ⟨rest, hpath⟩ := path_of_body hbody hinner
    exact ⟨rest, hpath⟩

theorem segments_of_parse (h : parse text = .ok url) (hweb : url.isWeb = true) :
    ∃ names, url.path = .segments names := by
  obtain ⟨rest, hpath⟩ := path_of_parse h hweb
  rw [hpath]
  exact exists_segments_pathOf true rest

end MangaReader.Url

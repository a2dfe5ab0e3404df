import MangaReader.Proofs.Text.Ascii
import MangaReader.Proofs.Url.Form
import MangaReader.Proofs.Url.Web
import Mathlib.Data.List.Infix

/-!
# The path of a web address

A path is written as it is read: what stands in its segments needs no more encoding, divides no
segment and goes up or down nowhere. So a path can be set again to its own text, and two paths of
one text are the same.

* `Url.IsSegment` : a text that is read as one segment, unchanged.
* `Url.segment_encode` : what a segment is encoded as is such a text.
* `Url.pathOf_segments` : **such segments are read from their text**.
* `Url.exists_segments` : the path of a web address is made of them.
-/

namespace MangaReader.Url

/-- A text that is read as one segment of a path of the web, unchanged. -/
structure IsSegment (name : List Char) : Prop where
  kept : ∀ c ∈ name, Percent.inPath c = true
  whole : ∀ c ∈ name, isSlash true c = false
  noDot : isDot name = false
  noDots : isDotDot name = false

theorem isSegment_nil : IsSegment [] := ⟨nofun, nofun, by decide, by decide⟩

/-! ### Encoded segments -/

theorem Percent.encode_of_kept {keep : Char → Bool} {text : List Char}
    (h : ∀ c ∈ text, keep c = true) : encode keep text = text := by
  induction text with
  | nil => rfl
  | cons c text ih =>
    obtain ⟨hc, htext⟩ := List.forall_mem_cons.mp h
    rw [encode, List.flatMap_cons, char, if_pos hc]
    exact congrArg (c :: ·) (ih htext)

theorem Percent.mem_encode {keep : Char → Bool} {text : List Char} {c : Char}
    (h : c ∈ encode keep text) :
    c ∈ text ∧ keep c = true ∨ c = '%' ∨ ∃ n < 16, c = digit n := by
  obtain ⟨d, hd, hc⟩ := List.mem_flatMap.mp h
  rw [char] at hc
  split at hc
  · rename_i hkeep
    rw [List.mem_singleton.mp hc]
    exact .inl ⟨hd, hkeep⟩
  · obtain ⟨b, -, hb⟩ := List.mem_flatMap.mp hc
    have hlt : b.toNat < 256 := b.toNat_lt
    simp only [byte, List.mem_cons, List.not_mem_nil, or_false] at hb
    rcases hb with rfl | rfl | rfl
    · exact .inr (.inl rfl)
    · exact .inr (.inr ⟨_, by omega, rfl⟩)
    · exact .inr (.inr ⟨_, by omega, rfl⟩)

/-- The texts that stand for a place, a dot written by its number or not. -/
def dots : List (List Char) := [".", "%2e", "..", ".%2e", "%2e.", "%2e%2e"].map String.toList

theorem isDot_or_isDotDot_iff {segment : List Char} :
    (isDot segment = true ∨ isDotDot segment = true) ↔ segment.map Char.toLower ∈ dots := by
  simp [isDot, isDotDot, dots, or_assoc]

theorem utf8EncodeChar_ne_nil (c : Char) : String.utf8EncodeChar c ≠ [] := by
  have hlength := String.length_utf8EncodeChar c
  have hsize := c.utf8Size_pos
  intro h
  rw [h, List.length_nil] at hlength
  omega

theorem eq_dot_of_byte {c : Char} {b : UInt8} {more : List UInt8}
    (hc : String.utf8EncodeChar c = b :: more) (hb : b.toNat = 46) : c = '.' := by
  have hdot : Char.ofNat b.toNat ∈ Utf8.decode (String.utf8EncodeChar c ++ []) :=
    (Utf8.mem_decode_ascii (UInt8.lt_iff_toNat_lt.mpr (by rw [hb]; decide))).mpr (by simp [hc])
  rw [Utf8.decode, Utf8.decode_utf8EncodeChar, hb] at hdot
  exact (List.mem_singleton.mp hdot).symm

theorem kept_of_encode_mem_dots {segment : List Char}
    (h : (Percent.encode Percent.inPath segment).map Char.toLower ∈ dots) :
    ∀ c ∈ segment, Percent.inPath c = true := by
  have htails : ∀ d ∈ dots, ∀ s ∈ d.tails, s.head? = some '%' → s.take 3 = ['%', '2', 'e'] := by
    decide
  have hhigh : ∀ n < 16, (Percent.digit n).toLower = '2' → n = 2 := by decide
  have hlow : ∀ n < 16, (Percent.digit n).toLower = 'e' → n = 14 := by decide
  intro c hc
  -- What is encoded starts with a percent sign, and in a place that is the number of a dot.
  by_contra hencoded
  obtain ⟨front, rest, rfl⟩ := List.append_of_mem hc
  obtain ⟨b, more, hbytes⟩ := List.exists_cons_of_ne_nil (utf8EncodeChar_ne_nil c)
  have hlt : b.toNat < 256 := b.toNat_lt
  have hsplit : Percent.encode Percent.inPath (front ++ c :: rest) =
      Percent.encode Percent.inPath front ++ (Percent.byte b ++
        (more.flatMap Percent.byte ++ Percent.encode Percent.inPath rest)) := by
    simp [Percent.encode, Percent.char, hencoded, hbytes]
  rw [hsplit, List.map_append] at h
  have htake := htails _ h _ ((List.mem_tails _ _).mpr (List.suffix_append _ _)) rfl
  simp only [Percent.byte, List.cons_append, List.map_cons, List.take_succ_cons, List.take_zero,
    List.cons.injEq] at htake
  have hb : b.toNat = 46 := by
    have h2 := hhigh _ (by omega) htake.2.1
    have h14 := hlow _ (by omega) htake.2.2.1
    omega
  rw [eq_dot_of_byte hbytes hb] at hencoded
  exact hencoded (by decide)

theorem segment_encode {segment : List Char} (hwhole : ∀ c ∈ segment, isSlash true c = false)
    (hdot : isDot segment = false) (hdots : isDotDot segment = false) :
    IsSegment (Percent.encode Percent.inPath segment) := by
  have hdigit : ∀ n < 16, Percent.inPath (Percent.digit n) = true ∧
      isSlash true (Percent.digit n) = false := by decide
  have hchar : ∀ c ∈ Percent.encode Percent.inPath segment,
      Percent.inPath c = true ∧ isSlash true c = false := by
    intro c hc
    rcases Percent.mem_encode hc with ⟨hmem, hkept⟩ | rfl | ⟨n, hn, rfl⟩
    · exact ⟨hkept, hwhole c hmem⟩
    · decide
    · exact hdigit n hn
  have hplace : ¬ (isDot (Percent.encode Percent.inPath segment) = true ∨
      isDotDot (Percent.encode Percent.inPath segment) = true) := by
    intro h
    have hkept := kept_of_encode_mem_dots (isDot_or_isDotDot_iff.mp h)
    rw [Percent.encode_of_kept hkept, hdot, hdots] at h
    simp at h
  rw [not_or, Bool.not_eq_true, Bool.not_eq_true] at hplace
  exact ⟨fun c hc => (hchar c hc).1, fun c hc => (hchar c hc).2, hplace.1, hplace.2⟩

/-! ### Segments -/

theorem isSegment_encode {part : List Char} (hwhole : ∀ c ∈ part, isSlash true c = false)
    (hdots : ¬ isDotDot part = true) (hdot : ¬ isDot part = true) :
    IsSegment (String.ofList (Percent.encode Percent.inPath part)).toList := by
  rw [String.toList_ofList]
  exact segment_encode hwhole (Bool.not_eq_true _ ▸ hdot) (Bool.not_eq_true _ ▸ hdots)

theorem isSegment_segments {up : List String} {parts : List (List Char)}
    (hup : ∀ name ∈ up, IsSegment name.toList)
    (hparts : ∀ part ∈ parts, ∀ c ∈ part, isSlash true c = false) :
    ∀ name ∈ segments up parts, IsSegment name.toList := by
  have hdrop : ∀ {up : List String}, (∀ name ∈ up, IsSegment name.toList) →
      ∀ name ∈ up.drop 1, IsSegment name.toList :=
    fun hup name h => hup name (List.mem_of_mem_drop h)
  fun_induction segments up parts with
  | case1 up =>
    simpa only [List.mem_reverse] using hup
  | case2 up last hdots =>
    simp only [List.mem_reverse]
    exact List.forall_mem_cons.mpr ⟨isSegment_nil, hdrop hup⟩
  | case3 up last hdots hdot =>
    simp only [List.mem_reverse]
    exact List.forall_mem_cons.mpr ⟨isSegment_nil, hup⟩
  | case4 up last hdots hdot =>
    simp only [List.mem_reverse]
    have hlast := isSegment_encode (hparts last List.mem_cons_self) hdots hdot
    exact List.forall_mem_cons.mpr ⟨hlast, hup⟩
  | case5 up segment rest hne hdots ih =>
    exact ih (hdrop hup) (List.forall_mem_cons.mp hparts).2
  | case6 up segment rest hne hdots hdot ih =>
    exact ih hup (List.forall_mem_cons.mp hparts).2
  | case7 up segment rest hne hdots hdot ih =>
    obtain ⟨hsegment, hrest⟩ := List.forall_mem_cons.mp hparts
    exact ih (List.forall_mem_cons.mpr ⟨isSegment_encode hsegment hdots hdot, hup⟩) hrest

theorem segments_ne_nil {up : List String} {parts : List (List Char)} (hparts : parts ≠ []) :
    segments up parts ≠ [] := by
  fun_induction segments up parts with
  | case1 up => exact absurd rfl hparts
  | case2 | case3 | case4 => simp
  | case5 up segment rest hne hdots ih => exact ih fun h => hne h
  | case6 up segment rest hne hdots hdot ih => exact ih fun h => hne h
  | case7 up segment rest hne hdots hdot ih => exact ih fun h => hne h

theorem segments_of_isSegment {up names : List String}
    (hnames : ∀ name ∈ names, IsSegment name.toList) :
    segments up (names.map String.toList) = up.reverse ++ names := by
  have hkept : ∀ {name : String}, IsSegment name.toList →
      String.ofList (Percent.encode Percent.inPath name.toList) = name := by
    intro name h
    rw [Percent.encode_of_kept h.kept, String.ofList_toList]
  induction names generalizing up with
  | nil => simp [segments]
  | cons name names ih =>
    obtain ⟨hname, hmore⟩ := List.forall_mem_cons.mp hnames
    cases names with
    | nil => simp [segments, hname.noDot, hname.noDots, hkept hname]
    | cons next names =>
      have hrest := @ih (name :: up) hmore
      rw [List.map_cons] at hrest
      simp [segments, hname.noDot, hname.noDots, hkept hname, hrest]

/-! ### The text of a path -/

def asSlash (c : Char) : Char := if isSlash true c then '/' else c

theorem isSlash_asSlash {c : Char} (h : asSlash c ≠ '/') : isSlash true (asSlash c) = false := by
  rw [asSlash] at h ⊢
  split
  · rename_i hslash
    exact absurd (if_pos hslash) h
  · rename_i hslash
    exact Bool.not_eq_true _ ▸ hslash

def behindSlash : List Char → List Char
  | c :: rest => if isSlash true c then rest else c :: rest
  | [] => []

theorem pathOf_eq (text : List Char) :
    pathOf true text =
      .segments (segments [] (Host.parts '/' ((behindSlash text).map asSlash))) := by
  have hspecial : ¬ (text.isEmpty = true ∧ ¬ true = true) := fun h => h.2 rfl
  unfold pathOf
  rw [if_neg hspecial]
  cases text <;> rfl

theorem exists_segments (text : List Char) :
    ∃ names, pathOf true text = .segments names ∧ names ≠ [] ∧
      ∀ name ∈ names, IsSegment name.toList := by
  obtain ⟨first, others, hparts⟩ := Host.exists_parts '/' ((behindSlash text).map asSlash)
  refine ⟨_, pathOf_eq text, segments_ne_nil (by simp [hparts]), isSegment_segments nofun ?_⟩
  intro part hpart c hc
  obtain ⟨hmem, hne⟩ := Host.mem_of_mem_parts hpart hc
  obtain ⟨d, -, rfl⟩ := List.mem_map.mp hmem
  exact isSlash_asSlash hne

theorem toList_text (names : List String) :
    (UrlPath.segments names).text.toList = names.flatMap fun name => '/' :: name.toList := by
  rw [UrlPath.text, String.toList_join, List.flatMap_map]
  simp only [String.toList_append]
  rfl

theorem toList_text_cons (first : String) (others : List String) :
    (UrlPath.segments (first :: others)).text.toList =
      '/' :: ['/'].intercalate ((first :: others).map String.toList) := by
  rw [toList_text]
  induction others generalizing first with
  | nil => simp
  | cons next others ih =>
    rw [List.flatMap_cons, ih next, List.map_cons, List.map_cons, List.map_cons,
      List.intercalate_cons_cons]
    simp

theorem map_asSlash_text {names : List String} (hnames : ∀ name ∈ names, IsSegment name.toList) :
    (UrlPath.segments names).text.toList.map asSlash = (UrlPath.segments names).text.toList := by
  have hself : ∀ c ∈ (UrlPath.segments names).text.toList, asSlash c = c := by
    intro c hc
    rw [toList_text] at hc
    obtain ⟨name, hname, hc⟩ := List.mem_flatMap.mp hc
    rcases List.mem_cons.mp hc with rfl | hc
    · rfl
    · rw [asSlash, (hnames name hname).whole c hc]
      rfl
  rw [List.map_congr_left hself, List.map_id']

theorem pathOf_segments {names : List String} (hne : names ≠ [])
    (hnames : ∀ name ∈ names, IsSegment name.toList) :
    pathOf true (UrlPath.segments names).text.toList = .segments names := by
  obtain ⟨first, others, rfl⟩ := List.exists_cons_of_ne_nil hne
  have hmap := map_asSlash_text hnames
  rw [toList_text_cons, List.map_cons] at hmap
  have hmark : ∀ name ∈ first.toList :: others.map String.toList, '/' ∉ name := by
    intro name hname hmem
    obtain ⟨name, hin, rfl⟩ := List.mem_map.mp (List.map_cons ▸ hname)
    exact absurd ((hnames name hin).whole _ hmem) (by decide)
  have hslash : isSlash true '/' = true := rfl
  rw [pathOf_eq, toList_text_cons, behindSlash, if_pos hslash, (List.cons.inj hmap).2,
    List.map_cons, Host.parts_intercalate hmark, ← List.map_cons, segments_of_isSegment hnames]
  rfl

end MangaReader.Url

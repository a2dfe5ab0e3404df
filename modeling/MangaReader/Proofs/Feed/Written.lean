import MangaReader.Proofs.Feed.Delivery
import MangaReader.Proofs.Feed.Format
import MangaReader.Proofs.Json.Compact

/-!
# A written feed is delivered

The body of a feed is written page by page: a line with the compact text of the page, and an empty
line. Lines may end in one of two ways, and between messages there may be lines that are of none. A
feed delivers the pages of such a body, and then that the chapter ends, however the body is cut into
chunks.

* `LineEnd`, `Filler`, `Frame`, `writtenBody` : how a body is written.
* `Decoder.feed_line` : one line of a body.
* `Decoder.feed_frame` : a message with what stands before it.
* `PageEvent.parse_text` : a page is read as it is written.
* `PageFeed.pull_writtenBody` : what a feed delivers of a written body.
-/

namespace MangaReader.Feed

open Json

/-! ### Written bodies -/

inductive LineEnd where
  | lineFeed
  | returnAndLineFeed
  deriving DecidableEq, Repr

def LineEnd.bytes : LineEnd → List UInt8
  | .lineFeed => [10]
  | .returnAndLineFeed => [13, 10]

/-- A line that is of no message: an empty one, a comment, or a field of another name than `data`.
Its bytes need not be those of a text. -/
structure Filler where
  bytes : List UInt8
  ending : LineEnd
  noLineFeed : 10 ∉ bytes
  noReturn : 13 ∉ bytes
  noData : Format.name (Utf8.decode bytes) ≠ ['d', 'a', 't', 'a']

def Filler.whole (f : Filler) : List UInt8 := f.bytes ++ f.ending.bytes

/-- How a message stands in a body: the lines before it that are of no message, and how its own line
and the empty line after it end. -/
structure Frame where
  before : List Filler
  ending : LineEnd
  emptyEnding : LineEnd

def Frame.around (frame : Frame) (message : String) : List UInt8 :=
  frame.before.flatMap Filler.whole ++ (Utf8.encode ("data: " ++ message).toList ++
    frame.ending.bytes ++ frame.emptyEnding.bytes)

/-- The body of some pages, up to the mark of the end. -/
def writtenBody (pages : List (PageDescriptor × Frame)) (last : Frame) : List UInt8 :=
  pages.flatMap (fun page => page.2.around page.1.text) ++ last.around "{}"

/-! ### Lines -/

namespace Decoder

theorem feed_lineFeed {d : Decoder} (hd : d.pending = []) {bytes : List UInt8}
    (hbytes : 10 ∉ bytes) :
    d.feed (bytes ++ [10]) =
      ((d.line (Line.ofBytes bytes)).1, (d.line (Line.ofBytes bytes)).2.toList) := by
  have hunfinished : d.Unfinished := by
    rw [Unfinished, hd]
    exact List.not_mem_nil
  have hbuffer : d.buffering [] = d := by rw [← hd, buffering_pending]
  have hlines : (bytes ++ [10]).splitOn 10 = [bytes, []] := by
    rw [List.splitOn_append_cons_self, List.splitOn_eq_singleton hbytes]
    rfl
  rw [feed_eq_takeLines hunfinished, hd, List.nil_append, hlines]
  show (d.buffering []).takeLines [bytes] = _
  rw [hbuffer, takeLines_cons, takeLines, List.append_nil]

theorem feed_line {d : Decoder} (hd : d.pending = []) {bytes : List UInt8} (hfeed : 10 ∉ bytes)
    (hreturn : 13 ∉ bytes) (ending : LineEnd) :
    d.feed (bytes ++ ending.bytes) =
      ((d.line (Utf8.decode bytes)).1, (d.line (Utf8.decode bytes)).2.toList) := by
  cases ending with
  | lineFeed =>
    have hline : Line.ofBytes bytes = Utf8.decode bytes := by
      rw [Line.ofBytes, if_neg fun h => hreturn (List.mem_of_getLast? h)]
    rw [LineEnd.bytes, feed_lineFeed hd hfeed, hline]
  | returnAndLineFeed =>
    have hline : Line.ofBytes (bytes ++ [13]) = Utf8.decode bytes := by
      rw [Line.ofBytes, List.getLast?_concat, if_pos rfl, List.dropLast_concat]
    have hfeed' : 10 ∉ bytes ++ [13] := by simpa using hfeed
    have hbytes : bytes ++ LineEnd.returnAndLineFeed.bytes = (bytes ++ [13]) ++ [10] := by
      rw [List.append_assoc]
      rfl
    rw [hbytes, feed_lineFeed hd hfeed', hline]

theorem feed_filler (f : Filler) : ({} : Decoder).feed f.whole = ({}, []) := by
  rw [Filler.whole, feed_line rfl f.noLineFeed f.noReturn]
  by_cases htext : Utf8.decode f.bytes = []
  · rw [htext]
    rfl
  · rw [line_of_ne_nil _ htext, Format.data?_eq, if_neg f.noData]
    rfl

theorem feed_fillers (fillers : List Filler) :
    ({} : Decoder).feed (fillers.flatMap Filler.whole) = ({}, []) := by
  induction fillers with
  | nil => rfl
  | cons f fillers ih => rw [List.flatMap_cons, feed_append, feed_filler, ih, List.append_nil]

theorem not_mem_encode {text : List Char} (h : ∀ c ∈ text, 0x20 ≤ c.toNat) {b : UInt8}
    (hb : b < 0x20) : b ∉ Utf8.encode text := by
  intro hmem
  have hascii : b < 0x80 := UInt8.lt_trans hb (by decide)
  have hchar := (Utf8.mem_decode_ascii hascii).mpr hmem
  rw [Utf8.decode_encode] at hchar
  have hle := h _ hchar
  have hvalid : b.toNat.isValidChar := .inl (by have := b.toNat_lt; omega)
  have hself : (Char.ofNat b.toNat).toNat = b.toNat := by
    rw [Char.ofNat, dif_pos hvalid]
    rfl
  rw [hself] at hle
  exact absurd (UInt8.lt_iff_toNat_lt.mp hb) (Nat.not_lt.mpr hle)

theorem feed_frame (frame : Frame) {message : String} (h : ∀ c ∈ message.toList, 0x20 ≤ c.toNat) :
    ({} : Decoder).feed (frame.around message) = ({}, [message]) := by
  have htext : ("data: " ++ message).toList =
      'd' :: 'a' :: 't' :: 'a' :: ':' :: ' ' :: message.toList := by
    rw [String.toList_append]
    rfl
  have hprintable : ∀ c ∈ ("data: " ++ message).toList, 0x20 ≤ c.toNat := by
    rw [htext]
    simpa using h
  have hdata : ({} : Decoder).feed
      (Utf8.encode ("data: " ++ message).toList ++ frame.ending.bytes) =
      ({ values := [message.toList] }, []) := by
    have hbytes : ∀ b < 0x20, b ∉ Utf8.encode ("data: " ++ message).toList :=
      fun b => not_mem_encode hprintable
    rw [feed_line rfl (hbytes 10 (by decide)) (hbytes 13 (by decide)), Utf8.decode_encode, htext,
      line_of_ne_nil _ (List.cons_ne_nil _ _)]
    rfl
  have hempty : ({ values := [message.toList] } : Decoder).feed frame.emptyEnding.bytes =
      ({}, [message]) := by
    have hline := feed_line (d := { values := [message.toList] }) rfl List.not_mem_nil
      List.not_mem_nil frame.emptyEnding
    have hmessage : Format.joined? [message.toList] = some message := by
      simp [Format.joined?]
    rw [List.nil_append] at hline
    rw [hline, Utf8.decode_eq_nil_iff.mpr rfl, line_nil, hmessage]
    rfl
  rw [Frame.around, feed_append, feed_fillers, feed_append, hdata, hempty]
  rfl

end Decoder

/-! ### Pages -/

/-- The place and the number of pages are numbers of 64 bits. -/
def PageDescriptor.IsSized (p : PageDescriptor) : Prop := p.index < 2 ^ 64 ∧ p.total < 2 ^ 64

theorem PageDescriptor.whole_write {p : PageDescriptor} (hp : p.IsSized) :
    (shape.form.write p).Whole := by
  obtain ⟨hindex, htotal⟩ := hp
  refine .object fun m hm => ?_
  simp [shape, Form.size, Form.text] at hm
  rcases hm with rfl | rfl | rfl
  · exact .number ⟨by omega, Int.ofNat_lt.mpr hindex⟩
  · exact .number ⟨by omega, Int.ofNat_lt.mpr htotal⟩
  · exact .string p.path

theorem PageDescriptor.within_write (p : PageDescriptor) :
    (shape.form.write p).Within (nestingLimit - 1) := by
  refine .object fun m hm => ?_
  simp [shape, Form.size, Form.text] at hm
  rcases hm with rfl | rfl | rfl
  · exact .number _ _
  · exact .number _ _
  · exact .string _ _

theorem PageDescriptor.le_of_mem_text {p : PageDescriptor} (hp : p.IsSized) :
    ∀ c ∈ p.text.toList, 0x20 ≤ c.toNat := by
  intro c hc
  rw [text, Value.compact, String.toList_ofList] at hc
  exact Value.le_of_mem_compactText (whole_write hp) hc

theorem PageEvent.parse_text {p : PageDescriptor} (hp : p.IsSized) :
    PageEvent.parse p.text = .ok (.page p) := by
  rw [PageEvent.parse, PageDescriptor.text,
    Value.parse_compact (PageDescriptor.whole_write hp) p.within_write]
  rfl

variable {pages : List (PageDescriptor × Frame)}

/-- **The messages of a written body** are the texts of its pages and the mark of the end; those of
other bytes follow. -/
theorem Decoder.feed_writtenBody (hpages : ∀ page ∈ pages, page.1.IsSized) (last : Frame)
    (rest : List UInt8) :
    (({} : Decoder).feed (writtenBody pages last ++ rest)).2 =
      pages.map (·.1.text) ++ "{}" :: (({} : Decoder).feed rest).2 := by
  induction pages with
  | nil =>
    have hmark : ∀ c ∈ "{}".toList, 0x20 ≤ c.toNat := by simp
    rw [writtenBody, List.flatMap_nil, List.nil_append, feed_append, feed_frame last hmark]
    rfl
  | cons page pages ih =>
    obtain ⟨hpage, hothers⟩ := List.forall_mem_cons.mp hpages
    have hbody : writtenBody (page :: pages) last ++ rest =
        page.2.around page.1.text ++ (writtenBody pages last ++ rest) := by
      simp only [writtenBody, List.flatMap_cons, List.append_assoc]
    rw [hbody, feed_append, feed_frame page.2 (PageDescriptor.le_of_mem_text hpage), ih hothers]
    rfl

theorem delivery_page {p : PageDescriptor} (hp : p.IsSized) (others : List String) :
    delivery (p.text :: others) = .ok (.page p) :: delivery others := by
  rw [delivery, List.map_cons, PageEvent.parse_text hp, untilEnd, delivery]

theorem delivery_mark (others : List String) : delivery ("{}" :: others) = [.ok .terminal] := by
  rw [delivery, List.map_cons, PageEvent.parse_marker]
  rfl

def eventsOf (pages : List PageDescriptor) : List PageEvent := pages.map .page ++ [.terminal]

theorem delivery_pages (hpages : ∀ page ∈ pages, page.1.IsSized) (others : List String) :
    delivery (pages.map (·.1.text) ++ "{}" :: others) = (eventsOf (pages.map (·.1))).map .ok := by
  induction pages with
  | nil => exact delivery_mark others
  | cons page pages ih =>
    obtain ⟨hpage, hothers⟩ := List.forall_mem_cons.mp hpages
    rw [List.map_cons, List.cons_append, delivery_page hpage, ih hothers]
    rfl

/-- **A written feed is delivered.** Let a body be that of some pages, with any lines that are of no
message between its messages and either ending for each of its lines, and let any bytes follow the
mark of its end. In whatever chunks it arrives, the pulls give the pages in order, then the end of
the chapter, and from then on that the feed is over. -/
theorem PageFeed.pull_writtenBody (pages : List (PageDescriptor × Frame))
    (hpages : ∀ page ∈ pages, page.1.IsSized) (last : Frame) (rest : List UInt8)
    (chunks : List (List UInt8)) (hchunks : chunks.flatten = writtenBody pages last ++ rest)
    (n : Nat) :
    (ofChunks chunks).pull n =
      ((eventsOf (pages.map (·.1))).map Pull.event).getD n .over := by
  have hremaining : (ofChunks chunks).remaining =
      delivery (({} : Decoder).feed chunks.flatten).2 := rfl
  rw [pull_eq rfl, hremaining, hchunks, Decoder.feed_writtenBody hpages, delivery_pages hpages,
    List.getD_eq_getElem?_getD, List.getElem?_map, List.getElem?_map]
  cases (eventsOf (pages.map (·.1)))[n]? <;> rfl

/-- A page whose path needs escapes, after a comment that is no text and an empty line, in chunks
that part its line. -/
theorem PageFeed.pull_writtenBody_commented :
    let page : PageDescriptor := ⟨0, 2 ^ 64 - 1, "\"\n\\é"⟩
    let comment : Filler := ⟨[58, 0xFF], .lineFeed, by decide, by decide, by decide⟩
    let empty : Filler := ⟨[], .returnAndLineFeed, by decide, by decide, by decide⟩
    let frame : Frame := ⟨[comment, empty], .returnAndLineFeed, .lineFeed⟩
    let body := writtenBody [(page, frame)] ⟨[], .lineFeed, .lineFeed⟩ ++ [100]
    let feed := ofChunks [body.take 9, [], body.drop 9]
    feed.pull 0 = .event (.page page) ∧ feed.pull 1 = .event .terminal ∧
      ∀ n, feed.pull (n + 2) = .over := by
  intro page comment empty frame body feed
  have hpages : ∀ written ∈ [(page, frame)], written.1.IsSized := by
    simp [PageDescriptor.IsSized, page]
  have hchunks : [body.take 9, [], body.drop 9].flatten = body := by simp
  have hpull := pull_writtenBody [(page, frame)] hpages ⟨[], .lineFeed, .lineFeed⟩ [100]
    [body.take 9, [], body.drop 9] hchunks
  exact ⟨hpull 0, hpull 1, fun n => hpull (n + 2)⟩

end MangaReader.Feed

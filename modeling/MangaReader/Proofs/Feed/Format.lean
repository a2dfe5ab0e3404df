import MangaReader.Proofs.Feed.Framing
import MangaReader.Proofs.Text.Ascii

/-!
# An event stream as a text

The format of an event stream is said of a text: lines, blocks of lines that an empty line ends, and
the values of the `data` fields of a block. A decoder never sees that text. It cuts bytes at line
feeds, decodes one line at a time and remembers the values of the unfinished block. Both give the
same messages, for all bytes, well-formed or not.

* `Format.lines`, `Format.blocks`, `Format.dataOf`, `Format.messages` : the format of a text.
* `Format.lines_decode` : the lines of a text are those of its bytes, decoded one by one.
* `Decoder.takeLines_eq_messages` : line after line, the messages are those of the blocks.
* `Decoder.feedAll_eq_messages` : **a decoder reads the format**.
-/

namespace MangaReader.Feed

/-! ### The format of a text -/

namespace Format

def withoutReturn (line : List Char) : List Char :=
  if line.getLast? = some '\r' then line.dropLast else line

/-- The lines of a text, each ended by a line feed. What is after the last line feed is no line. -/
def lines (text : List Char) : List (List Char) := (text.splitOn '\n').dropLast.map withoutReturn

/-- The blocks of lines, each ended by an empty line. The lines after the last empty line are no
block. -/
def blocks (lines : List (List Char)) : List (List (List Char)) := (lines.splitOn []).dropLast

/-- The name of the field of a line: what is before the first colon, or all of the line. -/
def name (line : List Char) : List Char := line.takeWhile (· != ':')

/-- The value of the field of a line: what is after the first colon, less one leading space. -/
def value (line : List Char) : List Char :=
  let after := (line.dropWhile (· != ':')).drop 1
  if after.head? = some ' ' then after.tail else after

def dataOf (block : List (List Char)) : List (List Char) :=
  (block.filter fun line => name line = ['d', 'a', 't', 'a']).map value

def joined? (values : List (List Char)) : Option String :=
  if values.isEmpty then none else some (String.ofList (['\n'].intercalate values))

/-- The messages of a text: one for each block with a value. -/
def messages (text : List Char) : List String := (blocks (lines text)).filterMap (joined? ∘ dataOf)

/-! ### Lines of bytes -/

theorem withoutReturn_decode (bytes : List UInt8) :
    withoutReturn (Utf8.decode bytes) = Line.ofBytes bytes := by
  have hlast : (Utf8.decode bytes).getLast? = some '\r' ↔ bytes.getLast? = some 13 :=
    Utf8.getLast?_decode_ascii (b := 13) (by decide)
  by_cases h : bytes.getLast? = some 13
  · obtain ⟨front, rfl⟩ := List.getLast?_eq_some_iff.mp h
    have hdecode : Utf8.decode (front ++ [13]) = Utf8.decode front ++ ['\r'] :=
      Utf8.decode_append_ascii (b := 13) (by decide) front []
    rw [withoutReturn, if_pos (hlast.mpr h), Line.ofBytes, if_pos h, hdecode, List.dropLast_concat,
      List.dropLast_concat]
  · rw [withoutReturn, if_neg (mt hlast.mp h), Line.ofBytes, if_neg h]

theorem lines_decode (bytes : List UInt8) :
    lines (Utf8.decode bytes) = (bytes.splitOn 10).dropLast.map Line.ofBytes := by
  have hcut : (Utf8.decode bytes).splitOn '\n' = (bytes.splitOn 10).map Utf8.decode :=
    Utf8.splitOn_decode (b := 10) (by decide) bytes
  rw [lines, hcut, ← List.map_dropLast, List.map_map]
  exact List.map_congr_left fun line _ => withoutReturn_decode line

/-! ### Fields and blocks -/

theorem data?_eq (line : List Char) :
    Line.data? line = if name line = ['d', 'a', 't', 'a'] then some (value line) else none := by
  rw [Line.data?, name, value]
  split
  · cases hrest : line.dropWhile (· != ':') with
    | nil => rfl
    | cons c rest =>
      have hcolon : c = ':' := by
        have hnot := List.head?_dropWhile_not (· != ':') line
        rw [hrest] at hnot
        simpa using hnot
      subst hcolon
      cases rest with
      | nil => rfl
      | cons first more =>
        by_cases hfirst : first = ' '
        · subst hfirst
          rfl
        · simp [hfirst]
  · rfl

theorem dataOf_concat (block : List (List Char)) (line : List Char) :
    dataOf (block ++ [line]) = dataOf block ++ (Line.data? line).toList := by
  rw [data?_eq, dataOf, List.filter_append, List.map_append, ← dataOf, List.filter_singleton]
  by_cases h : name line = ['d', 'a', 't', 'a'] <;> simp [h]

theorem blocks_of_not_mem {block : List (List Char)} (h : [] ∉ block) : blocks block = [] := by
  rw [blocks, List.splitOn_eq_singleton h]
  rfl

theorem blocks_append_nil {block : List (List Char)} (h : [] ∉ block) (rest : List (List Char)) :
    blocks (block ++ [] :: rest) = block :: blocks rest := by
  rw [blocks, List.splitOn_append_cons_self, List.splitOn_eq_singleton h, List.singleton_append,
    List.dropLast_cons_of_ne_nil (List.splitOn_ne_nil _ _), blocks]

end Format

/-! ### The decoder -/

namespace Decoder

open Format

theorem line_nil (d : Decoder) : d.line [] = ({ d with values := [] }, joined? d.values) := rfl

theorem line_of_ne_nil (d : Decoder) {text : List Char} (h : text ≠ []) :
    d.line text = ({ d with values := d.values ++ (Line.data? text).toList }, none) := by
  rw [line, if_neg (by rwa [List.isEmpty_iff])]
  cases Line.data? text with
  | none => rw [Option.toList_none, List.append_nil]
  | some value => rfl

/-- **Line after line, the messages are those of the blocks.** The decoder has the values of an
unfinished block, to which the first lines belong. -/
theorem takeLines_eq_messages (d : Decoder) (block : List (List Char))
    (hblock : [] ∉ block) (hvalues : d.values = dataOf block) (rest : List (List UInt8)) :
    (d.takeLines rest).2 =
      (blocks (block ++ rest.map Line.ofBytes)).filterMap (joined? ∘ dataOf) := by
  induction rest generalizing d block with
  | nil =>
    rw [List.map_nil, List.append_nil, blocks_of_not_mem hblock]
    rfl
  | cons bytes rest ih =>
    rw [takeLines_cons, List.map_cons]
    by_cases htext : Line.ofBytes bytes = []
    · rw [htext, line_nil, hvalues, blocks_append_nil hblock,
        ih { d with values := [] } [] List.not_mem_nil rfl, List.nil_append, List.filterMap_cons]
      cases hjoined : joined? (dataOf block) <;> simp [hjoined]
    · have hnext : [] ∉ block ++ [Line.ofBytes bytes] := by
        rw [List.mem_append, List.mem_singleton]
        rintro (h | h)
        · exact hblock h
        · exact htext h.symm
      rw [line_of_ne_nil d htext, ih _ (block ++ [Line.ofBytes bytes]) hnext
        (by rw [hvalues, dataOf_concat]), List.append_assoc, List.singleton_append]
      rfl

theorem feed_eq_messages (body : List UInt8) :
    (({} : Decoder).feed body).2 = messages (Utf8.decode body) := by
  have hempty : ({} : Decoder).Unfinished := List.not_mem_nil
  rw [feed_eq_takeLines hempty, takeLines_eq_messages _ [] List.not_mem_nil rfl, List.nil_append,
    messages, lines_decode]
  rfl

/-- **A decoder reads the format.** Whatever the bytes of a body are and however they are cut into
chunks, a fresh decoder completes the messages of the text that the body is, read leniently: that of
each block of lines up to an empty line with at least one `data` field, the values of these fields
being joined by line feeds. -/
theorem feedAll_eq_messages (chunks : List (List UInt8)) :
    (({} : Decoder).feedAll chunks).2 = messages (Utf8.decode chunks.flatten) := by
  rw [feedAll_eq_feed, feed_eq_messages]

/-- A byte that is no text, a value of two lines, a field without a colon and a comment. -/
example :
    (({} : Decoder).feed
      ("data:a".toUTF8.toList ++ 0xFF :: "\r\ndata\n:x\ndata:  b\n\n\ndata: c\n".toUTF8.toList)).2 =
      ["a\uFFFD\n\n b"] := by
  decide +kernel

end Decoder

end MangaReader.Feed

import MangaReader.Feed.Framing
import Mathlib.Data.List.DropRight

/-!
# Cutting a body does not change its messages

A decoder takes a body byte by byte and remembers the bytes of the unfinished line and the values of
the unfinished block. Nothing else of the past counts, so that the chunks in which a body arrives
leave no trace (`feedAll_eq_feed`), wherever they are cut.

* `Decoder.feedAll`, `Decoder.reached` : chunk after chunk, and the decoders that come of them.
* `Decoder.takeLines` : finished lines, one after another.
* `Decoder.feed_eq_takeLines` : feeding a chunk is cutting the buffer with the chunk at its line
  feeds.
* `Decoder.feedAll_of_flatten_eq` : chunks of the same bytes give the same messages.
-/

namespace MangaReader.Feed.Decoder

def feedAll (d : Decoder) : List (List UInt8) → Decoder × List String
  | [] => (d, [])
  | chunk :: chunks =>
    let (next, messages) := d.feed chunk
    let (last, others) := next.feedAll chunks
    (last, messages ++ others)

/-- The decoder that has taken some chunks and nothing else. -/
def reached (past : List (List UInt8)) : Decoder := (({} : Decoder).feedAll past).1

def buffering (d : Decoder) (bytes : List UInt8) : Decoder := { d with unread := bytes.reverse }

/-- Finished lines, one after another: the decoder after them and the messages they complete. -/
def takeLines (d : Decoder) : List (List UInt8) → Decoder × List String
  | [] => (d, [])
  | bytes :: rest =>
    let (next, message) := d.line (Line.ofBytes bytes)
    let (last, messages) := next.takeLines rest
    (last, message.toList ++ messages)

variable (d : Decoder)

/-! ### Chunks -/

@[simp] theorem feed_nil : d.feed [] = (d, []) := rfl

theorem feed_cons (b : UInt8) (bytes : List UInt8) :
    d.feed (b :: bytes) =
      (((d.push b).1.feed bytes).1, (d.push b).2.toList ++ ((d.push b).1.feed bytes).2) := rfl

theorem feedAll_cons (chunk : List UInt8) (chunks : List (List UInt8)) :
    d.feedAll (chunk :: chunks) =
      (((d.feed chunk).1.feedAll chunks).1,
        (d.feed chunk).2 ++ ((d.feed chunk).1.feedAll chunks).2) := rfl

theorem feed_append (before after : List UInt8) :
    d.feed (before ++ after) =
      (((d.feed before).1.feed after).1,
        (d.feed before).2 ++ ((d.feed before).1.feed after).2) := by
  induction before generalizing d with
  | nil => simp
  | cons b bytes ih =>
    rw [List.cons_append, feed_cons, ih, feed_cons]
    simp only [List.append_assoc]

theorem feedAll_eq_feed (chunks : List (List UInt8)) :
    d.feedAll chunks = d.feed chunks.flatten := by
  induction chunks generalizing d with
  | nil => rfl
  | cons chunk chunks ih => rw [feedAll_cons, ih, List.flatten_cons, feed_append]

/-! ### The bytes of the unfinished line -/

variable {d}

/-- What a decoder has buffered holds no line feed. -/
def Unfinished (d : Decoder) : Prop := 10 ∉ d.pending

@[simp] theorem pending_buffering (d : Decoder) (bytes : List UInt8) :
    (d.buffering bytes).pending = bytes := by
  simp [buffering, pending]

@[simp] theorem buffering_buffering (d : Decoder) (bytes other : List UInt8) :
    (d.buffering bytes).buffering other = d.buffering other := rfl

@[simp] theorem buffering_pending (d : Decoder) : d.buffering d.pending = d := by
  simp [buffering, pending]

theorem line_buffering (d : Decoder) (bytes : List UInt8) (text : List Char) :
    (d.buffering bytes).line text = ((d.line text).1.buffering bytes, (d.line text).2) := by
  unfold line buffering
  split
  · rfl
  · split <;> rfl

theorem push_lineFeed (d : Decoder) :
    d.push 10 =
      ((d.line (Line.ofBytes d.pending)).1.buffering [], (d.line (Line.ofBytes d.pending)).2) :=
  line_buffering d [] _

theorem push_of_ne {b : UInt8} (hb : b ≠ 10) :
    d.push b = (d.buffering (d.pending ++ [b]), none) := by
  simp [push, hb, buffering, pending]

theorem pending_feed (hd : d.Unfinished) (bytes : List UInt8) :
    (d.feed bytes).1.pending = (d.pending ++ bytes).rtakeWhile (· != 10) := by
  induction bytes using List.reverseRecOn with
  | nil =>
    rw [List.append_nil, feed_nil]
    refine (List.rtakeWhile_eq_self_iff.mpr fun b hb => bne_iff_ne.mpr fun h => ?_).symm
    exact hd (h ▸ hb)
  | append_singleton bytes b ih =>
    rw [feed_append, ← List.append_assoc, List.rtakeWhile_concat, ← ih]
    by_cases hb : b = 10
    · subst hb
      rw [if_neg (by decide), feed_cons, push_lineFeed, feed_nil, pending_buffering]
    · rw [if_pos (bne_iff_ne.mpr hb), feed_cons, push_of_ne hb, feed_nil, pending_buffering]

theorem unfinished_feed (hd : d.Unfinished) (bytes : List UInt8) : (d.feed bytes).1.Unfinished := by
  intro hb
  rw [pending_feed hd] at hb
  have hne : ((10 : UInt8) != 10) = true :=
    List.mem_rtakeWhile_imp (p := fun b : UInt8 => b != 10) hb
  exact bne_iff_ne.mp hne rfl

/-! ### Lines -/

theorem takeLines_cons (d : Decoder) (bytes : List UInt8) (rest : List (List UInt8)) :
    d.takeLines (bytes :: rest) =
      (((d.line (Line.ofBytes bytes)).1.takeLines rest).1,
        (d.line (Line.ofBytes bytes)).2.toList ++
          ((d.line (Line.ofBytes bytes)).1.takeLines rest).2) := rfl

/-- **Feeding a chunk is cutting at line feeds**: the buffer with the chunk is cut at its line
feeds, the lines are taken one after another, and what is after the last line feed is left. -/
theorem feed_eq_takeLines (hd : d.Unfinished) (bytes : List UInt8) :
    d.feed bytes =
      (d.buffering (((d.pending ++ bytes).splitOn 10).getLastD [])).takeLines
        ((d.pending ++ bytes).splitOn 10).dropLast := by
  induction bytes generalizing d with
  | nil =>
    rw [List.append_nil, List.splitOn_eq_singleton hd]
    show (d, []) = (d.buffering d.pending, [])
    rw [buffering_pending]
  | cons b bytes ih =>
    by_cases hb : b = 10
    · subst hb
      have hunfinished : ((d.line (Line.ofBytes d.pending)).1.buffering []).Unfinished := by
        rw [Unfinished, pending_buffering]
        exact List.not_mem_nil
      obtain ⟨piece, pieces, hpieces⟩ := List.exists_cons_of_ne_nil (List.splitOn_ne_nil 10 bytes)
      rw [List.splitOn_append_cons_self, List.splitOn_eq_singleton hd, List.singleton_append,
        feed_cons, push_lineFeed, ih hunfinished, pending_buffering, List.nil_append, hpieces,
        List.dropLast_cons_cons, takeLines_cons, line_buffering, buffering_buffering]
      rfl
    · have hunfinished : (d.buffering (d.pending ++ [b])).Unfinished := by
        rw [Unfinished, pending_buffering, List.mem_append, List.mem_singleton]
        rintro (h | h)
        · exact hd h
        · exact hb h.symm
      rw [feed_cons, push_of_ne hb, ih hunfinished, pending_buffering, List.append_assoc,
        List.singleton_append, buffering_buffering]
      rfl

/-! ### Chunks of the same bytes -/

/-- **Where a body is cut does not matter.** Let a decoder have taken any chunks; it then has
buffered the bytes after the last line feed among them. From there, chunks of the same bytes give
the same messages and leave the same decoder, with the same buffer and the same values, however they
are cut; and one chunk more is the same as cutting the buffer with the chunk at its line feeds. -/
theorem feedAll_of_flatten_eq (past chunks others : List (List UInt8))
    (h : chunks.flatten = others.flatten) :
    (reached past).feedAll chunks = (reached past).feedAll others ∧
      (reached past).pending = past.flatten.rtakeWhile (· != 10) ∧
      ∀ chunk, (reached past).feed chunk =
        ((reached past).buffering
          ((((reached past).pending ++ chunk).splitOn 10).getLastD [])).takeLines
          (((reached past).pending ++ chunk).splitOn 10).dropLast := by
  have hempty : ({} : Decoder).Unfinished := List.not_mem_nil
  have hd : reached past = (({} : Decoder).feed past.flatten).1 := by rw [reached, feedAll_eq_feed]
  refine ⟨?_, ?_, fun chunk => ?_⟩
  · rw [feedAll_eq_feed, feedAll_eq_feed, h]
  · rw [hd, pending_feed hempty]
    rfl
  · rw [hd]
    exact feed_eq_takeLines (unfinished_feed hempty _) chunk

/-- A body cut inside a character, between a carriage return and its line feed, and inside a line,
after a first chunk that was cut inside a line, too. -/
theorem feedAll_of_flatten_eq_cut :
    (reached [[100, 97], [116, 97, 58]]).feedAll [[0xC3], [0xA9, 13], [], [10, 10, 100]] =
        (reached [[100, 97], [116, 97, 58]]).feedAll [[0xC3, 0xA9, 13, 10, 10, 100]] ∧
      (reached [[100, 97], [116, 97, 58]]).pending = [100, 97, 116, 97, 58] :=
  have h := feedAll_of_flatten_eq [[100, 97], [116, 97, 58]] [[0xC3], [0xA9, 13], [], [10, 10, 100]]
    [[0xC3, 0xA9, 13, 10, 10, 100]] rfl
  ⟨h.1, h.2.1⟩

end MangaReader.Feed.Decoder

import MangaReader.Proofs.Feed.PageFeed
import MangaReader.Proofs.Json.Compact
import MangaReader.Proofs.Text.Utf8
import Mathlib.Data.List.DropRight

/-!
# What a page feed delivers, pull by pull

The pulls of a whole body give the results of its messages, one after another, up to and including
the first that is no page, and nothing from then on. One pull takes the first of what is still to be
delivered (`PageFeed.next_whole`), so the pulls go through all of it (`PageFeed.pull_eq`). What is
to be delivered is a matter of the bytes of the body, and no bytes after its last empty line count
(`Decoder.feed_of_endsNoBlock`).

* `PageFeed.ofChunks`, `PageFeed.after`, `PageFeed.pull` : the feed of a body, and its pulls.
* `Decoder.EndsNoBlock` : bytes that have no empty line.
* `PageFeed.pulls_of_chunks` : what the pulls give.
-/

namespace MangaReader.Feed

open Backend

namespace Pull

def ofResult? : Option (Except Failure PageEvent) → Pull
  | some (.ok e) => .event e
  | some (.error f) => .failed f
  | none => .over

def isPage : Pull → Bool
  | .event (.page _) => true
  | _ => false

end Pull

theorem PageEvent.parse_marker : PageEvent.parse "{}" = .ok .terminal := by
  have hmarker : (Json.Value.object []).compact = "{}" := rfl
  rw [PageEvent.parse, ← hmarker, Json.Value.parse_compact (.object (List.forall_mem_nil _))
    (.object (List.forall_mem_nil _))]
  rfl

/-! ### Bytes that complete no message -/

namespace Decoder
variable {d : Decoder}

/-- Bytes none of whose finished lines is empty. -/
def EndsNoBlock (bytes : List UInt8) : Prop :=
  ∀ line ∈ (bytes.splitOn 10).dropLast, line ≠ [] ∧ line ≠ [13]

theorem ofBytes_eq_nil_iff {bytes : List UInt8} :
    Line.ofBytes bytes = [] ↔ bytes = [] ∨ bytes = [13] := by
  rw [Line.ofBytes, Utf8.decode_eq_nil_iff]
  split
  · rename_i hlast
    obtain ⟨front, rfl⟩ := List.getLast?_eq_some_iff.mp hlast
    rw [List.dropLast_concat]
    simp
  · rename_i hlast
    refine ⟨.inl, ?_⟩
    rintro (h | h)
    · exact h
    · exact absurd (congrArg List.getLast? h) hlast

theorem takeLines_of_ne_nil {lines : List (List UInt8)}
    (h : ∀ bytes ∈ lines, Line.ofBytes bytes ≠ []) : (d.takeLines lines).2 = [] := by
  induction lines generalizing d with
  | nil => rfl
  | cons bytes lines ih =>
    obtain ⟨hbytes, hlines⟩ := List.forall_mem_cons.mp h
    have hline : (d.line (Line.ofBytes bytes)).2 = none := by
      rw [line, if_neg (by rwa [List.isEmpty_iff])]
      split <;> rfl
    rw [takeLines_cons, hline, ih hlines]
    rfl

theorem feed_of_endsNoBlock (hd : d.pending = []) {bytes : List UInt8} (h : EndsNoBlock bytes) :
    (d.feed bytes).2 = [] := by
  have hunfinished : d.Unfinished := by
    rw [Unfinished, hd]
    exact List.not_mem_nil
  rw [feed_eq_takeLines hunfinished, hd, List.nil_append]
  refine takeLines_of_ne_nil fun line hline hnil => ?_
  obtain ⟨hempty, hreturn⟩ := h line hline
  rcases ofBytes_eq_nil_iff.mp hnil with h | h
  · exact hempty h
  · exact hreturn h

theorem messages_append_of_endsNoBlock {whole rest : List UInt8}
    (hwhole : whole = [] ∨ whole.getLast? = some 10) (hrest : EndsNoBlock rest) :
    (({} : Decoder).feed (whole ++ rest)).2 = (({} : Decoder).feed whole).2 := by
  have hnew : ({} : Decoder).Unfinished := List.not_mem_nil
  have hpending : (({} : Decoder).feed whole).1.pending = [] := by
    rw [pending_feed hnew]
    rcases hwhole with rfl | hlast
    · rfl
    · obtain ⟨front, rfl⟩ := List.getLast?_eq_some_iff.mp hlast
      rw [← List.append_assoc, List.rtakeWhile_concat, if_neg (by decide)]
  rw [feed_append, feed_of_endsNoBlock hpending hrest, List.append_nil]

end Decoder

/-! ### Pulls -/

namespace PageFeed

/-- The feed of a whole body that arrives in some chunks. -/
def ofChunks (chunks : List (List UInt8)) : PageFeed := { body := ⟨chunks, .complete⟩ }

def after (feed : PageFeed) : Nat → PageFeed
  | 0 => feed
  | n + 1 => (feed.after n).next.2

/-- What a feed gives at a pull, the first of which is number 0. -/
def pull (feed : PageFeed) (n : Nat) : Pull := (feed.after n).next.1

variable {feed : PageFeed}

theorem body_deliver (feed : PageFeed) (message : String) :
    (feed.deliver message).2.body = feed.body := by
  unfold deliver
  split <;> rfl

theorem finished_deliver (hfinished : feed.finished = false) (message : String) :
    (feed.deliver message).2.finished = !(feed.deliver message).1.isPage := by
  unfold deliver
  split
  · exact hfinished
  · rfl
  · rfl

theorem receive_whole (decoder : Decoder) (chunks : List (List UInt8)) :
    (receive .complete decoder chunks).2.body.ending = .complete ∧
      (receive .complete decoder chunks).2.finished =
        !(receive .complete decoder chunks).1.isPage := by
  induction chunks generalizing decoder with
  | nil => exact ⟨rfl, rfl⟩
  | cons chunk chunks ih =>
    rw [receive]
    cases hchunk : decoder.feed chunk with
    | mk next found =>
      cases found with
      | nil => exact ih next
      | cons message waiting =>
        exact ⟨congrArg Body.ending (body_deliver _ message), finished_deliver rfl message⟩

theorem finished_next (hending : feed.body.ending = .complete) :
    feed.next.2.body.ending = .complete ∧ feed.next.2.finished = !feed.next.1.isPage := by
  rw [next]
  split
  · rename_i hfinished
    exact ⟨hending, hfinished⟩
  · rename_i hfinished
    split
    · refine ⟨(congrArg Body.ending (body_deliver _ _)).trans hending, finished_deliver ?_ _⟩
      exact Bool.eq_false_iff.mpr hfinished
    · rw [hending]
      exact receive_whole _ _

theorem remaining_of_finished (hfinished : feed.finished) : feed.remaining = [] := by
  rw [remaining, if_pos hfinished]

theorem next_whole (hending : feed.body.ending = .complete) :
    feed.next.1 = .ofResult? feed.remaining.head? ∧
      feed.next.2.remaining = feed.remaining.tail := by
  obtain ⟨-, hfinished⟩ := finished_next hending
  cases hremaining : feed.remaining with
  | nil =>
    have hnext := next_of_remaining_nil hending hremaining
    rw [hnext] at hfinished
    exact ⟨hnext, remaining_of_finished hfinished⟩
  | cons result others =>
    cases result with
    | ok e =>
      obtain ⟨after, hnext, hrest, -⟩ := next_of_remaining_ok hremaining
      rw [hnext]
      exact ⟨rfl, hrest⟩
    | error f =>
      obtain ⟨hnext, rfl⟩ := next_of_remaining_error hremaining
      rw [hnext] at hfinished
      exact ⟨hnext, remaining_of_finished hfinished⟩

theorem after_whole (hending : feed.body.ending = .complete) (n : Nat) :
    (feed.after n).body.ending = .complete ∧ (feed.after n).remaining = feed.remaining.drop n := by
  induction n with
  | zero => exact ⟨hending, rfl⟩
  | succ n ih =>
    obtain ⟨hafter, hremaining⟩ := ih
    refine ⟨(finished_next hafter).1, ?_⟩
    rw [after, (next_whole hafter).2, hremaining, List.tail_drop]

theorem pull_eq (hending : feed.body.ending = .complete) (n : Nat) :
    feed.pull n = .ofResult? feed.remaining[n]? := by
  obtain ⟨hafter, hremaining⟩ := after_whole hending n
  rw [pull, (next_whole hafter).1, hremaining, List.head?_drop]

theorem finished_after_iff (hending : feed.body.ending = .complete)
    (hfinished : feed.finished = false) (n : Nat) :
    (feed.after n).finished ↔ ∃ m < n, (feed.pull m).isPage = false := by
  induction n with
  | zero => simp [after, hfinished]
  | succ n ih =>
    have hstep : (feed.after (n + 1)).finished = !(feed.pull n).isPage :=
      (finished_next (after_whole hending n).1).2
    constructor
    · intro h
      exact ⟨n, Nat.lt_succ_self n, by simpa [hstep] using h⟩
    · rintro ⟨m, hm, hpage⟩
      rcases Nat.lt_succ_iff_lt_or_eq.mp hm with hlt | rfl
      · -- a feed that is over stays so: it gives no page
        have hover : feed.pull n = .over := by
          rw [pull, next, if_pos (ih.mpr ⟨m, hlt, hpage⟩)]
        rw [hstep, hover]
        rfl
      · rw [hstep, hpage]
        rfl

/-- **What a page feed delivers.** Let a whole body arrive in any chunks. The pulls of its feed give
the results of the messages of its bytes, in order, up to and including the first that is no page,
and from then on that the feed is over; none of them waits in vain. The feed is over from the first
pull on that gives no page. So the pulls are the same for all chunks of the same bytes; and where
the bytes are those of finished lines with others after them that have no empty line, the others
make no difference. -/
theorem pulls_of_chunks (chunks : List (List UInt8)) :
    let feed := ofChunks chunks
    let results := untilEnd ((({} : Decoder).feed chunks.flatten).2.map PageEvent.parse)
    (∀ n, feed.pull n = .ofResult? results[n]? ∧ feed.pull n ≠ .blocked) ∧
      (∀ n, (feed.after n).finished ↔ ∃ m < n, (feed.pull m).isPage = false) ∧
      (∀ others : List (List UInt8), others.flatten = chunks.flatten →
        ∀ n, (ofChunks others).pull n = feed.pull n) ∧
      ∀ whole rest, chunks.flatten = whole ++ rest → (whole = [] ∨ whole.getLast? = some 10) →
        Decoder.EndsNoBlock rest → ∀ n, (ofChunks [whole]).pull n = feed.pull n := by
  intro feed results
  have hpull : ∀ others : List (List UInt8), ∀ n, (ofChunks others).pull n =
      .ofResult? (delivery (({} : Decoder).feed others.flatten).2)[n]? :=
    fun _ n => pull_eq rfl n
  refine ⟨fun n => ⟨hpull chunks n, ?_⟩, finished_after_iff rfl rfl, fun others hsame n => ?_, ?_⟩
  · exact next_ne_blocked (after_whole rfl n).1
  · rw [hpull others, hsame]
    exact (hpull chunks n).symm
  · intro whole rest hbytes hwhole hrest n
    have hmessages : (({} : Decoder).feed [whole].flatten).2 =
        (({} : Decoder).feed chunks.flatten).2 := by
      rw [hbytes, Decoder.messages_append_of_endsNoBlock hwhole hrest, List.flatten_singleton]
    rw [hpull [whole], hmessages]
    exact (hpull chunks n).symm

/-- A body that ends within a message, in chunks that part the end marker before it. -/
theorem pulls_of_chunks_unterminated :
    let chunks : List (List UInt8) :=
      [[100, 97, 116, 97, 58, 32, 123], [125, 10], [10, 100, 97, 116, 97, 58, 49]]
    let marker : List UInt8 := [100, 97, 116, 97, 58, 32, 123, 125, 10, 10]
    let feed := ofChunks chunks
    feed.pull 0 = .event .terminal ∧ (feed.after 1).finished ∧
      ∀ n, (ofChunks [marker]).pull n = feed.pull n := by
  intro chunks marker feed
  obtain ⟨hpulls, hfinished, -, hrest⟩ := pulls_of_chunks chunks
  have hmessages : (({} : Decoder).feed chunks.flatten).2 = ["{}"] := by decide
  have hfirst : feed.pull 0 = .event .terminal := by
    rw [(hpulls 0).1, hmessages, List.map_singleton, PageEvent.parse_marker]
    rfl
  have hblock : Decoder.EndsNoBlock [100, 97, 116, 97, 58, 49] := by
    rw [Decoder.EndsNoBlock]
    decide
  refine ⟨hfirst, (hfinished 1).mpr ⟨0, Nat.zero_lt_one, ?_⟩, ?_⟩
  · rw [hfirst]
    rfl
  · exact hrest marker [100, 97, 116, 97, 58, 49] rfl (.inr rfl) hblock

end PageFeed

end MangaReader.Feed

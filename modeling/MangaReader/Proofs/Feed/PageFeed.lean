import MangaReader.Feed.PageFeed
import MangaReader.Proofs.Feed.Framing

/-!
# What a page feed delivers

A page feed delivers the events of its messages one by one, up to and including the first that is no
page. What it will deliver is a matter of its messages (`PageFeed.messages`), those that wait and
those that the rest of the body holds; where the body is cut does not show.

* `PageFeed.remaining` : what is still to be delivered.
* `PageFeed.next_of_messages` : the next pull is about the next message.
* `PageFeed.next_of_remaining_ok`, `next_of_remaining_error`, `next_of_remaining_nil` : the next
  pull of a whole body gives the next of what is still to be delivered.
* `PageFeed.next_of_exhausted` : where nothing is left, it is about the end of the body.
* `PageFeed.remaining_lt_of_event` : every event leaves less to deliver.
* `length_resultsOf_le` : a body delivers no more results than it has bytes.
-/

namespace MangaReader.Feed

open Backend

/-- The results of some messages up to and including the first that is no page. -/
def untilEnd : List (Except Failure PageEvent) → List (Except Failure PageEvent)
  | [] => []
  | .ok (.page page) :: rest => .ok (.page page) :: untilEnd rest
  | last :: _ => [last]

def delivery (messages : List String) : List (Except Failure PageEvent) :=
  untilEnd (messages.map PageEvent.parse)

def resultsOf (body : Body) : List (Except Failure PageEvent) :=
  delivery (({} : Decoder).feed body.bytes).2

namespace PageFeed

def messages (feed : PageFeed) : List String :=
  feed.waiting ++ (feed.decoder.feed feed.body.bytes).2

/-- What is still to be delivered. -/
def remaining (feed : PageFeed) : List (Except Failure PageEvent) :=
  if feed.finished then [] else delivery feed.messages

variable {feed : PageFeed} {message : String} {rest : List String}

/-! ### The next message -/

theorem receive_of_no_message (ending : BodyEnd) (decoder : Decoder) (chunks : List (List UInt8))
    (h : (decoder.feed chunks.flatten).2 = []) :
    receive ending decoder chunks = receive ending (decoder.feed chunks.flatten).1 [] := by
  induction chunks generalizing decoder with
  | nil => rfl
  | cons chunk chunks ih =>
    rw [List.flatten_cons, Decoder.feed_append, List.append_eq_nil_iff] at h
    rw [receive, List.flatten_cons, Decoder.feed_append]
    cases hchunk : decoder.feed chunk with
    | mk next found =>
      rw [hchunk] at h
      obtain ⟨hfound, hrest⟩ := h
      subst hfound
      exact ih next hrest

/-- **Chunks arrive until one of them completes a message**, which is the first of all messages. -/
theorem receive_of_message (ending : BodyEnd) (decoder : Decoder) (chunks : List (List UInt8))
    (h : (decoder.feed chunks.flatten).2 = message :: rest) :
    ∃ after : PageFeed, receive ending decoder chunks = deliver after message ∧
      after.finished = false ∧ after.body.ending = ending ∧ after.messages = rest := by
  induction chunks generalizing decoder with
  | nil => cases h
  | cons chunk chunks ih =>
    rw [List.flatten_cons, Decoder.feed_append] at h
    rw [receive]
    cases hchunk : decoder.feed chunk with
    | mk next found =>
      rw [hchunk] at h
      cases found with
      | nil => exact ih next h
      | cons first waiting =>
        rw [List.cons_append, List.cons.injEq] at h
        obtain ⟨hfirst, hrest⟩ := h
        subst hfirst
        exact ⟨{ body := ⟨chunks, ending⟩, decoder := next, waiting }, rfl, rfl, rfl, hrest⟩

theorem next_of_messages (hfinished : feed.finished = false)
    (h : feed.messages = message :: rest) :
    ∃ after : PageFeed, feed.next = deliver after message ∧ after.finished = false ∧
      after.body.ending = feed.body.ending ∧ after.messages = rest := by
  rw [next, if_neg (by simp [hfinished])]
  cases hwaiting : feed.waiting with
  | nil =>
    rw [messages, hwaiting, List.nil_append] at h
    exact receive_of_message _ _ _ h
  | cons first waiting =>
    rw [messages, hwaiting, List.cons_append, List.cons.injEq] at h
    obtain ⟨hfirst, hrest⟩ := h
    subst hfirst
    exact ⟨{ feed with waiting }, rfl, hfinished, rfl, hrest⟩

theorem next_of_no_message (hfinished : feed.finished = false)
    (hending : feed.body.ending = .complete) (h : feed.messages = []) : feed.next.1 = .over := by
  rw [messages, List.append_eq_nil_iff] at h
  rw [next, hfinished, if_neg (by decide), h.1, hending]
  show (receive .complete feed.decoder feed.body.chunks).1 = .over
  rw [receive_of_no_message _ _ _ h.2]
  rfl

/-! ### The next of what is still to be delivered -/

section remaining
variable {e : PageEvent} {f : Failure} {others : List (Except Failure PageEvent)}

theorem exists_message_of_remaining {x : Except Failure PageEvent}
    (h : feed.remaining = x :: others) :
    feed.finished = false ∧ ∃ message rest, feed.messages = message :: rest ∧
      PageEvent.parse message = x ∧ untilEnd (x :: rest.map PageEvent.parse) = x :: others := by
  rw [remaining] at h
  split at h
  · cases h
  · rename_i hfinished
    refine ⟨by simpa using hfinished, ?_⟩
    cases hmessages : feed.messages with
    | nil =>
      rw [hmessages] at h
      cases h
    | cons message rest =>
      rw [hmessages, delivery, List.map_cons] at h
      have hx : PageEvent.parse message = x := by
        rw [untilEnd.eq_def] at h
        split at h <;> simp_all
      exact ⟨message, rest, rfl, hx, hx ▸ h⟩

theorem next_of_remaining_ok (h : feed.remaining = .ok e :: others) :
    ∃ after : PageFeed, feed.next = (.event e, after) ∧ after.remaining = others ∧
      after.body.ending = feed.body.ending := by
  obtain ⟨hfinished, message, rest, hmessages, hparse, huntil⟩ := exists_message_of_remaining h
  obtain ⟨after, hnext, hopen, hending, hrest⟩ := next_of_messages hfinished hmessages
  rw [hnext, deliver, hparse]
  cases e with
  | page page =>
    refine ⟨after, rfl, ?_, hending⟩
    rw [untilEnd, List.cons.injEq] at huntil
    rw [remaining, hopen, if_neg (by decide), hrest]
    exact huntil.2
  | terminal =>
    refine ⟨{ after with finished := true }, rfl, ?_, hending⟩
    rw [untilEnd, List.cons.injEq] at huntil
    · exact huntil.2
    · intro page hpage
      cases hpage

theorem next_of_remaining_error (h : feed.remaining = .error f :: others) :
    feed.next.1 = .failed f ∧ others = [] := by
  obtain ⟨hfinished, message, rest, hmessages, hparse, huntil⟩ := exists_message_of_remaining h
  obtain ⟨after, hnext, hopen, hending, hrest⟩ := next_of_messages hfinished hmessages
  refine ⟨by rw [hnext, deliver, hparse], ?_⟩
  rw [untilEnd, List.cons.injEq] at huntil
  · exact huntil.2.symm
  · intro page hpage
    cases hpage

theorem remaining_of_terminal (h : feed.remaining = .ok .terminal :: others) : others = [] := by
  obtain ⟨-, message, rest, -, -, huntil⟩ := exists_message_of_remaining h
  rw [untilEnd, List.cons.injEq] at huntil
  · exact huntil.2.symm
  · intro page hpage
    cases hpage

theorem messages_eq_nil (hfinished : feed.finished = false) (h : feed.remaining = []) :
    feed.messages = [] := by
  rw [remaining, hfinished, if_neg (by decide)] at h
  cases hmessages : feed.messages with
  | nil => rfl
  | cons message rest =>
    rw [hmessages, delivery, List.map_cons, untilEnd.eq_def] at h
    split at h <;> simp_all

theorem next_of_remaining_nil (hending : feed.body.ending = .complete) (h : feed.remaining = []) :
    feed.next.1 = .over := by
  cases hfinished : feed.finished with
  | true => rw [next, if_pos hfinished]
  | false => exact next_of_no_message hfinished hending (messages_eq_nil hfinished h)

theorem next_ne_blocked (hending : feed.body.ending = .complete) : feed.next.1 ≠ .blocked := by
  intro hblocked
  cases hremaining : feed.remaining with
  | nil =>
    rw [next_of_remaining_nil hending hremaining] at hblocked
    cases hblocked
  | cons result rest =>
    cases result with
    | ok e =>
      obtain ⟨after, hnext, -⟩ := next_of_remaining_ok hremaining
      rw [hnext] at hblocked
      cases hblocked
    | error f =>
      rw [(next_of_remaining_error hremaining).1] at hblocked
      cases hblocked

theorem next_of_exhausted (hfinished : feed.finished = false) (h : feed.remaining = []) :
    ∃ decoder, feed.next = receive feed.body.ending decoder [] := by
  have hmessages := messages_eq_nil hfinished h
  rw [messages, List.append_eq_nil_iff] at hmessages
  refine ⟨(feed.decoder.feed feed.body.chunks.flatten).1, ?_⟩
  rw [next, hfinished, if_neg (by decide), hmessages.1]
  exact receive_of_no_message _ _ _ hmessages.2

theorem next_ne_event (h : feed.remaining = []) (e : PageEvent) : feed.next.1 ≠ .event e := by
  cases hfinished : feed.finished with
  | true =>
    rw [next, if_pos hfinished]
    nofun
  | false =>
    obtain ⟨decoder, hnext⟩ := next_of_exhausted hfinished h
    rw [hnext, receive.eq_def]
    cases feed.body.ending <;> nofun

theorem remaining_lt_of_event {after : PageFeed} (h : feed.next = (.event e, after)) :
    after.remaining.length < feed.remaining.length := by
  cases hremaining : feed.remaining with
  | nil => exact absurd (congrArg Prod.fst h) (next_ne_event hremaining e)
  | cons result rest =>
    cases result with
    | error f =>
      have hfailed := (next_of_remaining_error hremaining).1
      rw [h] at hfailed
      cases hfailed
    | ok other =>
      obtain ⟨next, hnext, hrest, -⟩ := next_of_remaining_ok hremaining
      have hsame : after = next := (Prod.ext_iff.mp (h.symm.trans hnext)).2
      rw [hsame, hrest, List.length_cons]
      omega

theorem next_of_remaining_page {page : PageDescriptor}
    (h : feed.remaining = .ok (.page page) :: others) :
    ∃ after : PageFeed, feed.next = (.event (.page page), after) ∧ after.finished = false ∧
      after.remaining = others ∧ after.body.ending = feed.body.ending := by
  obtain ⟨hfinished, message, rest, hmessages, hparse, huntil⟩ := exists_message_of_remaining h
  obtain ⟨after, hnext, hopen, hending, hrest⟩ := next_of_messages hfinished hmessages
  refine ⟨after, by rw [hnext, deliver, hparse], hopen, ?_, hending⟩
  rw [untilEnd, List.cons.injEq] at huntil
  rw [remaining, hopen, if_neg (by decide), hrest]
  exact huntil.2

theorem remaining_of_body (body : Body) : ({ body } : PageFeed).remaining = resultsOf body := rfl

end remaining

end PageFeed

/-! ### How much is delivered -/

theorem length_messages_le (decoder : Decoder) (bytes : List UInt8) :
    (decoder.feed bytes).2.length ≤ bytes.length := by
  induction bytes generalizing decoder with
  | nil => exact Nat.le_refl _
  | cons b bytes ih =>
    have hone : ∀ message : Option String, message.toList.length ≤ 1 := by
      intro message
      cases message <;> simp
    have hrest := ih (decoder.push b).1
    have hfirst := hone (decoder.push b).2
    rw [Decoder.feed, List.length_append, List.length_cons]
    omega

theorem length_untilEnd_le (results : List (Except Failure PageEvent)) :
    (untilEnd results).length ≤ results.length := by
  induction results with
  | nil => exact Nat.le_refl _
  | cons result rest ih =>
    rw [untilEnd.eq_def]
    split
    · exact Nat.zero_le _
    · rename_i hsame
      cases hsame
      simpa using ih
    · simp_all

theorem length_resultsOf_le (body : Body) : (resultsOf body).length ≤ body.bytes.length := by
  refine (length_untilEnd_le _).trans ?_
  rw [List.length_map]
  exact length_messages_le {} body.bytes

end MangaReader.Feed

import MangaReader.Backend.Body
import MangaReader.Feed.Framing
import MangaReader.Feed.PageEvent

/-!
# Page feeds

A page feed delivers the events of a body one at a time, up to and including the first that is no
page.

* `PageFeed` : what has arrived and was not delivered, and whether the feed is over.
* `PageFeed.next` : the next event.
-/

namespace MangaReader.Feed

open Backend

structure PageFeed where
  /-- What has not arrived yet. -/
  body : Body
  decoder : Decoder := {}
  /-- Messages that have arrived and were not delivered. -/
  waiting : List String := []
  finished : Bool := false
  deriving DecidableEq, Repr

inductive Pull where
  | event (e : PageEvent)
  | failed (f : Failure)
  /-- The feed is over. -/
  | over
  /-- Nothing more arrives, and the feed is not over. -/
  | blocked
  deriving DecidableEq, Repr

namespace PageFeed

def deliver (feed : PageFeed) (message : String) : Pull × PageFeed :=
  match PageEvent.parse message with
  | .ok (.page p) => (.event (.page p), feed)
  | .ok .terminal => (.event .terminal, { feed with finished := true })
  | .error f => (.failed f, { feed with finished := true })

/-- Lets chunks arrive until one of them completes a message. -/
def receive (ending : BodyEnd) (decoder : Decoder) : List (List UInt8) → Pull × PageFeed
  | [] =>
    let feed : PageFeed := { body := ⟨[], ending⟩, decoder }
    match ending with
    | .complete => (.over, { feed with finished := true })
    | .cut => (.failed (.transport .cut), { feed with finished := true })
    | .hang => (.blocked, feed)
  | chunk :: chunks =>
    match decoder.feed chunk with
    | (decoder, []) => receive ending decoder chunks
    | (decoder, message :: waiting) =>
      deliver { body := ⟨chunks, ending⟩, decoder, waiting } message

def next (feed : PageFeed) : Pull × PageFeed :=
  if feed.finished then (.over, feed)
  else
    match feed.waiting with
    | message :: waiting => deliver { feed with waiting } message
    | [] => receive feed.body.ending feed.decoder feed.body.chunks

end PageFeed

end MangaReader.Feed

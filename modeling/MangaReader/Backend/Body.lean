import MangaReader.Text.Utf8

/-!
# The body of an answer

* `Body` : the chunks that arrive, and what happens after the last.
-/

namespace MangaReader.Backend

/-- What happens after the last chunk of a body. -/
inductive BodyEnd where
  /-- The body is whole. -/
  | complete
  /-- The connection ends before the body does. -/
  | cut
  /-- Nothing more arrives, and the connection stays open. -/
  | hang
  deriving DecidableEq, Repr

structure Body where
  chunks : List (List UInt8)
  ending : BodyEnd
  deriving DecidableEq, Repr

namespace Body

def bytes (b : Body) : List UInt8 := b.chunks.flatten

def text (b : Body) : String := String.ofList (Utf8.decode b.bytes)

end Body

end MangaReader.Backend

import MangaReader.Library.Series
import MangaReader.Reading.Error

/-!
# What a reader tells its listeners

* `ReaderEvent` : everything that listeners are told.
* `ReaderEvent.session?` : the session that an event is about.
-/

namespace MangaReader

inductive ReaderEvent where
  | indexLoaded (chapters : Nat)
  | sessionOpened (session : Nat) (chapter : Chapter)
  | pageRendered (session index total : Nat)
  | chapterComplete (session : Nat) (chapter : Int) (pages : Nat)
  | streamFailed (session : Nat) (chapter : Int) (error : ReadError)
  | historyRecorded (chapter : Int)
  | lastRead (chapter : Option Reference)
  deriving DecidableEq, Repr

namespace ReaderEvent

def session? : ReaderEvent → Option Nat
  | .sessionOpened session _ | .pageRendered session _ _ | .chapterComplete session _ _
  | .streamFailed session _ _ => some session
  | _ => none

def isHistory : ReaderEvent → Bool
  | .historyRecorded _ | .lastRead _ => true
  | _ => false

end ReaderEvent

end MangaReader

import MangaReader.Backend.Failure
import MangaReader.Chapter.Index

/-!
# What a reader of chapters reports

* `ReadError` : every way in which reading fails, as it is told to a user.
* `ReadError.message`, `ReadError.isNotFound` : what is said of one.
* `ReadError.ofFailure` : a failure of the backend, as it is told to a user.
-/

namespace MangaReader

inductive ReadError where
  /-- An answer of the backend could not be used; its status, if that is why. -/
  | fetch (message : String) (status : Option Nat)
  | unreachable (url : String) (reason : String)
  | invalidSelection (place : Cursor) (reason : String)
  | stream (message : String)
  /-- No page event arrived within a number of milliseconds. -/
  | streamTimeout (milliseconds : Nat)
  | config (message : String)
  | internal (message : String)
  deriving DecidableEq, Repr

namespace ReadError

def message : ReadError → String
  | .fetch message _ => "Fetch failed: " ++ message
  | .unreachable url reason => "Cannot reach reader backend at " ++ url ++ ": " ++ reason
  | .invalidSelection place reason =>
    "Invalid selection " ++ place.group.name ++ "[" ++ toString place.position ++ "]: " ++ reason
  | .stream message => "Page stream failed: " ++ message
  | .streamTimeout milliseconds =>
    "No page event received within " ++ toString milliseconds ++ "ms"
  | .config message => "Configuration error: " ++ message
  | .internal message => "Internal error: " ++ message

def isNotFound : ReadError → Bool
  | .fetch _ (some status) => status == 404
  | _ => false

def isTimeout : ReadError → Bool
  | .streamTimeout _ => true
  | _ => false

open Backend in
def ofFailure : Failure → ReadError
  | .transport (.refused url) => .unreachable url (TransportFault.refused url).message
  | .transport fault => .fetch fault.message none
  | .invalidUrl fault => .config ("Invalid URL: " ++ fault.message)
  | .tls message => .unreachable "" ("TLS error: " ++ message)
  | .http status message => .fetch ("HTTP " ++ toString status ++ ": " ++ message) (some status)
  | .undecodable message _ => .fetch ("malformed response: " ++ message) none
  | .malformedEvent message _ => .stream ("malformed page event: " ++ message)

end ReadError

end MangaReader

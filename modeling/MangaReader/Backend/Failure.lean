import MangaReader.Text.Utf8
import MangaReader.Url.Fault

/-!
# Failures of the backend

* `TransportFault` : what happened to a request that got no whole answer.
* `Failure` : every way in which a call to the backend fails.
* `Failure.message`, `Failure.isTransient`, `Failure.isNotFound`, `Failure.status?` : what is said
  of one.
-/

namespace MangaReader.Backend

/-- What happened to a request that got no whole answer. -/
inductive TransportFault where
  /-- The request could not be built. -/
  | unsendable (url : String)
  /-- No connection was made. -/
  | refused (url : String)
  /-- The connection ended without an answer. -/
  | dropped (url : String)
  /-- The body of the answer was cut off. -/
  | cut
  /-- The body of the answer did not end in time. -/
  | expired
  deriving DecidableEq, Repr

namespace TransportFault

def message : TransportFault → String
  | .unsendable url => "builder error for url (" ++ url ++ ")"
  | .refused url | .dropped url => "error sending request for url (" ++ url ++ ")"
  | .cut | .expired => "error decoding response body"

def isConnect : TransportFault → Bool
  | .refused _ => true
  | _ => false

def isTimeout : TransportFault → Bool
  | .expired => true
  | _ => false

end TransportFault

/-- Every way in which a call to the backend fails. -/
inductive Failure where
  | transport (fault : TransportFault)
  | invalidUrl (fault : Url.Fault)
  | tls (message : String)
  /-- An answer that is no success, and the start of its body. -/
  | http (status : Nat) (message : String)
  /-- A body of another form than the one wanted. -/
  | undecodable (message : String) (body : String)
  /-- A message of a page feed that is no page event. -/
  | malformedEvent (message : String) (data : String)
  deriving DecidableEq, Repr

namespace Failure

def message : Failure → String
  | .transport fault => "HTTP transport error: " ++ fault.message
  | .invalidUrl fault => "Invalid URL: " ++ fault.message
  | .tls message => "TLS error: " ++ message
  | .http status message => "HTTP " ++ toString status ++ ": " ++ message
  | .undecodable message _ => "Deserialization error: " ++ message
  | .malformedEvent message _ => "Malformed page event: " ++ message

def isTransient : Failure → Bool
  | .transport fault => fault.isTimeout || fault.isConnect
  | .http status _ => 500 ≤ status
  | _ => false

def isNotFound : Failure → Bool
  | .http status _ => status == 404
  | _ => false

def status? : Failure → Option Nat
  | .http status _ => some status
  | _ => none

end Failure

end MangaReader.Backend

import MangaReader.Backend.Call
import MangaReader.Backend.Certificate
import MangaReader.Feed.PageFeed
import MangaReader.Files

/-!
# Clients of a backend

* `Trust`, `Access` : how a backend is reached.
* `Client.connect` : a client, if access can be had.
* `Exchange` : what happens between a program and a backend.
* `Client.perform` : makes a call.
* `Client.openFeed` : opens the page feed of a chapter.
-/

namespace MangaReader

open Backend Feed

inductive Trust where
  /-- Those that the system trusts. -/
  | system
  /-- Those that the certificates of a file vouch for, too. -/
  | customCa (path : String)
  /-- All. -/
  | insecure
  deriving DecidableEq, Repr

structure Access where
  trust : Trust := .system
  /-- The milliseconds within which an answer is wanted. -/
  timeout : Nat := 30000
  /-- The milliseconds within which a connection is wanted. -/
  connectTimeout : Nat := 10000
  cookie : Option String := none
  deriving DecidableEq, Repr

namespace Access

def isCookie (cookie : String) : Bool :=
  cookie.toList.all fun c => c = '\t' || ' ' ≤ c && c != '\x7f'

/-- What keeps access from being had, if anything does; `client` names what it is wanted for. The
cookie is looked at before the certificates. -/
def fault? (access : Access) (files : Files) (client : String) : Option Failure :=
  if !access.cookie.all isCookie then
    some (.tls "session cookie contains invalid header characters")
  else
    match access.trust with
    | .system | .insecure => none
    | .customCa path =>
      match files.read? path with
      | none => some (.tls ("failed to read CA cert: " ++ Files.missing))
      | some bytes =>
        if Certificate.accepts bytes then none
        else some (.tls ("failed to build " ++ client ++ " client: builder error"))

end Access

structure Client where
  /-- The address, which ends with a slash. -/
  base : Url
  cookie : Option String := none
  deriving DecidableEq, Repr

/-- What happens between a program and a backend: the backend changes, and there is a result or an
error. -/
abbrev Exchange (ε α : Type) : Type := ExceptT ε (StateM Backend) α

inductive Opening where
  | opened (feed : PageFeed)
  | failed (f : Failure)
  /-- There is no end of an answer that reports a failure. -/
  | blocked
  deriving DecidableEq, Repr

namespace Client

def connect (files : Files) (access : Access) (server : Url) : Except Failure Client :=
  match access.fault? files "HTTP", access.fault? files "feed" with
  | some f, _ | none, some f => .error f
  | none, none => .ok ⟨server.withSlash, access.cookie⟩

def request {α : Type} (client : Client) (call : Call α) : Except Failure Request :=
  match call.endpoint.url client.base with
  | .error fault => .error (.invalidUrl fault)
  | .ok url =>
    .ok {
      method := call.method, url := url.anonymous, cookie := client.cookie, form := call.fields }

def ask (request : Request) : Exchange Failure Answer := fun backend =>
  let (outcome, backend) := backend.send request
  (outcome.mapError .transport, backend)

def perform {α : Type} (client : Client) (call : Call α) : Exchange Failure α := do
  let request ← client.request call
  let answer ← ask request
  call.result answer

def feedRequest (client : Client) (chapter : Int) : Except Failure Request :=
  match (Endpoint.pages chapter).url client.base with
  | .error fault => .error (.invalidUrl fault)
  | .ok url => .ok { method := .get, url := url.anonymous, stream := true, cookie := client.cookie }

/-- The page feed that an answer starts. An answer to such a request has no limit of time. -/
def feedOf (a : Answer) : Opening :=
  if a.isSuccess then .opened { body := a.body }
  else
    match a.body.ending with
    | .hang => .blocked
    | _ => .failed a.failure

def openFeed (client : Client) (chapter : Int) (backend : Backend) : Opening × Backend :=
  match client.feedRequest chapter with
  | .error f => (.failed f, backend)
  | .ok request =>
    match backend.send request with
    | (.ok answer, backend) => (feedOf answer, backend)
    | (.error fault, backend) => (.failed (.transport fault), backend)

end Client

end MangaReader

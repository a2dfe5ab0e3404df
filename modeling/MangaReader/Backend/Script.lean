import MangaReader.Backend.Body
import MangaReader.Backend.Endpoint
import MangaReader.Backend.Failure

/-!
# Backends

A backend listens at an origin and answers from a script: a list of routes, each with the replies
that it gives in turn. It keeps a record of the requests that have reached it.

* `Method`, `Request`, `Answer`, `Reply`, `Route` : what is sent and what comes back.
* `Backend`, `Backend.send` : a backend, and its answer to a request.
-/

namespace MangaReader.Backend

inductive Method where
  | get
  | post
  | put
  | delete
  deriving DecidableEq, Repr

def Method.name : Method → String
  | .get => "GET"
  | .post => "POST"
  | .put => "PUT"
  | .delete => "DELETE"

structure Request where
  method : Method
  url : Url
  /-- Whether a stream of events is asked for. -/
  stream : Bool := false
  cookie : Option String := none
  /-- The names and values of a form, if one is sent. -/
  form : Option (List (String × String)) := none
  deriving DecidableEq, Repr

structure Answer where
  status : Nat
  body : Body
  deriving DecidableEq, Repr

namespace Answer

def isSuccess (a : Answer) : Bool := 200 ≤ a.status && a.status < 300

/-- An answer as it arrives: of some statuses it has no body. -/
def arriving (a : Answer) : Answer :=
  if a.status = 204 ∨ a.status = 304 then { a with body := ⟨[], .complete⟩ } else a

end Answer

inductive Reply where
  | answer (a : Answer)
  /-- The connection ends without an answer. -/
  | dropped
  deriving DecidableEq, Repr

/-- The replies to the requests of one method for one target. -/
structure Route where
  method : Method
  /-- A path, which stands for itself with any query, or a path and a query. -/
  target : String
  /-- One reply per request; the last is given again and again. -/
  replies : List Reply
  deriving DecidableEq, Repr

namespace Route

def admits (route : Route) (request : Request) : Bool :=
  route.method == request.method &&
    (route.target == request.url.target ||
      !route.target.toList.contains '?' && route.target == request.url.path.text)

def reply (route : Route) : Reply :=
  route.replies.headD (.answer ⟨200, ⟨[], .complete⟩⟩)

def advance (route : Route) : Route :=
  match route.replies with
  | _ :: next :: rest => { route with replies := next :: rest }
  | _ => route

end Route

def notFound : Answer := ⟨404, ⟨["no route".toUTF8.toList], .complete⟩⟩

end Backend

open Backend

/-- A backend that answers from a script. -/
structure Backend where
  /-- Where it can be reached, if it can be reached at all. -/
  origin : Option String := none
  routes : List Route := []
  /-- The requests that have reached it, in their order. -/
  received : List Request := []
  deriving DecidableEq, Repr

namespace Backend

/-- The reply of the first route for a request, and the routes after it. -/
def dispatch (request : Request) : List Route → Reply × List Route
  | [] => (.answer notFound, [])
  | route :: rest =>
    if route.admits request then (route.reply, route.advance :: rest)
    else
      let (reply, rest) := dispatch request rest
      (reply, route :: rest)

def send (backend : Backend) (request : Request) : Except TransportFault Answer × Backend :=
  if !request.url.isWeb then (.error (.unsendable request.url.text), backend)
  else if backend.origin != some request.url.origin then
    (.error (.refused request.url.text), backend)
  else
    let (reply, routes) := dispatch request backend.routes
    (match reply with
      | .answer a => .ok a.arriving
      | .dropped => .error (.dropped request.url.text),
      { backend with routes, received := backend.received ++ [request] })

end Backend

end MangaReader

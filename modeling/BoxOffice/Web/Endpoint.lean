import BoxOffice.Hub.Basic
import BoxOffice.Web.Request

/-! # The endpoints

The box office answers requests on five paths. Two of them turn a connection into a session, if the
request asks for that properly; the others tell how the box office is. A path is taken as it is
written: its letters count, and nothing in it is decoded.
-/

namespace BoxOffice.Web

/-- What a response carries. -/
inductive Body where
  | text (text : Text)
  /-- A report on the health of components. -/
  | health (checks : List Health.Check)
  /-- The metrics, a block of lines for each. -/
  | metrics (blocks : List (List Text))
  deriving Repr, DecidableEq

structure Response where
  status : Nat
  contentType : Option Text
  /-- The methods that are allowed, where another one was used. -/
  allow : Option Text
  body : Body
  deriving Repr, DecidableEq

/-- The paths that are answered. -/
inductive Path where
  /-- Turns the connection into a session. -/
  | session
  | alive
  | ready
  | metrics
  deriving Repr, DecidableEq

def Path.ofText? (path : Text) : Option Path :=
  [("/".toList, Path.session), ("/ws".toList, .session), ("/health".toList, .alive),
    ("/health/ready".toList, .ready), ("/metrics".toList, .metrics)].lookup path

def plain : Text := "text/plain; charset=utf-8"

def Response.ofText (status : Nat) (text : Text) : Response :=
  ⟨status, some plain, none, .text text⟩

def Response.empty (status : Nat) (allow : Option Text) : Response :=
  ⟨status, none, allow, .text []⟩

/-! ## Sessions -/

/-- Answer a request for a session, given what the transport makes of it. A proper one is granted
    while there is capacity; of any other the transport has said what is wrong with it. -/
def handshake (h : Hub) : Except Response Unit → Response
  | .error response => response
  | .ok () =>
      if h.hasCapacity then .empty 101 none
      else .ofText 503 "Too many connections. Please try again later."

/-! ## Health and metrics -/

def checks (h : Hub) : List Health.Check :=
  [{ component := "catalog"
     condition := if h.programme.isEmpty then .unhealthy "No shows loaded" else .healthy
     details := [("shows", Text.ofNat h.programme.length)] },
    h.health]

/-- Answer whether the box office is ready. A degraded one still is. -/
def readiness (h : Hub) : Response :=
  { status := if Health.overall (checks h) = .unhealthy then 503 else 200
    contentType := some "application/json".toList
    allow := none
    body := .health (checks h) }

/-- Answer with the metrics, if this process keeps any. -/
def scrape : Option (List (List Text)) → Response
  | some blocks => ⟨200, some "text/plain; version=0.0.4".toList, none, .metrics blocks⟩
  | none => .ofText 404 "metrics recorder not installed"

/-! ## Routing -/

/-- What the box office knows when a request comes in. -/
structure Service where
  hub : Hub
  /-- The metrics, if this process keeps any. -/
  metrics : Option (List (List Text))
  deriving Repr, DecidableEq

/-- Answer a request whose method the path allows. -/
def Service.answer (s : Service) (upgrade : Except Response Unit) : Path → Response
  | .session => handshake s.hub upgrade
  | .alive => .ofText 200 "ok"
  | .ready => readiness s.hub
  | .metrics => scrape s.metrics

/-- Answer a request, given what the transport makes of it as one for a session. To ask for the head
    of a response is to ask for the response without its body. -/
def Service.serve (s : Service) (upgrade : Except Response Unit) (r : Request) : Response :=
  match Path.ofText? r.path with
  | none => .empty 404 none
  | some path =>
      if r.method = "GET".toList then s.answer upgrade path
      else if r.method = "HEAD".toList then { s.answer upgrade path with body := .text [] }
      else .empty 405 (some "GET,HEAD".toList)

end BoxOffice.Web

import BoxOffice.Health
import BoxOffice.Hub.Session
import BoxOffice.Metrics.Tally
import BoxOffice.Reply

/-! # The hub

The hub keeps the live sessions and passes messages between them and the programme. Everything it
does is made of the atomic steps below: a step is what happens between two moments at which another
call may come in between. Calls put them together one after another; calls that overlap mix them in
any order.
-/

namespace BoxOffice

/-- The live sessions around one programme. -/
structure Hub where
  programme : Programme
  /-- Every session accepted so far, in the order of their numbers. -/
  sessions : List Session
  /-- The numbers of the sessions that answers and updates can reach. -/
  registry : List SessionId
  /-- The number of the next session, as long as it fits into 64 bits. -/
  nextId : SessionId
  /-- How many sessions may be registered by a bounded connect. -/
  limit : Option Nat
  tally : Tally
  deriving Repr, DecidableEq

namespace Hub

/-- Why the hub does not answer. -/
inductive Error where
  /-- No such session is registered. -/
  | notRegistered (id : SessionId)
  /-- The writer of the session stopped before the answer could be queued. -/
  | closed (id : SessionId)
  deriving Repr, DecidableEq

def Error.message : Error → Text
  | .notRegistered id => "Session " ++ Text.ofNat id ++ " is not registered"
  | .closed id => "Session " ++ Text.ofNat id ++ " is closed"

/-- A hub that no one has connected to. -/
def idle (programme : Programme) (limit : Option Nat) : Hub :=
  { programme, limit, sessions := [], registry := [], nextId := 1, tally := .zero }

def session? (h : Hub) (id : SessionId) : Option Session := h.sessions.find? (·.id == id)

def update (h : Hub) (id : SessionId) (change : Session → Session) : Hub :=
  { h with sessions := h.sessions.map fun s => if s.id = id then change s else s }

def isRegistered (h : Hub) (id : SessionId) : Bool := h.registry.contains id

def count (h : Hub) (occurrence : Occurrence) : Hub :=
  { h with tally := h.tally.record occurrence }

/-- The first frame of every session. -/
def greeting (h : Hub) : Text := Snapshot.render .initial h.programme

/-- The frame that announces a booking. -/
def announcement (h : Hub) : Text := Snapshot.render .update h.programme

def isFull (h : Hub) : Bool := h.limit.any (· ≤ h.registry.length)

def hasCapacity (h : Hub) : Bool := h.limit.all (h.registry.length < ·)

/-- The hub is degraded once the limit is reached. -/
def health (h : Hub) : Health.Check :=
  { component := "connection_hub"
    condition :=
      match h.limit with
      | some max =>
          if max ≤ h.registry.length then
            .degraded ("Session limit reached (" ++ Text.ofNat max ++ ")")
          else .healthy
      | none => .healthy
    details :=
      ("sessions".toList, Text.ofNat h.registry.length) ::
        (h.limit.map fun max => ("max_sessions".toList, Text.ofNat max)).toList }

/-! ## Steps of a connect -/

/-- Give a number to a new session and queue its greeting. -/
def allocate (h : Hub) (sink : Session.Sink) : SessionId × Hub :=
  (h.nextId,
    { h with
      sessions := h.sessions ++ [.connecting h.nextId sink h.greeting]
      nextId := h.nextId + 1 })

/-- Register a session that was given a number and start its writer, unless the connect is bounded
    and the limit is reached; then the session is dropped. -/
def enroll (h : Hub) (id : SessionId) (bounded : Bool) : Bool × Hub :=
  if bounded && h.isFull then
    (false, { h with sessions := h.sessions.filter fun s => s.id ≠ id })
  else
    let registry := h.registry.insert id
    (true, ({ h.update id .activate with registry }).count (.connected registry.length))

/-! ## Steps of an inbound message -/

/-- Look the sender up. From now on its queue can be offered the answer, registered or not. -/
def lookUp (h : Hub) (id : SessionId) : Option Hub :=
  if h.isRegistered id then some (h.update id .hold) else none

/-- Have the programme answer the message. -/
def dispatch (h : Hub) (message : Text) : Reply × Hub :=
  let (reply, programme) := h.programme.route message
  let dispatched := { h with programme }.count (.dispatched none)
  (reply, match Reply.bookingResult? reply.text with
    | some granted => dispatched.count (.decided granted)
    | none => dispatched)

/-- Offer a frame to one session, and whether its queue took it. -/
def offer (h : Hub) (id : SessionId) (frame : Text) : Bool × Hub :=
  ((h.session? id).any (·.isOpen), h.update id (·.offer frame))

/-- The sessions that a frame for everyone reaches: those registered with an open queue. -/
def recipients (h : Hub) : List SessionId :=
  (h.sessions.filter fun s => h.isRegistered s.id && s.isOpen).map (·.id)

/-- Offer a frame to every registered session; the sessions whose queues took it. -/
def fanOut (h : Hub) (frame : Text) : List SessionId × Hub :=
  let sessions := h.sessions.map fun s => if h.isRegistered s.id then s.offer frame else s
  (h.recipients, { h with sessions }.count (.announced h.recipients.length))

/-- The call is over and lets go of the sender's queue. -/
def letGo (h : Hub) (id : SessionId) : Hub := h.update id .release

/-! ## Steps of a removal -/

/-- Take a session out of the registry; how many remain, if it was registered. -/
def remove (h : Hub) (id : SessionId) : Option Nat × Hub :=
  if h.isRegistered id then
    let registry := h.registry.erase id
    (some registry.length, { h with registry })
  else (none, h)

/-- Take every session out of the registry; their numbers in ascending order. -/
def drain (h : Hub) : List SessionId × Hub :=
  ((h.sessions.map (·.id)).filter h.isRegistered, { h with registry := [] })

/-! ## Steps of the writers -/

/-- Whether anyone can still offer frames to a session: the registry or a call in progress. -/
def canStillCome (h : Hub) (s : Session) : Bool := h.isRegistered s.id || s.holds != 0

/-- The next step of the writer of a session; none if it has to wait or has stopped. -/
def writerStep (h : Hub) (id : SessionId) : Option Hub := do
  let s ← h.session? id
  match s.writer with
  | .leaving ending =>
      match h.remove id with
      | (some remaining, h) =>
          some (h.update id fun s => { s with writer := .telling ending remaining })
      | (none, h) => some (h.update id fun s => { s with writer := .finishing ending })
  | .telling ending remaining =>
      some ((h.count (.disconnected remaining)).update id fun s =>
        { s with writer := .finishing ending })
  | .writing _ =>
      let next ← s.writerStep (h.canStillCome s)
      let h := h.update id fun _ => next
      if next.writer = .closingQueue .failed then some (h.count .writeFailed) else some h
  | _ =>
      let next ← s.writerStep (h.canStillCome s)
      some (h.update id fun _ => next)

end Hub

end BoxOffice

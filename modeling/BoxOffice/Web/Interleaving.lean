import BoxOffice.Hub.Foyer
import BoxOffice.Web.Socket

/-! # Overlapping handlers

Every socket has a handler of its own, and all of them use one hub. A handler enters the hub by a
bounded connect, reads its socket while its session is not closed, passes one text after another to
the hub and waits for each to be answered, and at last leaves by a disconnect. Its calls overlap
with those of other handlers and with whatever else is done to the hub, and to begin a call it may
have to wait for the registry.
-/

namespace BoxOffice.Web

/-- Where a handler stands. A call is known by its place among the calls of the hub. -/
inductive Handler where
  /-- It waits for its connect. -/
  | entering
  /-- It waits for an arrival, or for its session to be closed. -/
  | reading (id : SessionId)
  /-- It has read a text and is to pass it to the hub. -/
  | posting (id : SessionId) (message : Text)
  /-- It waits for a text that it has passed to the hub to be answered. -/
  | passing (id : SessionId) (call : Nat)
  /-- It reads no more and is to disconnect. -/
  | going (id : SessionId)
  /-- It waits for its disconnect. -/
  | leaving (id : SessionId) (call : Nat)
  | finished
  deriving Repr, DecidableEq

/-- A socket that was granted a handler. -/
structure Socket where
  /-- The place of its connect among the calls of the hub. -/
  entry : Nat
  handler : Handler
  /-- What has arrived and is not read yet, oldest first. -/
  arrivals : List Arrival
  /-- What the handler has read, oldest first. -/
  read : List Arrival
  deriving Repr, DecidableEq

namespace Socket

/-- What a handler does next: the call that it begins, if it begins one, and its
    socket afterwards. -/
def turn? (foyer : Hub.Foyer) (s : Socket) : Option (Option Hub.Command × Socket) :=
  match s.handler with
  | .entering =>
      match foyer.errands[s.entry]? with
      | some (.connected id true) => some (none, { s with handler := .reading id })
      | some (.connected _ false) => some (none, { s with handler := .finished })
      | _ => none
  | .reading id =>
      match s.arrivals with
      | [] => none
      | arrival :: arrivals =>
          let s := { s with arrivals, read := s.read ++ [arrival] }
          match arrival with
          | .text message => some (none, { s with handler := .posting id message })
          | arrival =>
              some (none, if arrival.keepsReading then s else { s with handler := .going id })
  | .posting id message =>
      some (some (.inbound id message), { s with handler := .passing id foyer.errands.length })
  | .passing id call =>
      match foyer.errands[call]? with
      | some (.inbound _ _ service) =>
          match service.result? id with
          | some (.ok _) => some (none, { s with handler := .reading id })
          | some (.error _) => some (none, { s with handler := .going id })
          | none => none
      | _ => none
  | .going id =>
      some (some (.disconnect id), { s with handler := .leaving id foyer.errands.length })
  | .leaving _ call =>
      match foyer.errands[call]? with
      | some (.disconnected ..) => some (none, { s with handler := .finished })
      | _ => none
  | .finished => none

def notice? (foyer : Hub.Foyer) (s : Socket) : Option Socket :=
  match s.handler with
  | .reading id =>
      if (foyer.hub.session? id).any (·.stage = .closed)
        then some { s with handler := .going id } else none
  | _ => none

end Socket

/-- The sockets in the order in which they were opened, around one hub and its calls. -/
structure Traffic where
  foyer : Hub.Foyer
  sockets : List Socket

namespace Traffic

inductive Event where
  /-- A socket is opened, and its handler begins to enter the hub. -/
  | openSocket (sink : Session.Sink)
  /-- Something arrives on a socket. -/
  | arrive (socket : Nat) (arrival : Arrival)
  /-- A handler reads the next arrival, begins a call, or goes on after a call that has returned. -/
  | handle (socket : Nat)
  /-- A handler that is reading notices that its session is closed. -/
  | notice (socket : Nat)
  /-- A call is made that is no handler's. Only handlers connect and pass messages on. -/
  | call (command : Hub.Command)
  /-- A call makes its next step. -/
  | proceed (call : Nat)
  /-- The frame of a call sets out on its round, in some order. -/
  | setOut (call : Nat) (order : List SessionId)
  /-- The writer of a session makes its next step. -/
  | write (session : SessionId)
  /-- The transport of a session changes. -/
  | transport (session : SessionId) (sink : Session.Sink)
  deriving Repr, DecidableEq

def idle (programme : Programme) (limit : Option Nat) : Traffic := ⟨.idle programme limit, []⟩

/-- Let the hub have an event of its own. -/
def ofHub? (t : Traffic) (e : Hub.Foyer.Event) : Option Traffic :=
  (t.foyer.step? e).map fun foyer => { t with foyer }

/-- The traffic after an event; none if the event cannot happen. -/
def step? (t : Traffic) : Event → Option Traffic
  | .openSocket sink => do
      let foyer ← t.foyer.step? (.begin (.connect sink true))
      some ⟨foyer, t.sockets ++ [⟨t.foyer.errands.length, .entering, [], []⟩]⟩
  | .arrive n arrival => do
      let s ← t.sockets[n]?
      some { t with sockets := t.sockets.set n { s with arrivals := s.arrivals ++ [arrival] } }
  | .handle n => do
      let s ← t.sockets[n]?
      let (begins, s) ← s.turn? t.foyer
      let foyer ← match begins with
        | some command => t.foyer.step? (.begin command)
        | none => some t.foyer
      some ⟨foyer, t.sockets.set n s⟩
  | .notice n => do
      let s ← t.sockets[n]?
      let s ← s.notice? t.foyer
      some { t with sockets := t.sockets.set n s }
  | .call (.connect ..) | .call (.inbound ..) => none
  | .call command => t.ofHub? (.begin command)
  | .proceed call => t.ofHub? (.proceed call)
  | .setOut call order => t.ofHub? (.setOut call order)
  | .write id => t.ofHub? (.write id)
  | .transport id sink => t.ofHub? (.transport id sink)

def run? (t : Traffic) : List Event → Option Traffic
  | [] => some t
  | e :: rest => (t.step? e).bind fun t => t.run? rest

end Traffic

end BoxOffice.Web

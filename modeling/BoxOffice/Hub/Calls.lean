import BoxOffice.Hub.Basic

/-! # Calls of the hub

Each call of the hub from its first atomic step to its last, with no other call in between, and the
writers at work until none of them can move.
-/

namespace BoxOffice.Hub

/-- What a caller can ask of a hub. -/
inductive Command where
  | connect (sink : Session.Sink) (bounded : Bool)
  | inbound (session : SessionId) (message : Text)
  | broadcast (frame : Text)
  | disconnect (session : SessionId)
  | closeAll
  deriving Repr, DecidableEq

inductive Return where
  | connected (id : SessionId)
  /-- The limit was reached; the session that was dropped. -/
  | refused (dropped : Session)
  | answered (result : Except Error Reply)
  | recipients (count : Nat)
  | removed (wasRegistered : Bool)
  | removedAll (ids : List SessionId)
  deriving Repr

/-- Connect a session. A bounded connect is refused once the limit is reached; it uses up a number
    nevertheless, and the session it drops is handed back as it was. -/
def connect (h : Hub) (sink : Session.Sink) (bounded : Bool) : Except Session SessionId × Hub :=
  let greeting := h.greeting
  let (id, h) := h.allocate sink
  let (enrolled, h) := h.enroll id bounded
  (if enrolled then .ok id else .error (.connecting id sink greeting), h)

/-- What follows in an inbound call once the sender is looked up. The answer is queued first, the
    announcement after it. A sender that cannot be answered takes nothing back. -/
def answer (h : Hub) (id : SessionId) (message : Text) : Except Error Reply × Hub :=
  let (reply, h) := h.dispatch message
  let (delivered, h) := h.offer id reply.text
  let h := if reply.announce then (h.fanOut h.announcement).2 else h
  (if delivered then .ok reply else .error (.closed id), h.letGo id)

def inbound (h : Hub) (id : SessionId) (message : Text) : Except Error Reply × Hub :=
  match h.lookUp id with
  | none => (.error (.notRegistered id), h)
  | some h => h.answer id message

/-- Queue a frame to every registered session; how many took it. -/
def broadcast (h : Hub) (frame : Text) : Nat × Hub :=
  let (recipients, h) := h.fanOut frame
  (recipients.length, h)

/-- Remove a session. What is queued is still written. -/
def disconnect (h : Hub) (id : SessionId) : Bool × Hub :=
  match h.remove id with
  | (some remaining, h) => (true, h.count (.disconnected remaining))
  | (none, h) => (false, h)

def closeAll (h : Hub) : List SessionId × Hub :=
  let (ids, h) := h.drain
  (ids, ids.foldl (fun h _ => h.count (.disconnected 0)) h)

def call (h : Hub) : Command → Return × Hub
  | .connect sink bounded =>
      match h.connect sink bounded with
      | (.ok id, h) => (.connected id, h)
      | (.error dropped, h) => (.refused dropped, h)
  | .inbound id message =>
      let (result, h) := h.inbound id message
      (.answered result, h)
  | .broadcast frame =>
      let (count, h) := h.broadcast frame
      (.recipients count, h)
  | .disconnect id =>
      let (wasRegistered, h) := h.disconnect id
      (.removed wasRegistered, h)
  | .closeAll =>
      let (ids, h) := h.closeAll
      (.removedAll ids, h)

/-- Let one writer work for at most so many steps. -/
def runWriter (h : Hub) (id : SessionId) : Nat → Hub
  | 0 => h
  | steps + 1 =>
      match h.writerStep id with
      | some h => h.runWriter id steps
      | none => h

/-- Let the writers work until none of them can move. A writer takes at most two steps for each
    frame in its queue, one for the frame it holds, and five from there to its end. -/
def settle (h : Hub) : Hub :=
  h.sessions.foldl (fun h s => h.runWriter s.id (2 * s.queue.length + 6)) h

end BoxOffice.Hub

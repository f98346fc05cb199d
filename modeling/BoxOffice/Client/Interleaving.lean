import BoxOffice.Client.Calls

/-! # Overlapping calls of a client

Callers share one client, and the listeners of its connections run beside them. The writer slot is
under a lock: a connect holds it from before it looks at the flag until its listener is adopted, a
send while it writes, and a disconnect for the one step in which it empties the slot. The flag and
the listener slot are under no lock that outlasts a step. So a listener of an earlier connection, or
a disconnect that is not over yet, may have its next step after a later connect has returned. A
connect or a send that is left alone ends as the call in one go (`finish_connect`, `finish_send`).
-/

namespace BoxOffice.Client

inductive Command where
  /-- Connect to an address; `dial` is what dialling it is going to come to. -/
  | connect (address : Config.Client) (dial : Dial)
  | send (frame : Text)
  | disconnect
  deriving Repr, DecidableEq

/-- How far a connect has come. -/
inductive Connecting where
  /-- It waits for the lock. -/
  | waiting
  /-- It is to look at the flag. -/
  | checking
  /-- It is to dial, and to put the writing end into its slot if it is accepted. -/
  | dialling
  /-- It is to raise the flag. -/
  | raising (n : ConnectionId)
  /-- It is to start the listener. -/
  | starting (n : ConnectionId)
  /-- It is to put the listener into its slot, and to free the lock. -/
  | adopting (n : ConnectionId)
  | connected (n : ConnectionId)
  | failed (error : Error)
  deriving Repr, DecidableEq

/-- How far a send has come. -/
inductive Sending where
  /-- It waits for the lock. -/
  | waiting
  /-- It is to send the frame on the connection in the slot, if there is one. -/
  | transmitting
  /-- The frame did not go out, and the flag is to be lowered. -/
  | lowering
  | sent (n : ConnectionId)
  | failed (error : Error)
  deriving Repr, DecidableEq

/-- How far a disconnect has come. -/
inductive Disconnecting where
  /-- It waits for the lock, to empty the writer slot. -/
  | waiting
  /-- It is to lower the flag. -/
  | lowering (writer : Option ConnectionId)
  /-- It is to close the connection it has found. -/
  | closing (n : ConnectionId)
  /-- It is to empty the listener slot. -/
  | taking
  /-- It waits for a listener to end, or for its patience to. -/
  | awaiting (n : ConnectionId)
  | returned
  deriving Repr, DecidableEq

/-- A call of a client by how far it has come. -/
inductive Call where
  | connect (address : Config.Client) (dial : Dial) (progress : Connecting)
  | send (frame : Text) (progress : Sending)
  | disconnect (progress : Disconnecting)
  deriving Repr, DecidableEq

/-- Whether the listener of a connection has ended. -/
def listenerEnded (c : Client) (n : ConnectionId) : Bool :=
  (c.connections[n]?).any fun connection =>
    connection.listener = .stopped || connection.listener = .aborted

namespace Connecting

def step? (c : Client) (lockIsFree : Bool) (dial : Dial) : Connecting → Option (Connecting × Client)
  | .waiting => if lockIsFree then some (.checking, c) else none
  | .checking =>
      some (if c.isConnected then .failed .alreadyConnected else .dialling, c)
  | .dialling =>
      match dial with
      | .failed cause => some (.failed (.transport cause), c)
      | .accepted =>
          let (n, c) := c.attach
          some (.raising n, c)
  | .raising n => some (.starting n, c.setFlag true)
  | .starting n => some (.adopting n, c.startListener n)
  | .adopting n => some (.connected n, c.adopt n)
  | .connected _ | .failed _ => none

def holdsLock : Connecting → Bool
  | .checking | .dialling | .raising _ | .starting _ | .adopting _ => true
  | .waiting | .connected _ | .failed _ => false

/-- What a connect has returned; none while it is in progress. -/
def result? : Connecting → Option (Except Error ConnectionId)
  | .connected n => some (.ok n)
  | .failed error => some (.error error)
  | _ => none

end Connecting

namespace Sending

def step? (c : Client) (lockIsFree : Bool) (frame : Text) : Sending → Option (Sending × Client)
  | .waiting => if lockIsFree then some (.transmitting, c) else none
  | .transmitting =>
      match c.writer with
      | none => some (.failed .notConnected, c)
      | some n =>
          match c.transmit n frame with
          | (true, c) => some (.sent n, c)
          | (false, c) => some (.lowering, c)
  | .lowering => some (.failed sendFailed, c.setFlag false)
  | .sent _ | .failed _ => none

def holdsLock : Sending → Bool
  | .transmitting | .lowering => true
  | .waiting | .sent _ | .failed _ => false

def result? : Sending → Option (Except Error ConnectionId)
  | .sent n => some (.ok n)
  | .failed error => some (.error error)
  | _ => none

end Sending

namespace Disconnecting

def step? (c : Client) (lockIsFree : Bool) : Disconnecting → Option (Disconnecting × Client)
  | .waiting =>
      if lockIsFree then
        let (writer, c) := c.takeWriter
        some (.lowering writer, c)
      else none
  | .lowering writer => some (writer.elim .taking .closing, c.setFlag false)
  | .closing n => some (.taking, c.close n)
  | .taking =>
      let (listener, c) := c.takeListener
      some (listener.elim .returned .awaiting, c)
  | .awaiting n => if c.listenerEnded n then some (.returned, c) else none
  | .returned => none

/-- Tell the listener that is waited for to break off, and wait no longer. -/
def giveUp? (c : Client) : Disconnecting → Option (Disconnecting × Client)
  | .awaiting n => some (.returned, c.askAbort n)
  | _ => none

end Disconnecting

namespace Call

def begin (c : Client) : Command → Call
  | .connect address dial =>
      .connect address dial
        (if canDial address then .waiting else .failed (.invalidAddress address.address))
  | .send frame => .send frame (if c.isConnected then .waiting else .failed .notConnected)
  | .disconnect => .disconnect .waiting

def step? (c : Client) (lockIsFree : Bool) : Call → Option (Call × Client)
  | .connect address dial progress =>
      (progress.step? c lockIsFree dial).map fun (progress, c) =>
        (.connect address dial progress, c)
  | .send frame progress =>
      (progress.step? c lockIsFree frame).map fun (progress, c) => (.send frame progress, c)
  | .disconnect progress =>
      (progress.step? c lockIsFree).map fun (progress, c) => (.disconnect progress, c)

/-- Wait no longer for a listener; none if the call does not wait for one. -/
def giveUp? (c : Client) : Call → Option (Call × Client)
  | .disconnect progress =>
      (progress.giveUp? c).map fun (progress, c) => (.disconnect progress, c)
  | .connect .. | .send .. => none

def holdsLock : Call → Bool
  | .connect _ _ progress => progress.holdsLock
  | .send _ progress => progress.holdsLock
  | .disconnect _ => false

def isOver : Call → Bool
  | .connect _ _ progress => progress.result?.isSome
  | .send _ progress => progress.result?.isSome
  | .disconnect progress => progress = .returned

/-- The next steps of a call, so many at most, with nothing in between. -/
def steps (c : Client) (call : Call) : Nat → Call × Client
  | 0 => (call, c)
  | n + 1 =>
      match call.step? c true with
      | some (call, c) => steps c call n
      | none => (call, c)

/-- A connect that is left alone takes six steps at most, and ends as the connect in one go. -/
theorem finish_connect (c : Client) (address : Config.Client) (dial : Dial) :
    ∃ progress, (begin c (.connect address dial)).steps c 6 =
        (.connect address dial progress, (c.connect address dial).2) ∧
      progress.result? = some (c.connect address dial).1 := by
  unfold begin Client.connect
  cases dialled : canDial address with
  | false => simp [dialled, steps, step?, Connecting.step?, Connecting.result?]
  | true =>
      cases connected : c.isConnected with
      | true => simp [dialled, connected, steps, step?, Connecting.step?, Connecting.result?]
      | false =>
          cases dial <;>
            simp [dialled, connected, steps, step?, Connecting.step?, Connecting.result?]

/-- A send that is left alone takes three steps at most, and ends as the send in one go. -/
theorem finish_send (c : Client) (frame : Text) :
    ∃ progress, (begin c (.send frame)).steps c 3 = (.send frame progress, (c.send frame).2) ∧
      progress.result? = some (c.send frame).1 := by
  unfold begin Client.send
  cases c.isConnected with
  | false => simp [steps, step?, Sending.step?, Sending.result?]
  | true =>
      cases found : c.writer with
      | none => simp [steps, step?, Sending.step?, Sending.result?, found]
      | some n =>
          rcases transmitted : c.transmit n frame with ⟨sent, c'⟩
          cases sent <;> simp [steps, step?, Sending.step?, Sending.result?, found, transmitted]

end Call

/-- A client and every call made to it, in the order in which they began. -/
structure Traffic where
  client : Client
  calls : List Call
  deriving Repr, DecidableEq

inductive Event where
  /-- A call begins. -/
  | begin (command : Command)
  /-- A call, known by its place among the calls, makes its next step. -/
  | proceed (call : Nat)
  /-- A disconnect waits no longer for a listener. -/
  | giveUp (call : Nat)
  /-- Something arrives on a connection. -/
  | arrive (n : ConnectionId) (arrival : Arrival)
  /-- The listener of a connection makes its next step. -/
  | listen (n : ConnectionId)
  /-- The listener of a connection breaks off, as it was told to. -/
  | abort (n : ConnectionId)
  deriving Repr, DecidableEq

namespace Traffic

def idle : Traffic := ⟨.fresh, []⟩

def lockIsFree (t : Traffic) : Bool := t.calls.all fun call => !call.holdsLock

/-- The traffic after an event; none if the event cannot happen. -/
def step? (t : Traffic) : Event → Option Traffic
  | .begin command => some { t with calls := t.calls ++ [.begin t.client command] }
  | .proceed k => do
      let call ← t.calls[k]?
      let (call, client) ← call.step? t.client t.lockIsFree
      some ⟨client, t.calls.set k call⟩
  | .giveUp k => do
      let call ← t.calls[k]?
      let (call, client) ← call.giveUp? t.client
      some ⟨client, t.calls.set k call⟩
  | .arrive n arrival => some { t with client := t.client.arrive n arrival }
  | .listen n => (t.client.listenerStep n).map fun client => { t with client }
  | .abort n => (t.client.abortListener n).map fun client => { t with client }

def run? (t : Traffic) : List Event → Option Traffic
  | [] => some t
  | e :: rest => (t.step? e).bind fun t => t.run? rest

def isQuiet (t : Traffic) : Bool := t.calls.all (·.isOver)

end Traffic

end BoxOffice.Client

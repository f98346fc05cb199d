import BoxOffice.Hub.Calls

/-! # Overlapping calls of a hub

Many callers use one hub at the same time. A call goes through the atomic steps of the hub one by
one, and between two of its steps other calls, the writers and the transports have theirs. A traffic
is a hub together with every call made to it, each by how far it has come; an event says whose turn
it is. A call that is left alone comes to the same end as the call of that name in one go
(`finish_begin`).
-/

namespace BoxOffice.Hub

/-- What came of a message that was answered. -/
structure Delivery where
  reply : Reply
  /-- Whether the sender's queue took the answer. -/
  delivered : Bool
  /-- The announcement and the sessions whose queues took it, if there was one. -/
  announcement : Option (Text × List SessionId)
  deriving Repr, DecidableEq

/-- How far an inbound call has come. -/
inductive Inbound where
  /-- The sender is not registered; the call has returned. -/
  | unknownSender
  /-- The sender is looked up, and the message is to be dispatched. -/
  | lookedUp
  /-- The answer is to be offered to the sender. -/
  | dispatched (reply : Reply)
  /-- The answer was offered, and the announcement is to be rendered. -/
  | offered (reply : Reply) (delivered : Bool)
  /-- The announcement is to be offered to everyone. -/
  | rendered (reply : Reply) (delivered : Bool) (frame : Text)
  /-- The sender's queue is to be let go. -/
  | served (delivery : Delivery)
  /-- The call has returned. -/
  | returned (delivery : Delivery)
  deriving Repr, DecidableEq

namespace Inbound

/-- The next step of an inbound call; none if it has returned. -/
def step? (h : Hub) (sender : SessionId) (message : Text) : Inbound → Option (Inbound × Hub)
  | .lookedUp =>
      let (reply, h) := h.dispatch message
      some (.dispatched reply, h)
  | .dispatched reply =>
      let (delivered, h) := h.offer sender reply.text
      if reply.announce then some (.offered reply delivered, h)
      else some (.served ⟨reply, delivered, none⟩, h)
  | .offered reply delivered => some (.rendered reply delivered h.announcement, h)
  | .rendered reply delivered frame =>
      let (recipients, h) := h.fanOut frame
      some (.served ⟨reply, delivered, some (frame, recipients)⟩, h)
  | .served delivery => some (.returned delivery, h.letGo sender)
  | .unknownSender | .returned _ => none

/-- A bound on the steps an inbound call has still to make. -/
def stepsLeft : Inbound → Nat
  | .lookedUp => 5
  | .dispatched _ => 4
  | .offered .. => 3
  | .rendered .. => 2
  | .served _ => 1
  | .unknownSender | .returned _ => 0

end Inbound

/-- A call of a hub by how far it has come. A call that has returned keeps what it came to. -/
inductive Call where
  /-- A session has its number and its greeting and is to be registered. -/
  | connecting (id : SessionId) (bounded : Bool)
  /-- The connect has returned, and whether the session was registered. -/
  | connected (id : SessionId) (enrolled : Bool)
  | inbound (sender : SessionId) (message : Text) (progress : Inbound)
  /-- A frame was offered to everyone; the sessions whose queues took it. -/
  | broadcast (frame : Text) (recipients : List SessionId)
  /-- A session is removed; how many remained is to be counted. -/
  | disconnecting (id : SessionId) (remaining : Nat)
  /-- The disconnect has returned, and whether the session was registered. -/
  | disconnected (id : SessionId) (wasRegistered : Bool)
  /-- Every session is removed; so many of them are to be counted out. -/
  | closingAll (ids : List SessionId) (uncounted : Nat)
  deriving Repr, DecidableEq

namespace Call

def begin (h : Hub) : Command → Call × Hub
  | .connect sink bounded =>
      let (id, h) := h.allocate sink
      (.connecting id bounded, h)
  | .inbound sender message =>
      match h.lookUp sender with
      | none => (.inbound sender message .unknownSender, h)
      | some h => (.inbound sender message .lookedUp, h)
  | .broadcast frame =>
      let (recipients, h) := h.fanOut frame
      (.broadcast frame recipients, h)
  | .disconnect id =>
      match h.remove id with
      | (some remaining, h) => (.disconnecting id remaining, h)
      | (none, h) => (.disconnected id false, h)
  | .closeAll =>
      let (ids, h) := h.drain
      (.closingAll ids ids.length, h)

def step? (h : Hub) : Call → Option (Call × Hub)
  | .connecting id bounded =>
      let (enrolled, h) := h.enroll id bounded
      some (.connected id enrolled, h)
  | .inbound sender message progress =>
      (progress.step? h sender message).map fun (progress, h) =>
        (.inbound sender message progress, h)
  | .disconnecting id remaining => some (.disconnected id true, h.count (.disconnected remaining))
  | .closingAll ids (uncounted + 1) =>
      some (.closingAll ids uncounted, h.count (.disconnected 0))
  | .connected .. | .broadcast .. | .disconnected .. | .closingAll _ 0 => none

/-- A bound on the steps a call has still to make. -/
def stepsLeft : Call → Nat
  | .connecting .. | .disconnecting .. => 1
  | .inbound _ _ progress => progress.stepsLeft
  | .closingAll _ uncounted => uncounted
  | .connected .. | .broadcast .. | .disconnected .. => 0

def isOver (c : Call) : Bool := c.stepsLeft == 0

/-- The next steps of a call, so many at most, with nothing in between. -/
def steps (h : Hub) (c : Call) : Nat → Call × Hub
  | 0 => (c, h)
  | n + 1 =>
      match c.step? h with
      | some (c, h) => steps h c n
      | none => (c, h)

def finish (h : Hub) (c : Call) : Call × Hub := c.steps h c.stepsLeft

theorem finish_lookedUp (h : Hub) (sender : SessionId) (message : Text) :
    ((Call.inbound sender message .lookedUp).finish h).2 = (h.answer sender message).2 := by
  cases announced : (h.dispatch message).1.announce <;>
    simp [finish, stepsLeft, Inbound.stepsLeft, steps, step?, Inbound.step?, answer, announced]

theorem finish_closingAll (h : Hub) (ids uncounted : List SessionId) :
    ((Call.closingAll ids uncounted.length).finish h).2 =
      uncounted.foldl (fun h _ => h.count (.disconnected 0)) h := by
  induction uncounted generalizing h with
  | nil => rfl
  | cons _ _ ih => exact ih _

/-- A call that is left alone changes the hub as the call in one go does. -/
theorem finish_begin (h : Hub) (command : Command) :
    ((begin h command).1.finish (begin h command).2).2 = (h.call command).2 := by
  cases command with
  | connect sink bounded =>
      simp only [begin, finish, stepsLeft, steps, step?, Hub.call, Hub.connect]
      split <;> simp_all
  | inbound sender message =>
      simp only [begin, Hub.call, Hub.inbound]
      cases h.lookUp sender with
      | none => rfl
      | some h => exact finish_lookedUp h sender message
  | broadcast frame => rfl
  | disconnect id =>
      simp only [begin, Hub.call, Hub.disconnect]
      split <;> simp_all [finish, stepsLeft, steps, step?]
  | closeAll => exact finish_closingAll _ _ _

end Call

/-- A hub and every call made to it, in the order in which they began. -/
structure Traffic where
  hub : Hub
  calls : List Call
  deriving Repr, DecidableEq

inductive Event where
  /-- A call begins. -/
  | begin (command : Command)
  /-- A call, known by its place among the calls, makes its next step. -/
  | proceed (call : Nat)
  /-- The writer of a session makes its next step. -/
  | write (session : SessionId)
  /-- The transport of a session changes. -/
  | transport (session : SessionId) (sink : Session.Sink)
  deriving Repr, DecidableEq

namespace Traffic

def idle (programme : Programme) (limit : Option Nat) : Traffic := ⟨.idle programme limit, []⟩

/-- The traffic after an event; none if the event cannot happen. -/
def step? (t : Traffic) : Event → Option Traffic
  | .begin command =>
      let (call, hub) := Call.begin t.hub command
      some ⟨hub, t.calls ++ [call]⟩
  | .proceed n => do
      let call ← t.calls[n]?
      let (call, hub) ← call.step? t.hub
      some ⟨hub, t.calls.set n call⟩
  | .write id => (t.hub.writerStep id).map fun hub => { t with hub }
  | .transport id sink => some { t with hub := t.hub.update id (·.withSink fun _ => sink) }

def run? (t : Traffic) : List Event → Option Traffic
  | [] => some t
  | e :: rest => (t.step? e).bind fun t => t.run? rest

def isQuiet (t : Traffic) : Bool := t.calls.all (·.isOver)

end Traffic

end BoxOffice.Hub

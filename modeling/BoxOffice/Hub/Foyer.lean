import BoxOffice.Hub.Interleaving
import BoxOffice.Programme.Interleaving

/-! # The foyer

Overlapping calls of a hub, as closely as its locks let them mix. One lock guards the registry:
whoever changes the registry has it alone, and those who only look at it share it. A connect starts
the writer of its session before it registers the session, and keeps the lock in between. A
greeting, an answer and an announcement each look at the seat plans one after another. A frame for
everyone goes on a round: it is offered to one session after another, in any order, and the round
keeps its share of the lock until everyone is reached. Queues are closed without the lock, so a
queue can close while a round is on its way.

An errand is a call by how far it has come.
-/

namespace BoxOffice

namespace Programme

/-- Do what a message asks for, and nothing more: what came of the booking, if it is one. -/
def decide (p : Programme) (message : Text) : Option (Except Refusal Request) × Programme :=
  if snapshotCommands.contains message then (none, p)
  else if message.contains ',' then
    let (result, p) := p.book message
    (some result, p)
  else (none, p)

end Programme

namespace Reply

/-- The answer to a message, given what came of it and the programme as it was seen afterwards. -/
def compose (message : Text) (result : Option (Except Refusal Request)) (seen : Programme) :
    Reply :=
  match result with
  | some result => .ofBooking result seen
  | none =>
      if snapshotCommands.contains message then ⟨Snapshot.render .initial seen, false⟩
      else .echo message seen

theorem compose_decide (p : Programme) (message : Text) :
    (compose message (p.decide message).1 (p.decide message).2, (p.decide message).2) =
      p.route message := by
  unfold Programme.decide Programme.route Programme.process
  by_cases command : snapshotCommands.contains message
  · simp only [command, if_true, compose]
  · by_cases comma : message.contains ','
    · simp only [command, comma, if_true, if_false, Bool.false_eq_true, compose]
    · simp only [command, comma, if_false, Bool.false_eq_true, compose]

end Reply

/-- A look at all seat plans, one after another: the programme as it was seen so far, and the
    positions of the shows still to be looked at. -/
structure Survey where
  seen : Programme
  unseen : List Nat
  deriving Repr, DecidableEq

namespace Survey

/-- Every show is seen as it is now, and is looked at once more in its turn. -/
def begin (p : Programme) : Survey := ⟨p, p.positions⟩

/-- Look at one more show; none if every show was looked at. -/
def next? (now : Programme) : Survey → Option Survey
  | ⟨_, []⟩ => none
  | ⟨seen, position :: unseen⟩ => some ⟨seen.lookAt now position, unseen⟩

end Survey

/-- A session that has its number and nothing else: no greeting, and no writer at work. -/
def Session.blank (id : SessionId) (sink : Session.Sink) : Session :=
  { id, sink, stage := .connecting, isOpen := true, queue := [], accepted := [], written := [],
    writer := .unstarted, holds := 0 }

namespace Hub

/-! ## Steps that are finer -/

/-- Give a number to a new session whose greeting is still to be written. -/
def assign (h : Hub) (sink : Session.Sink) : Hub :=
  { h with sessions := h.sessions ++ [.blank h.nextId sink], nextId := h.nextId + 1 }

/-- Start the writer of a session that is about to be registered, and keep its queue from ending. -/
def activate (h : Hub) (id : SessionId) : Hub := h.update id fun s => s.activate.hold

/-- Put a session into the registry, and let its queue end from now on. -/
def enter (h : Hub) (id : SessionId) : Hub :=
  let registry := h.registry.insert id
  ({ h.update id .release with registry }).count (.connected registry.length)

/-- Drop a session that is not admitted; its number is used up. -/
def dismiss (h : Hub) (id : SessionId) : Hub :=
  { h with sessions := h.sessions.filter fun s => s.id ≠ id }

/-- Count a message, and a booking if the answer begins like that of one. -/
def countAnswer (h : Hub) (reply : Reply) : Hub :=
  match Reply.bookingResult? reply.text with
  | some granted => (h.count (.dispatched none)).count (.decided granted)
  | none => h.count (.dispatched none)

/-- Whether the next step of the writer of a session changes the registry. -/
def isLeaving (h : Hub) (id : SessionId) : Bool :=
  (h.session? id).any fun s => match s.writer with
    | .leaving _ => true
    | _ => false

theorem enroll_eq (h : Hub) (id : SessionId) (bounded : Bool) :
    h.enroll id bounded =
      if bounded && h.isFull then (false, h.dismiss id) else (true, (h.activate id).enter id) := by
  unfold enroll
  split
  · rfl
  · have twice :
        ((h.activate id).update id .release).sessions = (h.update id .activate).sessions := by
      simp only [activate, update, List.map_map]
      congr 1
      funext s
      by_cases own : s.id = id <;>
        simp [own, Session.hold, Session.release, Session.activate]
    simp only [enter, twice]
    rfl

theorem dispatch_eq (h : Hub) (message : Text) :
    h.dispatch message =
      ((h.programme.route message).1,
        { h with programme := (h.programme.route message).2 }.countAnswer
          (h.programme.route message).1) := rfl

/-- A frame on its way to everyone: the sessions still to be reached, and those whose
    queues took it. -/
structure Round where
  frame : Text
  ahead : List SessionId
  reached : List SessionId
  deriving Repr, DecidableEq

def Round.next? (h : Hub) : Round → Option (Round × Hub)
  | ⟨_, [], _⟩ => none
  | ⟨frame, id :: ahead, reached⟩ =>
      let (taken, h) := h.offer id frame
      some (⟨frame, ahead, if taken then reached ++ [id] else reached⟩, h)

/-! ## Errands -/

/-- How far an inbound call has come. -/
inductive Service where
  /-- The sender is not registered; the call has returned. -/
  | unknownSender
  /-- The sender is looked up, and what the message asks for is to be done. -/
  | lookedUp
  /-- It is done, and the answer is being written. -/
  | answering (result : Option (Except Refusal Request)) (survey : Survey)
  /-- The answer is to be offered to the sender. -/
  | answered (reply : Reply)
  /-- The answer was offered, and the announcement is being written. -/
  | announcing (reply : Reply) (delivered : Bool) (survey : Survey)
  /-- The announcement is on its round. -/
  | onRound (reply : Reply) (delivered : Bool) (round : Round)
  /-- The sender's queue is to be let go. -/
  | served (delivery : Delivery)
  /-- The call has returned. -/
  | returned (delivery : Delivery)

/-- What an inbound call returned, once it has. -/
def Service.result? (sender : SessionId) : Service → Option (Except Error Reply)
  | .unknownSender => some (.error (.notRegistered sender))
  | .returned delivery =>
      some (if delivery.delivered then .ok delivery.reply else .error (.closed sender))
  | .lookedUp | .answering .. | .answered _ | .announcing .. | .onRound .. | .served _ => none

/-- A call by how far it has come. -/
inductive Errand where
  /-- A session has its number, and its greeting is being written. -/
  | greeting (id : SessionId) (bounded : Bool) (survey : Survey)
  /-- The greeting is queued, and the session is to be admitted. -/
  | connecting (id : SessionId) (bounded : Bool)
  /-- The writer of the session has started. The session is to be registered, and the
      registry is locked. -/
  | entering (id : SessionId)
  /-- The connect has returned, and whether the session was registered. -/
  | connected (id : SessionId) (enrolled : Bool)
  | inbound (sender : SessionId) (message : Text) (service : Service)
  /-- A frame is to go to everyone. -/
  | broadcasting (frame : Text)
  /-- The frame is on its round. -/
  | crying (round : Round)
  /-- The frame was offered to everyone; the sessions whose queues took it. -/
  | cried (frame : Text) (recipients : List SessionId)
  /-- A session is removed; how many remained is to be counted. -/
  | disconnecting (id : SessionId) (remaining : Nat)
  /-- The disconnect has returned, and whether the session was registered. -/
  | disconnected (id : SessionId) (wasRegistered : Bool)
  /-- Every session is removed; so many of them are to be counted out. -/
  | closingAll (ids : List SessionId) (uncounted : Nat)

/-- A hub and every call made to it, in the order in which they began. -/
structure Foyer where
  hub : Hub
  errands : List Errand

namespace Errand

def isEntering : Errand → Bool
  | .entering _ => true
  | _ => false

def isOnRound : Errand → Bool
  | .inbound _ _ (.onRound ..) | .crying _ => true
  | _ => false

end Errand

namespace Foyer

inductive Event where
  /-- A call begins. -/
  | begin (command : Command)
  /-- A call, known by its place among the calls, makes its next step. -/
  | proceed (call : Nat)
  /-- The frame of a call sets out on its round, in some order. -/
  | setOut (call : Nat) (order : List SessionId)
  /-- The writer of a session makes its next step. -/
  | write (session : SessionId)
  /-- The transport of a session changes. -/
  | transport (session : SessionId) (sink : Session.Sink)
  deriving Repr, DecidableEq

def idle (programme : Programme) (limit : Option Nat) : Foyer := ⟨.idle programme limit, []⟩

/-- Whether nobody is changing the registry. -/
def isReadable (f : Foyer) : Bool := f.errands.all (!·.isEntering)

/-- Whether nobody has the lock of the registry, alone or shared. -/
def isWritable (f : Foyer) : Bool := f.errands.all fun e => !e.isEntering && !e.isOnRound

/-- The first step of a call; none if it has to wait for the lock. -/
def begin? (f : Foyer) : Command → Option (Errand × Hub)
  | .connect sink bounded =>
      some (.greeting f.hub.nextId bounded (.begin f.hub.programme), f.hub.assign sink)
  | .inbound sender message =>
      if f.isReadable then
        match f.hub.lookUp sender with
        | none => some (.inbound sender message .unknownSender, f.hub)
        | some hub => some (.inbound sender message .lookedUp, hub)
      else none
  | .broadcast frame => some (.broadcasting frame, f.hub)
  | .disconnect id =>
      if f.isWritable then
        match f.hub.remove id with
        | (some remaining, hub) => some (.disconnecting id remaining, hub)
        | (none, hub) => some (.disconnected id false, hub)
      else none
  | .closeAll =>
      if f.isWritable then
        let (ids, hub) := f.hub.drain
        some (.closingAll ids ids.length, hub)
      else none

/-- The next step of an inbound call; none if it has returned or its announcement is to set out. -/
def serve? (h : Hub) (sender : SessionId) (message : Text) : Service → Option (Service × Hub)
  | .lookedUp =>
      let (result, programme) := h.programme.decide message
      some (.answering result (.begin programme), { h with programme })
  | .answering result survey =>
      match survey.next? h.programme with
      | some survey => some (.answering result survey, h)
      | none =>
          let reply := Reply.compose message result survey.seen
          some (.answered reply, h.countAnswer reply)
  | .answered reply =>
      let (delivered, h) := h.offer sender reply.text
      if reply.announce then some (.announcing reply delivered (.begin h.programme), h)
      else some (.served ⟨reply, delivered, none⟩, h)
  | .announcing reply delivered survey =>
      (survey.next? h.programme).map fun survey => (.announcing reply delivered survey, h)
  | .onRound reply delivered round =>
      match round.next? h with
      | some (round, h) => some (.onRound reply delivered round, h)
      | none => some (.served ⟨reply, delivered, some (round.frame, round.reached)⟩,
          h.count (.announced round.reached.length))
  | .served delivery => some (.returned delivery, h.letGo sender)
  | .unknownSender | .returned _ => none

/-- The next step of a call; none if it has returned, waits for the lock or its frame is to set
    out. -/
def proceed? (f : Foyer) : Errand → Option (Errand × Hub)
  | .greeting id bounded survey =>
      match survey.next? f.hub.programme with
      | some survey => some (.greeting id bounded survey, f.hub)
      | none =>
          some (.connecting id bounded, (f.hub.offer id (Snapshot.render .initial survey.seen)).2)
  | .connecting id bounded =>
      if f.isWritable then
        if bounded && f.hub.isFull then some (.connected id false, f.hub.dismiss id)
        else some (.entering id, f.hub.activate id)
      else none
  | .entering id => some (.connected id true, f.hub.enter id)
  | .inbound sender message service =>
      (serve? f.hub sender message service).map fun (service, hub) =>
        (.inbound sender message service, hub)
  | .crying round =>
      match round.next? f.hub with
      | some (round, hub) => some (.crying round, hub)
      | none =>
          some (.cried round.frame round.reached, f.hub.count (.announced round.reached.length))
  | .disconnecting id remaining =>
      some (.disconnected id true, f.hub.count (.disconnected remaining))
  | .closingAll ids (uncounted + 1) =>
      some (.closingAll ids uncounted, f.hub.count (.disconnected 0))
  | .connected .. | .broadcasting _ | .cried .. | .disconnected .. | .closingAll _ 0 => none

/-- The call whose frame is written, on its round in some order; none if no frame is to set out. -/
def setOut? (order : List SessionId) : Errand → Option Errand
  | .inbound sender message (.announcing reply delivered ⟨seen, []⟩) =>
      some (.inbound sender message
        (.onRound reply delivered ⟨Snapshot.render .update seen, order, []⟩))
  | .broadcasting frame => some (.crying ⟨frame, order, []⟩)
  | _ => none

/-- The foyer after an event; none if the event cannot happen. -/
def step? (f : Foyer) : Event → Option Foyer
  | .begin command => do
      let (errand, hub) ← f.begin? command
      some ⟨hub, f.errands ++ [errand]⟩
  | .proceed n => do
      let errand ← f.errands[n]?
      let (errand, hub) ← f.proceed? errand
      some ⟨hub, f.errands.set n errand⟩
  | .setOut n order =>
      if f.isReadable && order.isPerm f.hub.registry then do
        let errand ← f.errands[n]?
        let errand ← setOut? order errand
        some { f with errands := f.errands.set n errand }
      else none
  | .write id =>
      if f.isWritable || !f.hub.isLeaving id then do
        let hub ← f.hub.writerStep id
        some { f with hub }
      else none
  | .transport id sink => some { f with hub := f.hub.update id (·.withSink fun _ => sink) }

def run? (f : Foyer) : List Event → Option Foyer
  | [] => some f
  | e :: rest => (f.step? e).bind fun f => f.run? rest

end Foyer

end Hub

end BoxOffice

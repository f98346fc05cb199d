import BoxOffice.Hub.Calls

/-! # Scripts

A script drives a hub step by step. A message may have a script of its own that runs while its call
is between looking up the sender and being answered, so calls can overlap to any depth. After each
step the writers settle, unless the step says they lag behind; then a report tells what has changed
since the last one.
-/

namespace BoxOffice.Hub

/-- What a script can do to a hub, or ask of it, at one go. -/
inductive Act where
  /-- Make a call. -/
  | call (command : Command)
  /-- Hold up the writes of a session. -/
  | stall (session : SessionId)
  /-- Let the writes of a session go on. -/
  | resume (session : SessionId)
  /-- Make every write of a session fail from now on. -/
  | fail (session : SessionId)
  /-- Let the writer of a session take its next step, if it can. -/
  | write (session : SessionId)
  /-- Ask whether a session is closed. -/
  | isClosed (session : SessionId)
  | hasCapacity
  | health
  | greeting
  /-- Do nothing. -/
  | rest
  deriving Repr, DecidableEq

/-- One step of a script, and whether the writers settle after it. -/
inductive Step where
  | act (act : Act) (settles : Bool)
  /-- A message and the steps that come in between. -/
  | overlapped (session : SessionId) (message : Text) (during : List Step) (settles : Bool)
  deriving Repr

inductive Outcome where
  | returned (value : Return)
  | noSuchSession
  | closed (isClosed : Bool)
  | capacity (hasCapacity : Bool)
  | health (check : Health.Check)
  | greeting (frame : Text)
  | done
  deriving Repr

/-- What can be seen of a hub: the frames written since one last looked, by session, where there
    are any; the stage of each session; how many are registered; and the booked seats. -/
structure View where
  frames : List (SessionId × List Text)
  stages : List (SessionId × Session.Stage)
  registered : Nat
  booked : List (List SeatNumber)
  deriving Repr, DecidableEq

inductive Report where
  | act (outcome : Outcome) (view : View)
  /-- The reports of the steps in between are missing if the sender was not registered. -/
  | overlapped (result : Except Error Reply) (during : Option (List Report)) (view : View)
  deriving Repr

/-- A hub and how many frames of each session have been seen. -/
structure Watch where
  hub : Hub
  seen : List (SessionId × Nat)
  deriving Repr, DecidableEq

def Watch.look (w : Watch) : View × Watch :=
  let frames := w.hub.sessions.map fun s => (s.id, s.written.drop ((w.seen.lookup s.id).getD 0))
  ({ frames := frames.filter fun (_, frames) => !frames.isEmpty
     stages := w.hub.sessions.map fun s => (s.id, s.stage)
     registered := w.hub.registry.length
     booked := w.hub.programme.booked },
    { w with seen := w.hub.sessions.map fun s => (s.id, s.written.length) })

def changeSink (h : Hub) (id : SessionId) (change : Session.Sink → Session.Sink) : Outcome × Hub :=
  match h.session? id with
  | some _ => (.done, h.update id (·.withSink change))
  | none => (.noSuchSession, h)

def perform (h : Hub) : Act → Outcome × Hub
  | .call command =>
      let (value, h) := h.call command
      (.returned value, h)
  | .stall id => h.changeSink id fun sink => { sink with stalled := true }
  | .resume id => h.changeSink id fun sink => { sink with stalled := false }
  | .fail id => h.changeSink id fun sink => { sink with failed := true }
  | .write id => (.done, (h.writerStep id).getD h)
  | .isClosed id =>
      match h.session? id with
      | some s => (.closed (s.stage = .closed), h)
      | none => (.noSuchSession, h)
  | .hasCapacity => (.capacity h.hasCapacity, h)
  | .health => (.health h.health, h)
  | .greeting => (.greeting h.greeting, h)
  | .rest => (.done, h)

def settleIf (h : Hub) (settles : Bool) : Hub := if settles then h.settle else h

mutual

def Step.run (w : Watch) : Step → Report × Watch
  | .act a settles =>
      let (outcome, hub) := w.hub.perform a
      let (view, w) := { w with hub := hub.settleIf settles }.look
      (.act outcome view, w)
  | .overlapped id message during settles =>
      match w.hub.lookUp id with
      | none =>
          let (view, w) := { w with hub := w.hub.settleIf settles }.look
          (.overlapped (.error (.notRegistered id)) none view, w)
      | some hub =>
          let (reports, w) := Step.runAll { w with hub } during
          let (result, hub) := w.hub.answer id message
          let (view, w) := { w with hub := hub.settleIf settles }.look
          (.overlapped result (some reports) view, w)

def Step.runAll (w : Watch) : List Step → List Report × Watch
  | [] => ([], w)
  | step :: rest =>
      let (report, w) := step.run w
      let (reports, w) := Step.runAll w rest
      (report :: reports, w)

end

def runScript (h : Hub) (script : List Step) : List Report × Hub :=
  let (reports, w) := Step.runAll ⟨h, []⟩ script
  (reports, w.hub)

end BoxOffice.Hub

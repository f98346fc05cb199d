import BoxOffice.Text.Basic

/-! # Sessions

A session carries frames to one customer. Frames wait in its queue, and one writer takes them out
and writes them to the transport, one at a time. The writer stops for good when no one can offer
frames any more and all are written, or when a write fails; then what is left in the queue is lost.
-/

namespace BoxOffice

/-- Sessions are numbered from one. A number has 64 bits, so what is said of numbers holds of fewer
    than `2 ^ 64` sessions; up to there none is given twice. -/
abbrev SessionId := Nat

namespace Session

/-- The life of a session. -/
inductive Stage where
  /-- Accepted by the transport, not yet registered. -/
  | connecting
  /-- Registered; answers and updates reach it. -/
  | active
  /-- Its writer has stopped. -/
  | closed
  deriving Repr, DecidableEq

/-- Why a writer stops. -/
inductive Ending where
  /-- Everything is written and nothing more can come. -/
  | drained
  /-- A write failed. -/
  | failed
  deriving Repr, DecidableEq

/-- Where a writer stands. After its last write it closes the queue, leaves the registry, tells the
    tally if it was the one who removed the session, and closes the session. -/
inductive Writer where
  /-- Not yet at work. -/
  | unstarted
  /-- Ready for the next frame of the queue. -/
  | waiting
  /-- It has taken a frame out of the queue and is to write it. -/
  | writing (frame : Text)
  /-- It writes no more and is to close the queue. -/
  | closingQueue (ending : Ending)
  /-- It is to leave the registry. -/
  | leaving (ending : Ending)
  /-- It has left the registry and is to tell how many sessions remained. -/
  | telling (ending : Ending) (remaining : Nat)
  /-- It is to close the session. -/
  | finishing (ending : Ending)
  /-- It has stopped. -/
  | stopped (ending : Ending)
  deriving Repr, DecidableEq

/-- Whether a writer has made its last write and has not yet stopped. -/
def Writer.isParting : Writer → Bool
  | .closingQueue _ | .leaving _ | .telling .. | .finishing _ => true
  | .unstarted | .waiting | .writing _ | .stopped _ => false

/-- The transport a session writes to. -/
structure Sink where
  /-- How many frames it takes before every write fails; none for any number. -/
  limit : Option Nat
  /-- Writes are held up. -/
  stalled : Bool
  /-- Every write fails, held up or not. -/
  failed : Bool
  deriving Repr, DecidableEq

inductive Verdict where
  | written
  | heldUp
  | failed
  deriving Repr, DecidableEq

/-- What becomes of the next write after so many frames. -/
def Sink.verdict (sink : Sink) (written : Nat) : Verdict :=
  if sink.failed || sink.limit.any (· ≤ written) then .failed
  else if sink.stalled then .heldUp
  else .written

end Session

structure Session where
  id : SessionId
  stage : Session.Stage
  /-- Whether the queue takes frames. -/
  isOpen : Bool
  /-- The frames that wait, next one first. -/
  queue : List Text
  /-- Every frame the queue ever took, oldest first. -/
  accepted : List Text
  /-- Every frame written to the transport, oldest first. -/
  written : List Text
  writer : Session.Writer
  sink : Session.Sink
  /-- How many calls in progress may still offer it a frame. -/
  holds : Nat
  deriving Repr, DecidableEq

namespace Session

/-- A session that is not yet registered, with its first frame in the queue. -/
def connecting (id : SessionId) (sink : Sink) (greeting : Text) : Session :=
  { id, sink, stage := .connecting, isOpen := true, queue := [greeting], accepted := [greeting],
    written := [], writer := .unstarted, holds := 0 }

def activate (s : Session) : Session := { s with stage := .active, writer := .waiting }

/-- Offer a frame to the queue. A closed queue takes nothing. -/
def offer (s : Session) (frame : Text) : Session :=
  if s.isOpen then { s with queue := s.queue ++ [frame], accepted := s.accepted ++ [frame] } else s

def hold (s : Session) : Session := { s with holds := s.holds + 1 }

def release (s : Session) : Session := { s with holds := s.holds - 1 }

def withSink (s : Session) (change : Sink → Sink) : Session := { s with sink := change s.sink }

/-- One step of the writer that concerns nobody else: taking the next frame, writing it, closing
    the queue, closing the session. `canStillCome` says whether anyone can still offer frames; none
    if the writer has to wait or its next step concerns the registry. -/
def writerStep (s : Session) (canStillCome : Bool) : Option Session :=
  match s.writer with
  | .waiting =>
      match s.queue with
      | frame :: rest => some { s with queue := rest, writer := .writing frame }
      | [] => if canStillCome then none else some { s with writer := .closingQueue .drained }
  | .writing frame =>
      match s.sink.verdict s.written.length with
      | .written => some { s with written := s.written ++ [frame], writer := .waiting }
      | .heldUp => none
      | .failed => some { s with writer := .closingQueue .failed }
  | .closingQueue ending => some { s with isOpen := false, writer := .leaving ending }
  | .finishing ending => some { s with stage := .closed, writer := .stopped ending }
  | .unstarted | .leaving _ | .telling .. | .stopped _ => none

end Session

end BoxOffice

/-! # The tally

What has been counted since the box office opened. Counters only grow; the gauge of active sessions
holds the number it was last told. How long a dispatch took is kept where it is known.
-/

namespace BoxOffice

inductive Occurrence where
  /-- A session was registered; so many are now. -/
  | connected (active : Nat)
  /-- A session left the registry; so many remained. -/
  | disconnected (active : Nat)
  /-- A write to a session failed. -/
  | writeFailed
  /-- A message was dispatched, in so many nanoseconds if that was measured. -/
  | dispatched (nanoseconds : Option Nat)
  /-- A booking request was decided. -/
  | decided (granted : Bool)
  /-- A frame was offered to every session; so many accepted it. -/
  | announced (recipients : Nat)
  deriving Repr, DecidableEq

/-- The totals, as long as each fits into 64 bits; what is shown of a greater one is its
    remainder. -/
structure Tally where
  connected : Nat
  disconnected : Nat
  /-- The number of sessions last told; none before the first was registered. -/
  active : Option Nat
  writeFailures : Nat
  granted : Nat
  refused : Nat
  dispatches : Nat
  /-- The known durations of dispatches, in nanoseconds, oldest first. -/
  durations : List Nat
  broadcasts : Nat
  recipients : Nat
  deriving Repr, DecidableEq

namespace Tally

def zero : Tally := ⟨0, 0, none, 0, 0, 0, 0, [], 0, 0⟩

/-- Count one occurrence. -/
def record (t : Tally) : Occurrence → Tally
  | .connected active => { t with connected := t.connected + 1, active := some active }
  | .disconnected active => { t with disconnected := t.disconnected + 1, active := some active }
  | .writeFailed => { t with writeFailures := t.writeFailures + 1 }
  | .dispatched nanoseconds =>
      { t with
        dispatches := t.dispatches + 1
        durations := t.durations ++ nanoseconds.toList }
  | .decided true => { t with granted := t.granted + 1 }
  | .decided false => { t with refused := t.refused + 1 }
  | .announced recipients =>
      { t with broadcasts := t.broadcasts + 1, recipients := t.recipients + recipients }

def recordAll (t : Tally) (occurrences : List Occurrence) : Tally := occurrences.foldl record t

end Tally

end BoxOffice

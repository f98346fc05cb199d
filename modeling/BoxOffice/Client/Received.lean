import BoxOffice.Notice
import BoxOffice.Snapshot.Reading

/-! # What a client has received

A client keeps the last frame, the last answer to a booking, and the shows of the last frame that
carried a snapshot.
-/

namespace BoxOffice.Client

/-- The sum of the frames received so far. -/
structure Received where
  /-- The last frame; empty before the first. -/
  lastResponse : Text
  /-- The last answer to a booking; empty before the first. -/
  lastBookingResponse : Text
  shows : List Show
  /-- How many frames there were, as long as that fits into 64 bits. -/
  frames : Nat
  deriving Repr, DecidableEq

namespace Received

def nothing : Received := ⟨[], [], [], 0⟩

/-- Take in a frame. An answer to a booking replaces the shows only if it carries a snapshot. -/
def take (r : Received) (frame : Text) : Received :=
  let r := { r with lastResponse := frame, frames := r.frames + 1 }
  match Notice.ofText frame with
  | .booking _ =>
      let r := { r with lastBookingResponse := frame }
      if carriesSnapshot frame then { r with shows := Snapshot.parse frame } else r
  | .snapshot _ => { r with shows := Snapshot.parse frame }
  | .other => r

def takeAll (r : Received) (frames : List Text) : Received := frames.foldl take r

end Received

end BoxOffice.Client

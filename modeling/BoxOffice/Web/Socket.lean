import BoxOffice.Hub.Calls
import BoxOffice.Web.Endpoint

/-! # Sockets

A socket that was granted a session is read by one handler. It enters the hub, passes every text to
it, and leaves the hub when the customer is gone, the hub does not know the session any more, or the
session is closed. Frames that are not text are passed over.
-/

namespace BoxOffice.Web

/-- What a handler reads from its socket. -/
inductive Arrival where
  | text (message : Text)
  | binary
  | ping
  | pong
  | close
  /-- Reading failed. -/
  | failure
  /-- The stream ended. -/
  | ended
  deriving Repr, DecidableEq

/-- Whether the handler goes on reading after an arrival that is not text. -/
def Arrival.keepsReading : Arrival → Bool
  | .text _ | .binary | .ping | .pong => true
  | .close | .failure | .ended => false

/-- Take in one arrival on the socket of a session, and whether the handler goes on reading. -/
def receive (h : Hub) (id : SessionId) : Arrival → Bool × Hub
  | .text message =>
      match h.inbound id message with
      | (.ok _, h) => (true, h)
      | (.error _, h) => (false, h)
  | arrival => (arrival.keepsReading, h)

/-- Take in one arrival and leave the hub if it was the last one. -/
def handle (h : Hub) (id : SessionId) (arrival : Arrival) : Bool × Hub :=
  match receive h id arrival with
  | (true, h) => (true, h)
  | (false, h) => (false, (h.disconnect id).2)

end BoxOffice.Web

import BoxOffice.Notice
import BoxOffice.Request

/-! # Answering a message

A message is a wish for the snapshot, a booking request, or a text that is sent back. Every answer
ends with a fresh snapshot, so a customer who reads it is up to date. Only a granted booking changes
the programme, and only a granted booking is announced to everyone.
-/

namespace BoxOffice

structure Reply where
  /-- What the sender is told. -/
  text : Text
  /-- Whether everyone is to be sent an update. -/
  announce : Bool
  deriving Repr, DecidableEq

namespace Reply

/-- The answer to a booking, with a snapshot of the programme as it was seen afterwards. -/
def ofBooking (result : Except Refusal Request) (seen : Programme) : Reply :=
  match result with
  | .ok request =>
      { text := successMark ++ " Booked seats " ++ SeatNumber.list request.seatsAscending ++
          " for " ++ request.movie ++ " at " ++ request.theater ++ "\n\n" ++
          Snapshot.render .initial seen
        announce := true }
  | .error refusal =>
      { text := errorMark ++ " " ++ refusal.message ++ "\n\n" ++ Snapshot.render .initial seen
        announce := false }

def echo (message : Text) (seen : Programme) : Reply :=
  { text := "Echo: " ++ message ++ "\n\n" ++ Snapshot.render .initial seen, announce := false }

/-- What an answer says of a booking, judged by how it begins; none if it answers no booking. -/
def bookingResult? (text : Text) : Option Bool :=
  if successMark.isPrefixOf text then some true
  else if errorMark.isPrefixOf text then some false
  else none

end Reply

/-- The commands that ask for the snapshot. -/
def snapshotCommands : List Text := ["get_data", "refresh"]

namespace Programme

def book (p : Programme) (message : Text) : Except Refusal Request × Programme :=
  match Request.parse message with
  | .error refusal => (.error refusal, p)
  | .ok request =>
      match p.reserve request.theater request.movie request.seats with
      | (none, p) => (.error (.noSuchShow request.theater request.movie), p)
      | (some false, p) => (.error .seatsTaken, p)
      | (some true, p) => (.ok request, p)

def process (p : Programme) (message : Text) : Reply × Programme :=
  let (result, p) := p.book message
  (Reply.ofBooking result p, p)

/-- Answer a message of any sort. A message with a comma is a booking request. -/
def route (p : Programme) (message : Text) : Reply × Programme :=
  if snapshotCommands.contains message then (⟨Snapshot.render .initial p, false⟩, p)
  else if message.contains ',' then p.process message
  else (Reply.echo message p, p)

end Programme

end BoxOffice

import BoxOffice.Programme

/-! # Snapshots

A snapshot tells every customer which seats are free. It has a header and a footer, which say
whether it answers a request or announces a booking, and between them the shows of the programme
in grouped order, each with its names and its free seats.
-/

namespace BoxOffice

namespace Snapshot

/-- What a snapshot is sent for. -/
inductive Kind where
  /-- It greets a session or answers a message. -/
  | initial
  /-- It tells of a booking. -/
  | update
  deriving Repr, DecidableEq

def initialHeader : Text := "=== CINEMA DATA STREAM ==="
def initialFooter : Text := "=== END CINEMA DATA ==="
def updateMark : Text := "BOOKING_UPDATE:"
def updateHeader : Text := "=== UPDATED CINEMA DATA ==="
def updateFooter : Text := "=== END UPDATED DATA ==="

/-- The line or lines before the shows. -/
def Kind.header : Kind → Text
  | .initial => initialHeader
  | .update => updateMark ++ "\n" ++ updateHeader

/-- The line after the shows. -/
def Kind.footer : Kind → Text
  | .initial => initialFooter
  | .update => updateFooter

def theaterMark : Text := "Theater: "
def movieMark : Text := "  Movie: "
def seatsMark : Text := "    Available seats:"
def totalMark : Text := "(Total:"

/-- Stands in place of the seat numbers of a show that has no free seat. -/
def soldOut : Text := "SOLD OUT"

/-- Free seats as a snapshot shows them. -/
def seatList (free : List SeatNumber) : Text :=
  if free.isEmpty then soldOut else SeatNumber.list free

def movieLine (s : Show) : Text := movieMark ++ s.movie ++ " (" ++ s.date ++ ")"

/-- The line that tells the free seats of a show. -/
def seatsLine (s : Show) : Text :=
  seatsMark ++ " " ++ seatList s.seats.freeSeats ++ " " ++ totalMark ++ " " ++
    Text.ofNat s.seats.freeSeats.length ++ "/" ++ Text.ofNat seatCount ++ ")"

/-- Both lines of a show, each with its line feed. -/
def showLines (s : Show) : Text := movieLine s ++ ['\n'] ++ seatsLine s ++ ['\n']

/-- The lines of one theater and the empty line after them. -/
def theaterLines (p : Programme) (theater : Text) : Text :=
  theaterMark ++ theater ++ ['\n'] ++ (p.showsAt theater).flatMap showLines ++ ['\n']

def render (kind : Kind) (p : Programme) : Text :=
  kind.header ++ ['\n'] ++ p.theaters.flatMap (theaterLines p) ++ kind.footer ++ ['\n']

end Snapshot

end BoxOffice

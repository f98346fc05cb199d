import BoxOffice.Network
import BoxOffice.Programme.Opening
import BoxOffice.Reply

/-! # Scenarios

A scenario rehearses the box office: a programme is given, messages are answered one after another,
and expectations are held against the last answer and the programme that is left. Small programmes
that rehearsals begin with, and the network they are in, stand first.
-/

namespace BoxOffice

namespace Programme

/-- A programme from rows of theater, movie and booked seats, all at the opening date. -/
def ofRows (rows : List (Text × Text × List SeatNumber)) : Programme :=
  rows.map fun (theater, movie, booked) => ⟨theater, movie, openingDate, .ofBooked booked⟩

def single : Programme := ofRows [("PVR", "Inception", [])]

/-- A show with two booked seats, one with none and one that is sold out. -/
def small : Programme :=
  [⟨"PVR", "Inception", openingDate, .ofBooked [1, 2]⟩, ⟨"PVR", "Tenet", openingDate, .free⟩,
    ⟨"Cinepolis", "Inception", openingDate, .full⟩]

end Programme

/-- A machine that is on no network. -/
def Network.unrouted : Network := .cut "IO error: Network is unreachable (os error 101)"

/-- What a scenario may be expected to end with. -/
inductive Expectation where
  /-- The last answer begins with this text. -/
  | answerBegins (text : Text)
  /-- The show of these names has exactly these booked seats, listed in ascending order. -/
  | hasBooked (theater movie : Text) (seats : List SeatNumber)
  /-- No show has a booked seat. -/
  | untouched
  deriving Repr, DecidableEq

/-- Whether an expectation is met by the last answer and the programme that is left. -/
def Expectation.isMet (last : Reply) (p : Programme) : Expectation → Bool
  | .answerBegins text => text.isPrefixOf last.text
  | .hasBooked theater movie seats =>
      match p.find theater movie with
      | some s => s.seats.bookedSeats == seats
      | none => false
  | .untouched => p.all fun s => s.seats.bookedSeats.isEmpty

structure Scenario where
  programme : Option Programme
  messages : List Text
  expectations : List Expectation
  deriving Repr, DecidableEq

namespace Scenario

/-- Answer messages one after another; the last answer and the programme that is left. -/
def play (last : Reply) (p : Programme) : List Text → Reply × Programme
  | [] => (last, p)
  | message :: rest =>
      let (reply, p) := p.route message
      play reply p rest

/-- Whether the scenario can be played and meets every expectation. One without a programme or
    without a message cannot be played. -/
def passes (scenario : Scenario) : Bool :=
  match scenario.programme, scenario.messages with
  | some p, first :: rest =>
      let (reply, p) := p.route first
      let (last, p) := play reply p rest
      scenario.expectations.all fun e => e.isMet last p
  | _, _ => false

end Scenario

end BoxOffice

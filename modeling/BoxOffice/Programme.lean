import BoxOffice.SeatPlan

/-! # The programme

A programme lists shows in a fixed order. Names are matched exactly; where two shows have the same
theater and movie, the first one is the show those names mean. The grouped order, in which the
programme is announced, keeps the shows of a theater together: theaters by the position of their
first show, shows of one theater in programme order.
-/

namespace BoxOffice

/-- One screening and its seats. -/
structure Show where
  theater : Text
  movie : Text
  date : Text
  seats : SeatPlan
  deriving Repr, DecidableEq

def Show.isCalled (s : Show) (theater movie : Text) : Bool :=
  s.theater == theater && s.movie == movie

/-- Shows in programme order. -/
abbrev Programme := List Show

namespace Programme

/-- The position of the show that two names mean. -/
def position? (p : Programme) (theater movie : Text) : Option Nat :=
  p.findIdx? fun s => s.isCalled theater movie

/-- The show that two names mean: the first one so called. -/
def find (p : Programme) (theater movie : Text) : Option Show :=
  p.find? fun s => s.isCalled theater movie

/-- The theaters, each once, by the position of their first show. -/
def theaters (p : Programme) : List Text :=
  p.foldl (fun seen s => if seen.contains s.theater then seen else seen ++ [s.theater]) []

def showsAt (p : Programme) (theater : Text) : List Show :=
  p.filter fun s => s.theater == theater

/-- Every show in the order of announcement: theater by theater. -/
def grouped (p : Programme) : List Show := p.theaters.flatMap p.showsAt

def setSeats (p : Programme) (position : Nat) (plan : SeatPlan) : Programme :=
  p.modify position fun s => { s with seats := plan }

/-- Reserve seats of the show at a position, all or none. -/
def reserveAt (p : Programme) (position : Nat) (seats : List SeatNumber) : Bool × Programme :=
  match p[position]? with
  | some s =>
      let (granted, plan) := s.seats.reserve seats
      (granted, p.setSeats position plan)
  | none => (false, p)

/-- Reserve seats of the show that two names mean; none if there is no such show. -/
def reserve (p : Programme) (theater movie : Text) (seats : List SeatNumber) :
    Option Bool × Programme :=
  match p.position? theater movie with
  | some position =>
      let (granted, p) := p.reserveAt position seats
      (some granted, p)
  | none => (none, p)

def booked (p : Programme) : List (List SeatNumber) := p.map fun s => s.seats.bookedSeats

end Programme

end BoxOffice

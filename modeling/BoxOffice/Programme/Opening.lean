import BoxOffice.Programme

/-! # The opening programme

Nine shows: three theaters with three movies each, all at one time. Three patterns of booked seats
are dealt to the shows in turn.
-/

namespace BoxOffice.Programme

def openingTheaters : List Text := ["PVR", "IMAX", "Cinepolis"]

def openingMovies : List Text := ["Inception", "Interstellar", "Tenet"]

def openingDate : Text := "2025-09-11 19:30"

/-- The booked seats of the first, second and third of every three shows. -/
def openingPatterns : List (List SeatNumber) :=
  [[1, 2, 5, 10, 11, 14, 15, 19],
    [2, 4, 6, 8, 9, 12, 13, 16, 17, 20],
    [1, 3, 4, 5, 7, 8, 10, 11, 13, 14, 15, 18, 19, 20]]

def opening : Programme :=
  (openingTheaters.flatMap fun theater => openingMovies.map fun movie => (theater, movie)).mapIdx
    fun position (theater, movie) =>
      ⟨theater, movie, openingDate,
        .ofBooked (openingPatterns.getD (position % openingPatterns.length) [])⟩

/-- One line of the list of free seats that is logged at the start. -/
structure Opened where
  theater : Text
  movie : Text
  freeSeats : Text
  deriving Repr, DecidableEq

/-- The free seats of every show, in grouped order, as they are logged at the start. -/
def openingLog (p : Programme) : List Opened :=
  p.grouped.map fun s => ⟨s.theater, s.movie, "[" ++ SeatNumber.list s.seats.freeSeats ++ "]"⟩

end BoxOffice.Programme

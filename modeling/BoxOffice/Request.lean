import BoxOffice.Refusal
import BoxOffice.SeatPlan
import BoxOffice.Text.Blank

/-! # Booking requests

A request is written `theater,movie,seat,seat,...`. The names are kept as they stand, blanks
included. A seat field may have blanks around its numeral; one comma too many at the end is
forgiven. The leftmost bad seat field decides the refusal.
-/

namespace BoxOffice

/-- A wish for seats of one show, in the order they were asked for. -/
structure Request where
  theater : Text
  movie : Text
  seats : List SeatNumber
  deriving Repr, DecidableEq

namespace Request

def print (r : Request) : Text :=
  r.theater ++ [','] ++ r.movie ++ r.seats.flatMap fun n => ',' :: Text.ofNat n.toNat

/-- The fields of a message. An empty field left by a comma at the end is dropped. -/
def fields (text : Text) : List Text :=
  if text.getLast? = some ',' then (text.splitOn ',').dropLast else text.splitOn ','

/-- The seat a field names. A numeral that does not fit 64 signed bits is no number. -/
def seatOfField (field : Text) : Except Refusal SeatNumber :=
  match Text.integer? (-9223372036854775808) 9223372036854775807 field.trim with
  | none => .error (.notANumber field)
  | some value =>
      if 0 ≤ value ∧ value < 256 ∧ SeatNumber.isValid (UInt8.ofNat value.toNat) then
        .ok (UInt8.ofNat value.toNat)
      else .error (.noSuchSeat field)

/-- The seats that fields name, or the refusal of the leftmost bad field. -/
def seatsOfFields : List Text → Except Refusal (List SeatNumber)
  | [] => .ok []
  | field :: rest =>
      match seatOfField field with
      | .error refusal => .error refusal
      | .ok seat =>
          match seatsOfFields rest with
          | .error refusal => .error refusal
          | .ok seats => .ok (seat :: seats)

def parse (text : Text) : Except Refusal Request :=
  match fields text with
  | theater :: movie :: field :: rest =>
      match seatsOfFields (field :: rest) with
      | .error refusal => .error refusal
      | .ok seats => .ok ⟨theater, movie, seats⟩
  | _ => .error .tooFewFields

/-- The distinct seats of a request in ascending order. -/
def seatsAscending (r : Request) : List SeatNumber := SeatNumber.ascending r.seats

end Request

end BoxOffice

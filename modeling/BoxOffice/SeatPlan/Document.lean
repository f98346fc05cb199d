import BoxOffice.Json.Reader
import BoxOffice.SeatPlan

/-! # Seat plans as documents

A document of a seat plan is a record with one field, `booked`: an array of a boolean for each seat
of the hall, in order.
-/

namespace BoxOffice.SeatPlan

def ofJson? (document : Json) : Option SeatPlan :=
  match document.toRecord? ["booked"] with
  | some [.array items] => do
      let booked ← items.mapM Json.toBool?
      if h : booked.length = seatCount then
        some ⟨⟨booked.toArray, by simpa using h⟩⟩
      else none
  | _ => none

def parse? (text : Text) : Option SeatPlan := Json.parse text >>= ofJson?

end BoxOffice.SeatPlan

import BoxOffice.Text.Basic

/-! # Why a booking is refused -/

namespace BoxOffice

inductive Refusal where
  /-- A theater, a movie and at least one seat were not given. -/
  | tooFewFields
  /-- The field is a number, but not that of a seat. -/
  | noSuchSeat (field : Text)
  /-- The field is not a number. -/
  | notANumber (field : Text)
  /-- The programme has no show of these names. -/
  | noSuchShow (theater movie : Text)
  /-- At least one of the seats is not free. -/
  | seatsTaken
  deriving Repr, DecidableEq

/-- What the customer is told. A bad seat field is quoted as it was written. -/
def Refusal.message : Refusal → Text
  | .tooFewFields => "Invalid booking format. Use: theater,movie,seat1,seat2,..."
  | .noSuchSeat field => "Invalid seat number " ++ field ++ ". Must be 1-20."
  | .notANumber field => "Invalid seat number format: " ++ field
  | .noSuchShow theater movie => "Show not found - " ++ movie ++ " at " ++ theater
  | .seatsTaken => "One or more seats are already booked or invalid"

end BoxOffice

import BoxOffice.Text.Decimal

/-! # Seat plans

A hall has the seats 1 to 20. Seat numbers come from outside as bytes, so most of them name no
seat; every operation says what it does with those. A plan is what a show's ledger holds, and
`reserve` is the one way the box office changes it: all the seats asked for, or none.
-/

namespace BoxOffice

def seatCount : Nat := 20

/-- A byte that may or may not be the number of a seat. -/
abbrev SeatNumber := UInt8

namespace SeatNumber

/-- The place of a seat in the hall, counted from zero; none if the number names no seat. -/
def place? (n : SeatNumber) : Option (Fin seatCount) :=
  if h : 1 ≤ n.toNat ∧ n.toNat ≤ seatCount then some ⟨n.toNat - 1, by omega⟩ else none

def isValid (n : SeatNumber) : Bool := n.place?.isSome

def all : List SeatNumber := (List.range seatCount).map fun place => UInt8.ofNat (place + 1)

/-- Seat numbers in a sentence: `3, 4, 7`. -/
def list (seats : List SeatNumber) : Text :=
  Text.join ", " (seats.map fun n => Text.ofNat n.toNat)

/-- Every byte in ascending order. -/
def bytes : List SeatNumber := (List.range 256).map UInt8.ofNat

/-- The distinct numbers of a list in ascending order. -/
def ascending (seats : List SeatNumber) : List SeatNumber := bytes.filter (seats.contains ·)

end SeatNumber

/-- Which seats of a hall are booked, by place. -/
structure SeatPlan where
  booked : Vector Bool seatCount
  deriving Repr, DecidableEq

namespace SeatPlan

def free : SeatPlan := ⟨.replicate seatCount false⟩

def full : SeatPlan := ⟨.replicate seatCount true⟩

def isBooked? (plan : SeatPlan) (n : SeatNumber) : Option Bool :=
  n.place?.map fun place => plan.booked[place]

/-- The plan with one seat marked, and whether the number names a seat. -/
def mark (plan : SeatPlan) (n : SeatNumber) (booked : Bool) : Bool × SeatPlan :=
  match n.place? with
  | some place => (true, ⟨plan.booked.set place booked⟩)
  | none => (false, plan)

def book (plan : SeatPlan) (n : SeatNumber) : Bool × SeatPlan := plan.mark n true

def release (plan : SeatPlan) (n : SeatNumber) : Bool × SeatPlan := plan.mark n false

/-- Book each seat of a list; numbers that name no seat are passed over. -/
def bookAll (plan : SeatPlan) (seats : List SeatNumber) : SeatPlan :=
  seats.foldl (fun plan n => (plan.book n).2) plan

/-- Free each seat of a list; numbers that name no seat are passed over. -/
def releaseAll (plan : SeatPlan) (seats : List SeatNumber) : SeatPlan :=
  seats.foldl (fun plan n => (plan.release n).2) plan

/-- The plan in which exactly the listed seats are booked. -/
def ofBooked (seats : List SeatNumber) : SeatPlan := free.bookAll seats

/-- The booked seats in ascending order. -/
def bookedSeats (plan : SeatPlan) : List SeatNumber :=
  SeatNumber.all.filter fun n => plan.isBooked? n == some true

/-- The free seats in ascending order. -/
def freeSeats (plan : SeatPlan) : List SeatNumber :=
  SeatNumber.all.filter fun n => plan.isBooked? n == some false

def freeCount (plan : SeatPlan) : Nat := plan.booked.toList.countP (!·)

/-- Reserve seats, all or none: granted iff every number names a free seat. A seat named twice
    is reserved once; the empty request is granted. -/
def reserve (plan : SeatPlan) (seats : List SeatNumber) : Bool × SeatPlan :=
  if seats.all fun n => plan.isBooked? n == some false then (true, plan.bookAll seats)
  else (false, plan)

/-- The same request made `times` times in a row, with the number of grants. Requests made at the
    same moment are reserved one after another, so this is also their outcome. -/
def reserveRepeatedly (plan : SeatPlan) (seats : List SeatNumber) : Nat → Nat × SeatPlan
  | 0 => (0, plan)
  | times + 1 =>
      let (granted, plan) := plan.reserve seats
      let (grants, plan) := plan.reserveRepeatedly seats times
      (grants + granted.toNat, plan)

end SeatPlan

end BoxOffice

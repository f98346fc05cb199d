import BoxOffice.Reply

/-! # Overlapping bookings

Many bookings can be under way on one programme. Reserving the seats of a show is one atomic step,
and so is looking at the seat plan of one show for the snapshot that ends an answer; between the
steps of one booking others have theirs. So a snapshot shows each plan as it was when it was looked
at, and not all plans as they were at one moment. A booking that is left alone is answered as by
`Programme.process` (`finish_begin`).
-/

namespace BoxOffice

namespace Programme

/-- The positions of the shows of one theater. -/
def positionsAt (p : Programme) (theater : Text) : List Nat :=
  (List.range p.length).filter fun position => (p[position]?).any (·.theater == theater)

/-- The positions of all shows in the order of announcement. -/
def positions (p : Programme) : List Nat := p.theaters.flatMap p.positionsAt

/-- The programme as it was seen, after one more look at the seat plan of a show as it is now. -/
def lookAt (seen now : Programme) (position : Nat) : Programme :=
  match now[position]? with
  | some s => seen.setSeats position s.seats
  | none => seen

theorem map_theater_setSeats (p : Programme) (position : Nat) (plan : SeatPlan) :
    (p.setSeats position plan).map (·.theater) = p.map (·.theater) := by
  apply List.ext_getElem?
  intro i
  simp only [setSeats, List.getElem?_map, List.getElem?_modify]
  cases p[i]? with
  | none => rfl
  | some s => split <;> rfl

theorem theaters_eq (p : Programme) :
    p.theaters = (p.map (·.theater)).foldl
      (fun seen theater => if seen.contains theater then seen else seen ++ [theater]) [] := by
  simp only [theaters, List.foldl_map]

theorem positionsAt_eq (p : Programme) (theater : Text) :
    p.positionsAt theater = (List.range (p.map (·.theater)).length).filter fun position =>
      ((p.map (·.theater))[position]?).any (· == theater) := by
  simp [positionsAt, List.getElem?_map, Option.any_map]

theorem positions_setSeats (p : Programme) (position : Nat) (plan : SeatPlan) :
    (p.setSeats position plan).positions = p.positions := by
  unfold positions
  rw [theaters_eq, theaters_eq, map_theater_setSeats]
  congr 1
  funext theater
  rw [positionsAt_eq, positionsAt_eq, map_theater_setSeats]

theorem positions_reserveAt (p : Programme) (position : Nat) (seats : List SeatNumber) :
    (p.reserveAt position seats).2.positions = p.positions := by
  unfold reserveAt
  split
  · exact positions_setSeats ..
  · rfl

theorem lookAt_self (p : Programme) (position : Nat) : p.lookAt p position = p := by
  unfold lookAt
  cases h : p[position]? with
  | none => rfl
  | some s =>
      apply List.ext_getElem?
      intro i
      simp only [setSeats, List.getElem?_modify]
      by_cases hi : position = i
      · subst hi; simp [h]
      · simp [hi]

end Programme

/-- How far a booking has come. -/
inductive Booking where
  /-- The show is found, and its seats are to be reserved. -/
  | reserving (request : Request) (position : Nat)
  /-- The booking is decided. The programme as it was seen so far, and the positions of the shows
      still to be looked at; once there are none the booking is answered. -/
  | looking (result : Except Refusal Request) (seen : Programme) (unseen : List Nat)

namespace Booking

/-- A booking that was just decided. -/
def decided (p : Programme) (result : Except Refusal Request) : Booking :=
  .looking result p p.positions

/-- Begin a booking. Names do not change, so finding the show needs no step of its own. -/
def begin (p : Programme) (message : Text) : Booking :=
  match Request.parse message with
  | .error refusal => decided p (.error refusal)
  | .ok request =>
      match p.position? request.theater request.movie with
      | none => decided p (.error (.noSuchShow request.theater request.movie))
      | some position => .reserving request position

def step? (p : Programme) : Booking → Option (Booking × Programme)
  | .reserving request position =>
      let (granted, p) := p.reserveAt position request.seats
      some (decided p (if granted then .ok request else .error .seatsTaken), p)
  | .looking result seen (position :: unseen) =>
      some (.looking result (seen.lookAt p position) unseen, p)
  | .looking _ _ [] => none

/-- The answer to a booking; none before it is answered. -/
def reply? : Booking → Option Reply
  | .looking result seen [] => some (.ofBooking result seen)
  | _ => none

/-- A bound on the steps a booking has still to make. -/
def stepsLeft (p : Programme) : Booking → Nat
  | .reserving .. => p.positions.length + 1
  | .looking _ _ unseen => unseen.length

/-- The next steps of a booking, so many at most, with nothing in between. -/
def steps (p : Programme) (b : Booking) : Nat → Booking × Programme
  | 0 => (b, p)
  | n + 1 =>
      match b.step? p with
      | some (b, p) => steps p b n
      | none => (b, p)

def finish (p : Programme) (b : Booking) : Booking × Programme := b.steps p (b.stepsLeft p)

theorem steps_looking (p : Programme) (result : Except Refusal Request) (unseen : List Nat) :
    (Booking.looking result p unseen).steps p unseen.length = (.looking result p [], p) := by
  induction unseen with
  | nil => rfl
  | cons position unseen ih => simpa only [List.length_cons, steps, step?, p.lookAt_self] using ih

theorem finish_decided (p : Programme) (result : Except Refusal Request) :
    (decided p result).finish p = (.looking result p [], p) := steps_looking ..

theorem finish_reserving (p : Programme) (request : Request) (position : Nat) :
    (Booking.reserving request position).finish p =
      (decided (p.reserveAt position request.seats).2
        (if (p.reserveAt position request.seats).1 then .ok request
          else .error .seatsTaken)).finish (p.reserveAt position request.seats).2 := by
  simp only [finish, stepsLeft, steps, step?, decided, p.positions_reserveAt]

/-- A booking that is left alone is answered as in one go. -/
theorem finish_begin (p : Programme) (message : Text) :
    ((begin p message).finish p).1.reply? = some (p.process message).1 ∧
      ((begin p message).finish p).2 = (p.process message).2 := by
  unfold begin Programme.process Programme.book Programme.reserve
  cases Request.parse message with
  | error refusal => simp [finish_decided, reply?]
  | ok request =>
      cases found : p.position? request.theater request.movie with
      | none => simp [found, finish_decided, reply?]
      | some position =>
          simp only [found, finish_reserving, finish_decided, reply?]
          cases (p.reserveAt position request.seats).1 <;> simp

end Booking

/-- A programme and every booking asked for on it, in the order in which they began. -/
structure Rush where
  programme : Programme
  bookings : List Booking
  /-- The places of the bookings that have made their attempt to reserve, in the order in which they
      made it. Nothing reads this. -/
  attempts : List Nat

namespace Rush

inductive Event where
  /-- A booking begins. -/
  | begin (message : Text)
  /-- A booking, known by its place, makes its next step. -/
  | proceed (booking : Nat)
  deriving Repr, DecidableEq

def idle (p : Programme) : Rush := ⟨p, [], []⟩

/-- The rush after an event; none if the event cannot happen. -/
def step? (r : Rush) : Event → Option Rush
  | .begin message => some { r with bookings := r.bookings ++ [.begin r.programme message] }
  | .proceed n => do
      let booking ← r.bookings[n]?
      let (next, programme) ← booking.step? r.programme
      let attempts := match booking with
        | .reserving .. => r.attempts ++ [n]
        | .looking .. => r.attempts
      some ⟨programme, r.bookings.set n next, attempts⟩

def run? (r : Rush) : List Event → Option Rush
  | [] => some r
  | e :: rest => (r.step? e).bind fun r => r.run? rest

end Rush

end BoxOffice

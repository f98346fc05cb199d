import BoxOffice.Proofs.Reservation
import Mathlib.Data.List.FinRange
import Mathlib.Data.List.Induction

/-! # Seats after any history

Seats are booked and freed one at a time, under numbers that need not name a seat. Only the last
call that names a seat counts for it, and calls that name none are without effect
(`isBooked?_afterAll`). The lists of a plan are read off its bits by place, in the order of the
seats, so they agree with the bits at both ends of the hall (`isListed`).
-/

namespace BoxOffice

inductive Marking where
  | book (n : SeatNumber)
  | release (n : SeatNumber)
  deriving Repr, DecidableEq

namespace Marking

def seat : Marking → SeatNumber
  | book n => n
  | release n => n

/-- How a call leaves the seat it names. -/
def books : Marking → Bool
  | book _ => true
  | release _ => false

end Marking

namespace SeatPlan

variable {plan : SeatPlan} {n : SeatNumber} {m : Marking} {history : List Marking}

def call (plan : SeatPlan) : Marking → Bool × SeatPlan
  | .book n => plan.book n
  | .release n => plan.release n

def afterAll (plan : SeatPlan) : List Marking → SeatPlan
  | [] => plan
  | m :: rest => (plan.call m).2.afterAll rest

def returns (plan : SeatPlan) : List Marking → List Bool
  | [] => []
  | m :: rest => (plan.call m).1 :: (plan.call m).2.returns rest

/-- The last call of a history that names a seat. -/
def lastNaming? (history : List Marking) (n : SeatNumber) : Option Marking :=
  history.reverse.find? (·.seat = n)

/-! ## One call -/

theorem call_eq_mark (plan : SeatPlan) (m : Marking) : plan.call m = plan.mark m.seat m.books := by
  cases m <;> rfl

theorem mark_returns (plan : SeatPlan) (n : SeatNumber) (booked : Bool) :
    (plan.mark n booked).1 = n.isValid := by
  unfold mark SeatNumber.isValid
  cases n.place? <;> rfl

theorem mark_of_invalid (invalid : n.isValid = false) (booked : Bool) :
    plan.mark n booked = (false, plan) := by
  have nowhere : n.place? = none :=
    Option.isNone_iff_eq_none.mp (Option.isSome_eq_false_iff.mp invalid)
  rw [mark, nowhere]

theorem isBooked?_call (plan : SeatPlan) (m : Marking) (n : SeatNumber) :
    (plan.call m).2.isBooked? n = (plan.isBooked? n).map fun was =>
    if m.seat = n then m.books else was := by
  rw [call_eq_mark, isBooked?_mark]
  simp only [eq_comm]

/-! ## All calls -/

theorem lastNaming?_cons (m : Marking) (history : List Marking) (n : SeatNumber) :
    lastNaming? (m :: history) n =
      (lastNaming? history n).or (if m.seat = n then some m else none) := by
  rw [lastNaming?, List.reverse_cons, List.find?_append, lastNaming?, List.find?_singleton]
  simp only [decide_eq_true_eq]

theorem lastNaming?_eq_none : lastNaming? history n = none ↔ ∀ m ∈ history, m.seat ≠ n := by
  simp [lastNaming?]

/-- The last call that names a seat tells whether it is booked; if there is none, it is as it
    was. -/
theorem isBooked?_afterAll (plan : SeatPlan) (history : List Marking) (n : SeatNumber) :
    (plan.afterAll history).isBooked? n =
      (plan.isBooked? n).map fun was => ((lastNaming? history n).map Marking.books).getD was := by
  induction history generalizing plan with
  | nil => simp [afterAll, lastNaming?]
  | cons m history ih =>
      rw [afterAll, ih, isBooked?_call, Option.map_map]
      congr 1
      funext was
      rw [lastNaming?_cons, Function.comp_apply]
      -- the first call counts only if no later one names the seat
      cases lastNaming? history n with
      | some _ => rfl
      | none => split <;> rfl

theorem lastNaming?_eq_book :
    lastNaming? history n = some (.book n) ↔
      (lastNaming? history n).map Marking.books = some true := by
  cases last : lastNaming? history n with
  | none => simp
  | some m =>
      have named : m.seat = n := by simpa using List.find?_some last
      cases m with
      | book k => simp_all [Marking.seat, Marking.books]
      | release k => simp [Marking.books]

/-- A seat is booked in the end if the last call for it booked it, or if no call was for it
    and it was booked. -/
theorem isBooked?_afterAll_iff : (plan.afterAll history).isBooked? n = some true ↔
    n.isValid ∧ lastNaming? history n = some (.book n) ∨
      (∀ m ∈ history, m.seat ≠ n) ∧ plan.isBooked? n = some true := by
  rw [isBooked?_afterAll, lastNaming?_eq_book, ← lastNaming?_eq_none]
  cases before : plan.isBooked? n with
  | none => simp [isBooked?_eq_none.mp before]
  | some was =>
      have valid := isValid_of_isBooked? before
      cases lastNaming? history n <;> simp [valid]

theorem returns_eq (plan : SeatPlan) (history : List Marking) :
    plan.returns history = history.map (·.seat.isValid) := by
  induction history generalizing plan with
  | nil => rfl
  | cons m history ih => rw [returns, ih, call_eq_mark, mark_returns, List.map_cons]

/-- Calls under numbers that name no seat might as well not have been made. -/
theorem afterAll_filter (plan : SeatPlan) (history : List Marking) :
    plan.afterAll (history.filter (·.seat.isValid)) = plan.afterAll history := by
  induction history generalizing plan with
  | nil => rfl
  | cons m history ih =>
      cases valid : m.seat.isValid with
      | true => rw [List.filter_cons, if_pos valid, afterAll, afterAll, ih]
      | false =>
          rw [List.filter_cons, if_neg (by simp [valid]), ih, afterAll, call_eq_mark,
            mark_of_invalid valid]

/-! ## The lists of a plan -/

/-- What the lists of a plan are to the seats of the hall. -/
structure IsListed (plan : SeatPlan) : Prop where
  booked : ∀ n, n ∈ plan.bookedSeats ↔ plan.isBooked? n = some true
  free : ∀ n, n ∈ plan.freeSeats ↔ plan.isBooked? n = some false
  booked_ascending : plan.bookedSeats.Pairwise (· < ·)
  free_ascending : plan.freeSeats.Pairwise (· < ·)
  apart : plan.freeSeats.Disjoint plan.bookedSeats
  together : ∀ n, n ∈ plan.freeSeats ∨ n ∈ plan.bookedSeats ↔ 1 ≤ n.toNat ∧ n.toNat ≤ seatCount
  bits : ∀ state, ((SeatNumber.all.zip plan.booked.toList).filter (·.2 == state)).map (·.1) =
    if state then plan.bookedSeats else plan.freeSeats
  count : plan.freeCount = plan.freeSeats.length

theorem all_eq_map_finRange :
    SeatNumber.all = (List.finRange seatCount).map fun place : Fin seatCount =>
    UInt8.ofNat (place + 1) := by decide

theorem toList_booked (plan : SeatPlan) :
    plan.booked.toList = (List.finRange seatCount).map plan.booked.get := by
  apply List.ext_getElem
  · simp
  · intro i _ _
    simp [Vector.get]

theorem freeCount_eq (plan : SeatPlan) : plan.freeCount = plan.freeSeats.length := by
  -- bits and numbers are both listed by place, so that they can be compared place by place
  rw [freeCount, toList_booked, List.countP_map, freeSeats, all_eq_map_finRange, List.filter_map,
    List.length_map, ← List.countP_eq_length_filter]
  refine List.countP_congr fun place _ => ?_
  rw [Function.comp_apply, Function.comp_apply, isBooked?_of_place]
  cases plan.booked.get place <;> decide

/-- The seats of one state are found by going through the numbers and the bits side by side. -/
theorem map_zip_bits (plan : SeatPlan) (state : Bool) :
    ((SeatNumber.all.zip plan.booked.toList).filter (·.2 == state)).map (·.1) =
      SeatNumber.all.filter fun n => plan.isBooked? n == some state := by
  rw [toList_booked, all_eq_map_finRange, List.zip_map', List.filter_map, List.map_map,
    List.filter_map]
  refine congrArg _ (List.filter_congr fun place _ => ?_)
  rw [Function.comp_apply, Function.comp_apply, isBooked?_of_place]
  rfl

theorem isListed (plan : SeatPlan) : plan.IsListed where
  booked _ := mem_bookedSeats
  free _ := mem_freeSeats
  booked_ascending := plan.bookedSeats_pairwise
  free_ascending := SeatNumber.all_pairwise.filter _
  apart _ free booked := not_mem_freeSeats booked free
  together n := by
    rw [mem_freeSeats, mem_bookedSeats, ← SeatNumber.isValid_iff]
    cases is : plan.isBooked? n with
    | none => simp [isBooked?_eq_none.mp is]
    | some booked => cases booked <;> simp [isValid_of_isBooked? is]
  bits state := by cases state <;> exact plan.map_zip_bits _
  count := plan.freeCount_eq

theorem isBooked?_free (n : SeatNumber) :
    free.isBooked? n = if n.isValid then some false else none := by
  unfold isBooked? SeatNumber.isValid
  cases n.place? <;> simp [free]

theorem isBooked?_ofBooked {seats : List SeatNumber} :
    (ofBooked seats).isBooked? n = some true ↔ n ∈ seats ∧ n.isValid := by
  rw [ofBooked, isBooked?_bookAll, isBooked?_free]
  cases n.isValid <;> simp

/-! ## Any history -/

/-- After any calls a seat of the hall is booked if the last call for it booked it, or if there was
    none and it was booked before. A call under a number that names no seat returns false and leaves
    the plan alone. After each call the free seats and the booked ones are listed in ascending
    order, and each seat of the hall stands in one list. A plan that is made from a list of numbers
    has just those seats booked. -/
theorem history_contract (plan : SeatPlan) (history : List Marking) :
    (∀ n, 1 ≤ n.toNat ∧ n.toNat ≤ seatCount → ((plan.afterAll history).isBooked? n = some true ↔
      lastNaming? history n = some (.book n) ∨ (∀ m ∈ history, m.seat ≠ n) ∧
      plan.isBooked? n = some true)) ∧
    (∀ before m rest, history = before ++ m :: rest →
      ¬ (1 ≤ m.seat.toNat ∧ m.seat.toNat ≤ seatCount) →
      (plan.afterAll before).call m = (false, plan.afterAll before)) ∧
    plan.returns history = history.map (·.seat.isValid) ∧
    plan.afterAll (history.filter (·.seat.isValid)) = plan.afterAll history ∧
    (∀ soFar, soFar <+: history → (plan.afterAll soFar).IsListed) ∧
    ∀ seats n, (ofBooked seats).isBooked? n = some true ↔ n ∈ seats ∧
    (1 ≤ n.toNat ∧ n.toNat ≤ seatCount) := by
  simp only [← SeatNumber.isValid_iff]
  refine ⟨fun n valid => ?_, fun before m rest _ invalid => ?_, plan.returns_eq history,
    plan.afterAll_filter history, fun soFar _ => isListed _, fun seats n => isBooked?_ofBooked⟩
  · rw [isBooked?_afterAll_iff, and_iff_right valid]
  · rw [call_eq_mark, mark_of_invalid (Bool.eq_false_of_not_eq_true invalid)]

/-- Seats 1 and 20 are booked and freed in turn, between calls under the numbers next to them. -/
theorem history_at_both_ends :
    let plan := ofBooked [0, 7, 20, 21]
    let history : List Marking :=
      [.book 0, .book 1, .release 20, .book 21, .release 1, .release 0, .book 1, .book 2]
    (plan.afterAll history).isBooked? 1 = some true ∧
    (plan.afterAll history).isBooked? 7 = some true ∧
    (plan.afterAll history).isBooked? 20 ≠ some true ∧
    (plan.afterAll [.book 0, .book 1, .release 20]).call (.book 21) =
      (false, plan.afterAll [.book 0, .book 1, .release 20]) ∧
    (plan.afterAll [.book 0, .book 1, .release 20, .book 21, .release 1]).IsListed := by
  intro plan history
  obtain ⟨marked, aside, -, -, listed, made⟩ := history_contract plan history
  have booked : plan.isBooked? 7 = some true := (made _ 7).mpr (by decide)
  refine ⟨(marked 1 (by decide)).mpr (.inl (by decide)),
    (marked 7 (by decide)).mpr (.inr ⟨by decide, booked⟩),
    (marked 20 (by decide)).not.mpr (by decide), aside _ (.book 21) _ rfl (by decide),
    listed _ ⟨_, rfl⟩⟩

end SeatPlan

end BoxOffice

import BoxOffice.Proofs.SeatPlan

/-! # Reserving seats of one show

A request is granted if every number in it names a free seat, and only then; a granted request books
just these seats, and a refused one leaves every bit of the plan as it was. Requests only ever book
seats, so a seat that was granted once is never granted again, whatever is asked for in between
(`reserve_contract`).
-/

namespace BoxOffice.SeatPlan

variable {plan : SeatPlan} {seats : List SeatNumber} {n : SeatNumber}

/-- The plan after requests that are made one after another, whether they are granted or not. -/
def reserveEach (plan : SeatPlan) (requests : List (List SeatNumber)) : SeatPlan :=
  requests.foldl (fun plan seats => (plan.reserve seats).2) plan

/-- The seats of a list are booked in a plan, and nothing else becomes of it. -/
structure Takes (plan : SeatPlan) (seats : List SeatNumber) (after : SeatPlan) : Prop where
  booked : ∀ n, n ∈ after.bookedSeats ↔ n ∈ plan.bookedSeats ∨ n ∈ seats
  free : after.freeSeats = plan.freeSeats.filter (· ∉ seats)
  bits : ∀ place : Fin seatCount,
    after.booked.get place = true ↔ plan.booked.get place = true ∨ ∃ n ∈ seats, n.toNat = place + 1

/-! ## One request -/

theorem isBooked?_of_place (plan : SeatPlan) (place : Fin seatCount) :
    plan.isBooked? (UInt8.ofNat (place + 1)) = some (plan.booked.get place) := by
  rw [isBooked?, SeatNumber.place?_ofNat, Option.map_some]
  rfl

theorem allFree_iff : plan.AllFree seats ↔
    ∀ n ∈ seats, (1 ≤ n.toNat ∧ n.toNat ≤ seatCount) ∧ n ∈ plan.freeSeats := by
  simp only [AllFree, mem_freeSeats, ← SeatNumber.isValid_iff]
  exact forall₂_congr fun n _ => (and_iff_right_of_imp isValid_of_isBooked?).symm

theorem reserve_granted_iff : (plan.reserve seats).1 = true ↔ plan.AllFree seats := by
  by_cases free : plan.AllFree seats
  · rw [reserve_of_allFree free]
    exact iff_of_true rfl free
  · rw [reserve_of_not_allFree free]
    exact iff_of_false Bool.false_ne_true free

/-- Booking takes the listed seats out of the free ones and leaves the others in their order. -/
theorem freeSeats_bookAll (plan : SeatPlan) (seats : List SeatNumber) :
    (plan.bookAll seats).freeSeats = plan.freeSeats.filter (· ∉ seats) := by
  rw [freeSeats, freeSeats, List.filter_filter]
  refine List.filter_congr fun n _ => ?_
  rw [isBooked?_bookAll]
  cases plan.isBooked? n with
  | none => simp
  | some booked => cases booked <;> simp

theorem takes_bookAll (valid : ∀ n ∈ seats, n.isValid) : plan.Takes seats (plan.bookAll seats) where
  booked n := mem_bookedSeats_bookAll valid
  free := freeSeats_bookAll plan seats
  bits place := by
    have named := isBooked?_bookAll plan seats (UInt8.ofNat (place + 1))
    rw [isBooked?_of_place, isBooked?_of_place, Option.map_some, Option.some.injEq] at named
    rw [named, Bool.or_eq_true, List.contains_iff_mem]
    refine or_congr_right ⟨fun asked => ⟨_, asked, ?_⟩, ?_⟩
    · exact SeatNumber.place?_eq_some.mp (SeatNumber.place?_ofNat place)
    · rintro ⟨n, asked, at_place⟩
      have same := SeatNumber.place?_injective (SeatNumber.place?_eq_some.mpr at_place)
        (SeatNumber.place?_ofNat place)
      exact same ▸ asked

theorem not_allFree_of_booked (booked : n ∈ plan.bookedSeats) (asked : n ∈ seats) :
    ¬ plan.AllFree seats :=
  fun free => free.not_mem_bookedSeats asked booked

/-! ## One request after another -/

theorem mem_bookedSeats_reserve (booked : n ∈ plan.bookedSeats) (seats : List SeatNumber) :
    n ∈ (plan.reserve seats).2.bookedSeats := by
  by_cases free : plan.AllFree seats
  · rw [reserve_of_allFree free]
    exact (mem_bookedSeats_bookAll free.isValid).mpr (.inl booked)
  · rw [reserve_of_not_allFree free]
    exact booked

theorem mem_bookedSeats_reserveEach (booked : n ∈ plan.bookedSeats)
    (requests : List (List SeatNumber)) :
    n ∈ (plan.reserveEach requests).bookedSeats := by
  induction requests generalizing plan with
  | nil => exact booked
  | cons seats requests ih => exact ih (mem_bookedSeats_reserve booked seats)

theorem mem_bookedSeats_of_granted (granted : (plan.reserve seats).1 = true) (asked : n ∈ seats) :
    n ∈ (plan.reserve seats).2.bookedSeats := by
  have free := reserve_granted_iff.mp granted
  rw [reserve_of_allFree free]
  exact (mem_bookedSeats_bookAll free.isValid).mpr (.inr asked)

theorem reserveRepeatedly_of_not_allFree (taken : ¬ plan.AllFree seats) (times : Nat) :
    plan.reserveRepeatedly seats times = (0, plan) := by
  induction times with
  | zero => rfl
  | succ times ih =>
      rw [reserveRepeatedly, reserve_of_not_allFree taken]
      simp only [ih, Bool.toNat_false]

/-- Of many equal requests that ask for a seat at all, only the first can be granted. -/
theorem reserveRepeatedly_succ (filled : seats ≠ []) (times : Nat) :
    plan.reserveRepeatedly seats (times + 1) = ((plan.reserve seats).1.toNat,
      (plan.reserve seats).2) := by
  have refused : ¬ (plan.reserve seats).2.AllFree seats := by
    by_cases free : plan.AllFree seats
    · obtain ⟨n, asked⟩ := List.exists_mem_of_ne_nil seats filled
      have granted := reserve_granted_iff.mpr free
      exact not_allFree_of_booked (mem_bookedSeats_of_granted granted asked) asked
    · rwa [reserve_of_not_allFree free]
  rw [reserveRepeatedly]
  simp only [reserveRepeatedly_of_not_allFree refused, Nat.zero_add]

/-- A request is granted if and only if each number in it is that of a free seat. A granted request
    books these seats and nothing else, a refused one changes nothing. From then on every request
    with one of the seats is refused and changes nothing, whatever is asked for in between; so of
    equal requests for some seat at most the first is granted. -/
theorem reserve_contract (plan : SeatPlan) (seats : List SeatNumber) :
    let granted := (plan.reserve seats).1
    let after := (plan.reserve seats).2
    (granted = true ↔ ∀ n ∈ seats, (1 ≤ n.toNat ∧ n.toNat ≤ seatCount) ∧ n ∈ plan.freeSeats) ∧
    (granted = true → plan.Takes seats after) ∧
    (granted = false → after = plan) ∧
    (granted = true → ∀ between again, (∃ n ∈ seats, n ∈ again) →
      (after.reserveEach between).reserve again = (false, after.reserveEach between)) ∧
    (seats ≠ [] → ∀ times, plan.reserveRepeatedly seats (times + 1) = (granted.toNat, after)) := by
  intro granted after
  refine ⟨reserve_granted_iff.trans allFree_iff, fun grant => ?_, fun refusal => ?_, ?_, ?_⟩
  · have free := reserve_granted_iff.mp grant
    have booked : after = plan.bookAll seats := congrArg Prod.snd (reserve_of_allFree free)
    rw [booked]
    exact takes_bookAll free.isValid
  · have taken : ¬ plan.AllFree seats := fun free =>
      Bool.false_ne_true (refusal.symm.trans (reserve_granted_iff.mpr free))
    exact congrArg Prod.snd (reserve_of_not_allFree taken)
  · rintro grant between again ⟨n, asked, shared⟩
    have booked := mem_bookedSeats_reserveEach (mem_bookedSeats_of_granted grant asked) between
    exact reserve_of_not_allFree (not_allFree_of_booked booked shared)
  · exact fun filled times => reserveRepeatedly_succ filled times

/-- Where seat 7 is booked, the seats 3, 20 and 1 are granted although 3 is named twice; seat 20 is
    then refused after requests of others, and so is the same request again. -/
theorem reserve_both_ends :
    let plan := ofBooked [7]
    let after := (plan.reserve [3, 20, 1, 3]).2
    (plan.reserve [3, 20, 1, 3]).1 = true ∧ plan.Takes [3, 20, 1, 3] after ∧
    (plan.reserve [3, 21, 1]).2 = plan ∧
    (after.reserveEach [[4, 7], [5]]).reserve [2, 20] = (false, after.reserveEach [[4, 7], [5]]) ∧
    plan.reserveRepeatedly [3, 20, 1, 3] 16 = (1, after) := by
  have granted : ((ofBooked [7]).reserve [3, 20, 1, 3]).1 = true := by decide +kernel
  have refused : ((ofBooked [7]).reserve [3, 21, 1]).1 = false := by decide +kernel
  obtain ⟨-, takes, -, later, once⟩ := reserve_contract (ofBooked [7]) [3, 20, 1, 3]
  obtain ⟨-, -, unchanged, -⟩ := reserve_contract (ofBooked [7]) [3, 21, 1]
  have repeated := once (by decide) 15
  rw [granted] at repeated
  exact ⟨granted, takes granted, unchanged refused,
    later granted [[4, 7], [5]] [2, 20] ⟨20, by decide⟩, repeated⟩

end BoxOffice.SeatPlan

import BoxOffice.SeatPlan
import Mathlib.Data.List.Sort

/-! # Seat plans seen through their seats

A plan is known by what `isBooked?` says of every number, so a change of a plan is described by what
it does to that answer. Reserving is decided by one condition, every number names a free seat, and
adds exactly the numbers asked for.
-/

namespace BoxOffice

namespace SeatNumber

theorem place?_eq_some {n : SeatNumber} {place : Fin seatCount} :
    n.place? = some place ↔ n.toNat = place + 1 := by
  unfold place?
  split
  · rename_i inside
    simp only [Option.some.injEq, Fin.ext_iff]
    omega
  · rename_i outside
    have := place.isLt
    simp only [reduceCtorEq, false_iff]
    omega

theorem place?_ofNat (place : Fin seatCount) :
    place? (UInt8.ofNat (place + 1)) = some place := by
  have small : (place : Nat) < 20 := place.isLt
  rw [place?_eq_some, UInt8.toNat_ofNat']
  omega

theorem place?_injective {m n : SeatNumber} {place : Fin seatCount}
    (hm : m.place? = some place) (hn : n.place? = some place) : m = n := by
  rw [place?_eq_some] at hm hn
  exact UInt8.toNat_inj.mp (hm.trans hn.symm)

theorem isValid_iff {n : SeatNumber} : n.isValid ↔ 1 ≤ n.toNat ∧ n.toNat ≤ seatCount := by
  unfold isValid place?
  split <;> simp_all

theorem mem_all {n : SeatNumber} : n ∈ all ↔ n.isValid := by
  rw [isValid_iff]
  simp only [all, List.mem_map, List.mem_range]
  constructor
  · rintro ⟨place, small, rfl⟩
    have : place < 20 := small
    rw [UInt8.toNat_ofNat']
    simp only [seatCount]
    omega
  · rintro ⟨low, high⟩
    refine ⟨n.toNat - 1, by omega, ?_⟩
    rw [Nat.sub_add_cancel low, UInt8.ofNat_toNat]

theorem all_pairwise : all.Pairwise (· < ·) := by decide

theorem bytes_pairwise : bytes.Pairwise (· < ·) := by
  rw [bytes, List.pairwise_map]
  refine List.pairwise_lt_range.imp_of_mem fun {i j} hi hj less => ?_
  rw [List.mem_range] at hi hj
  rw [UInt8.lt_iff_toNat_lt, UInt8.toNat_ofNat', UInt8.toNat_ofNat']
  omega

theorem mem_bytes (n : SeatNumber) : n ∈ bytes := by
  simp only [bytes, List.mem_map, List.mem_range]
  exact ⟨n.toNat, n.toNat_lt, UInt8.ofNat_toNat⟩

theorem ascending_pairwise (seats : List SeatNumber) : (ascending seats).Pairwise (· < ·) :=
  bytes_pairwise.filter _

theorem mem_ascending {seats : List SeatNumber} {n : SeatNumber} :
    n ∈ ascending seats ↔ n ∈ seats := by
  simp [ascending, mem_bytes]

/-- An ascending list of distinct numbers is known by its members. -/
theorem eq_of_ascending {first second : List SeatNumber} (hf : first.Pairwise (· < ·))
    (hs : second.Pairwise (· < ·)) (same : ∀ n, n ∈ first ↔ n ∈ second) : first = second :=
  hf.eq_of_mem_iff hs same

end SeatNumber

namespace SeatPlan

theorem isBooked?_eq_none {plan : SeatPlan} {n : SeatNumber} :
    plan.isBooked? n = none ↔ n.isValid = false := by
  simp [isBooked?, SeatNumber.isValid]

theorem isValid_of_isBooked? {plan : SeatPlan} {n : SeatNumber} {booked : Bool}
    (h : plan.isBooked? n = some booked) : n.isValid := by
  cases valid : n.isValid with
  | true => rfl
  | false => rw [isBooked?_eq_none.mpr valid] at h; cases h

theorem ext_isBooked? {plan other : SeatPlan}
    (same : ∀ n, plan.isBooked? n = other.isBooked? n) : plan = other := by
  obtain ⟨booked⟩ := plan
  obtain ⟨others⟩ := other
  congr 1
  apply Vector.ext
  intro place small
  have named := SeatNumber.place?_ofNat ⟨place, small⟩
  have := same (UInt8.ofNat (place + 1))
  simp only [isBooked?, named, Option.map_some, Option.some.injEq] at this
  exact this

theorem isBooked?_mark (plan : SeatPlan) (m n : SeatNumber) (booked : Bool) :
    (plan.mark m booked).2.isBooked? n =
      (plan.isBooked? n).map fun was => if n = m then booked else was := by
  unfold mark isBooked?
  cases hn : n.place? with
  | none => simp
  | some place =>
      cases hm : m.place? with
      | none =>
          have different : n ≠ m := by rintro rfl; simp [hn] at hm
          simp [different]
      | some other =>
          by_cases same : other = place
          · subst same
            simp [SeatNumber.place?_injective hn hm]
          · have different : n ≠ m := by rintro rfl; simp_all
            have apart : (other : Nat) ≠ place := fun h => same (Fin.ext h)
            simp [different, Vector.getElem_set, apart]

theorem isBooked?_book (plan : SeatPlan) (m n : SeatNumber) :
    (plan.book m).2.isBooked? n = (plan.isBooked? n).map (· || n == m) := by
  rw [book, isBooked?_mark]
  congr 1
  funext was
  by_cases same : n = m <;> simp [same]

theorem isBooked?_release (plan : SeatPlan) (m n : SeatNumber) :
    (plan.release m).2.isBooked? n = (plan.isBooked? n).map (· && n != m) := by
  rw [release, isBooked?_mark]
  congr 1
  funext was
  by_cases same : n = m <;> simp [same]

theorem isBooked?_bookAll (plan : SeatPlan) (seats : List SeatNumber) (n : SeatNumber) :
    (plan.bookAll seats).isBooked? n = (plan.isBooked? n).map (· || seats.contains n) := by
  unfold bookAll
  induction seats generalizing plan with
  | nil => simp
  | cons m rest ih =>
      rw [List.foldl_cons, ih, isBooked?_book, Option.map_map]
      congr 1
      funext booked
      simp only [Function.comp_apply, List.contains_cons, Bool.or_assoc]

theorem mem_bookedSeats {plan : SeatPlan} {n : SeatNumber} :
    n ∈ plan.bookedSeats ↔ plan.isBooked? n = some true := by
  simp only [bookedSeats, List.mem_filter, SeatNumber.mem_all, beq_iff_eq, and_iff_right_iff_imp]
  exact isValid_of_isBooked?

theorem mem_freeSeats {plan : SeatPlan} {n : SeatNumber} :
    n ∈ plan.freeSeats ↔ plan.isBooked? n = some false := by
  simp only [freeSeats, List.mem_filter, SeatNumber.mem_all, beq_iff_eq, and_iff_right_iff_imp]
  exact isValid_of_isBooked?

theorem not_mem_freeSeats {plan : SeatPlan} {n : SeatNumber} (booked : n ∈ plan.bookedSeats) :
    n ∉ plan.freeSeats := by
  intro free
  rw [mem_freeSeats, mem_bookedSeats.mp booked] at free
  cases free

theorem isBooked?_releaseAll (plan : SeatPlan) (seats : List SeatNumber) (n : SeatNumber) :
    (plan.releaseAll seats).isBooked? n = (plan.isBooked? n).map (· && !seats.contains n) := by
  unfold releaseAll
  induction seats generalizing plan with
  | nil => simp
  | cons m rest ih =>
      rw [List.foldl_cons, ih, isBooked?_release, Option.map_map]
      congr 1
      funext booked
      simp only [Function.comp_apply, List.contains_cons, Bool.not_or, Bool.and_assoc, bne]

theorem isBooked?_full (n : SeatNumber) :
    full.isBooked? n = if n.isValid then some true else none := by
  unfold isBooked? SeatNumber.isValid
  cases n.place? <;> simp [full]

/-- A plan is the full one with its free seats freed. -/
theorem releaseAll_freeSeats (plan : SeatPlan) : full.releaseAll plan.freeSeats = plan := by
  apply ext_isBooked?
  intro n
  rw [isBooked?_releaseAll, isBooked?_full]
  cases is : plan.isBooked? n with
  | none => simp [isBooked?_eq_none.mp is]
  | some booked =>
      have member : n ∈ plan.freeSeats ↔ booked = false := by rw [mem_freeSeats, is]; simp
      cases booked <;> simp_all [isValid_of_isBooked? is]

theorem bookedSeats_pairwise (plan : SeatPlan) : plan.bookedSeats.Pairwise (· < ·) :=
  SeatNumber.all_pairwise.filter _

theorem eq_of_bookedSeats {plan other : SeatPlan}
    (same : ∀ n, n ∈ plan.bookedSeats ↔ n ∈ other.bookedSeats) : plan = other := by
  apply ext_isBooked?
  intro n
  have same := same n
  rw [mem_bookedSeats, mem_bookedSeats] at same
  cases valid : n.isValid with
  | false => rw [isBooked?_eq_none.mpr valid, isBooked?_eq_none.mpr valid]
  | true =>
      cases first : plan.isBooked? n with
      | none => simp [isBooked?_eq_none.mp first] at valid
      | some b =>
          cases second : other.isBooked? n with
          | none => simp [isBooked?_eq_none.mp second] at valid
          | some c => cases b <;> cases c <;> simp_all

/-! ## Reserving -/

/-- Every number of the list names a free seat. -/
def AllFree (plan : SeatPlan) (seats : List SeatNumber) : Prop :=
  ∀ n ∈ seats, plan.isBooked? n = some false

theorem reserve_of_allFree {plan : SeatPlan} {seats : List SeatNumber}
    (h : plan.AllFree seats) : plan.reserve seats = (true, plan.bookAll seats) := by
  unfold reserve
  rw [if_pos (by simpa [AllFree] using h)]

theorem reserve_of_not_allFree {plan : SeatPlan} {seats : List SeatNumber}
    (h : ¬ plan.AllFree seats) : plan.reserve seats = (false, plan) := by
  unfold reserve
  rw [if_neg (by simpa [AllFree] using h)]

theorem mem_bookedSeats_bookAll {plan : SeatPlan} {seats : List SeatNumber}
    (valid : ∀ n ∈ seats, n.isValid) {n : SeatNumber} :
    n ∈ (plan.bookAll seats).bookedSeats ↔ n ∈ plan.bookedSeats ∨ n ∈ seats := by
  rw [mem_bookedSeats, mem_bookedSeats, isBooked?_bookAll]
  cases before : plan.isBooked? n with
  | none =>
      have invalid := isBooked?_eq_none.mp before
      simp only [Option.map_none, reduceCtorEq, false_or, false_iff]
      intro member
      simp [valid n member] at invalid
  | some booked => simp

theorem AllFree.isValid {plan : SeatPlan} {seats : List SeatNumber} (h : plan.AllFree seats) :
    ∀ n ∈ seats, n.isValid :=
  fun n member => isValid_of_isBooked? (h n member)

theorem AllFree.not_mem_bookedSeats {plan : SeatPlan} {seats : List SeatNumber}
    (h : plan.AllFree seats) {n : SeatNumber} (member : n ∈ seats) : n ∉ plan.bookedSeats := by
  rw [mem_bookedSeats, h n member]
  simp

/-- Seats of the hall are not all free if one of them is booked, and only then. -/
theorem not_allFree_iff {plan : SeatPlan} {seats : List SeatNumber}
    (valid : ∀ n ∈ seats, n.isValid) :
    ¬ plan.AllFree seats ↔ ∃ n ∈ seats, n ∈ plan.bookedSeats := by
  constructor
  · intro taken
    by_contra none_booked
    apply taken
    intro n member
    cases before : plan.isBooked? n with
    | none =>
        have inside := valid n member
        simp [isBooked?_eq_none.mp before] at inside
    | some booked =>
        cases booked with
        | false => rfl
        | true => exact absurd ⟨n, member, mem_bookedSeats.mpr before⟩ none_booked
  · rintro ⟨n, member, booked⟩ free
    exact free.not_mem_bookedSeats member booked

/-- The seats booked in a plan and not before, in ascending order. -/
def added (before after : SeatPlan) : List SeatNumber :=
  after.bookedSeats.filter (· ∉ before.bookedSeats)

theorem mem_added {before after : SeatPlan} {n : SeatNumber} :
    n ∈ before.added after ↔ n ∈ after.bookedSeats ∧ n ∉ before.bookedSeats := by
  simp [added]

theorem added_pairwise (before after : SeatPlan) : (before.added after).Pairwise (· < ·) :=
  (bookedSeats_pairwise after).filter _

/-- Booking free seats adds just these, each once. -/
theorem added_bookAll {plan : SeatPlan} {seats : List SeatNumber} (free : plan.AllFree seats) :
    plan.added (plan.bookAll seats) = SeatNumber.ascending seats := by
  apply SeatNumber.eq_of_ascending (added_pairwise ..) (SeatNumber.ascending_pairwise seats)
  intro n
  rw [mem_added, mem_bookedSeats_bookAll free.isValid, SeatNumber.mem_ascending]
  constructor
  · rintro ⟨before | asked, fresh⟩
    · exact absurd before fresh
    · exact asked
  · intro asked
    exact ⟨.inr asked, free.not_mem_bookedSeats asked⟩

theorem exists_bookAll {plan other : SeatPlan}
    (more : ∀ n ∈ plan.bookedSeats, n ∈ other.bookedSeats) :
    ∃ seats, plan.AllFree seats ∧ plan.bookAll seats = other := by
  have free : plan.AllFree (plan.added other) := by
    intro n member
    obtain ⟨booked, was_free⟩ := mem_added.mp member
    rw [mem_bookedSeats] at booked was_free
    cases before : plan.isBooked? n with
    | none =>
        have valid := isValid_of_isBooked? booked
        simp [isBooked?_eq_none.mp before] at valid
    | some b => cases b <;> simp_all
  refine ⟨plan.added other, free, ?_⟩
  apply eq_of_bookedSeats
  intro n
  rw [mem_bookedSeats_bookAll free.isValid, mem_added]
  by_cases before : n ∈ plan.bookedSeats
  · simp [before, more n before]
  · simp [before]

end SeatPlan

end BoxOffice

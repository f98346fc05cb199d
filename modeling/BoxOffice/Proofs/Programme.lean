import BoxOffice.Programme.Interleaving
import BoxOffice.Proofs.SeatPlan

/-! # Programmes under bookings

The names and dates of a programme never change, so the position that two names mean never changes
either. What a booking changes is one seat plan, and there it only adds booked seats: `GrowsTo` is
the order in which every programme stands to those it can become.
-/

namespace BoxOffice.Programme

/-- What is on: the names and the date of each show. -/
def bill (p : Programme) : List (Text × Text × Text) := p.map fun s => (s.theater, s.movie, s.date)

theorem getElem?_bill (p : Programme) (i : Nat) :
    p.bill[i]? = p[i]?.map fun s => (s.theater, s.movie, s.date) := by
  simp only [bill, List.getElem?_map]

theorem length_eq_of_bill {p q : Programme} (same : q.bill = p.bill) : q.length = p.length := by
  simpa only [bill, List.length_map] using congrArg List.length same

/-- Programmes of one bill have a show at the same positions, under the same names. -/
theorem show_of_bill {p q : Programme} (same : q.bill = p.bill) {i : Nat} {s : Show}
    (h : p[i]? = some s) :
    ∃ s', q[i]? = some s' ∧ s'.theater = s.theater ∧ s'.movie = s.movie ∧ s'.date = s.date := by
  have at_i := congrArg (·[i]?) same
  simp only [getElem?_bill, h, Option.map_some] at at_i
  obtain ⟨s', found, names⟩ := Option.map_eq_some_iff.mp at_i
  simp only [Prod.mk.injEq] at names
  exact ⟨s', found, names⟩

theorem eq_of_bill {p q : Programme} (same : q.bill = p.bill)
    (plans : ∀ (i : Nat) (s s' : Show), p[i]? = some s → q[i]? = some s' → s'.seats = s.seats) :
    q = p := by
  apply List.ext_getElem?
  intro i
  cases h : p[i]? with
  | none =>
      rw [List.getElem?_eq_none_iff] at h ⊢
      rw [length_eq_of_bill same]
      exact h
  | some s =>
      obtain ⟨s', found, theater, movie, date⟩ := show_of_bill same h
      have seats := plans i s s' h found
      rw [found]
      cases s
      cases s'
      simp_all

/-! ## Changing one seat plan -/

theorem getElem?_setSeats (p : Programme) (i j : Nat) (plan : SeatPlan) :
    (p.setSeats i plan)[j]? =
      if i = j then p[j]?.map (fun s => { s with seats := plan }) else p[j]? := by
  rw [setSeats, List.getElem?_modify]
  split <;> simp

theorem bill_setSeats (p : Programme) (i : Nat) (plan : SeatPlan) :
    (p.setSeats i plan).bill = p.bill := by
  apply List.ext_getElem?
  intro j
  rw [getElem?_bill, getElem?_bill, getElem?_setSeats]
  split
  · cases p[j]? <;> rfl
  · rfl

theorem setSeats_self {p : Programme} {i : Nat} {s : Show} (h : p[i]? = some s) :
    p.setSeats i s.seats = p := by
  apply List.ext_getElem?
  intro j
  rw [getElem?_setSeats]
  split
  · rename_i same
    subst same
    simp [h]
  · rfl

/-! ## The show two names mean -/

theorem isCalled_iff {s : Show} {theater movie : Text} :
    s.isCalled theater movie ↔ s.theater = theater ∧ s.movie = movie := by
  simp [Show.isCalled]

theorem position?_eq_some {p : Programme} {theater movie : Text} {i : Nat} :
    p.position? theater movie = some i ↔
      (∃ s, p[i]? = some s ∧ s.theater = theater ∧ s.movie = movie) ∧
        ∀ j < i, ∀ s, p[j]? = some s → ¬ (s.theater = theater ∧ s.movie = movie) := by
  rw [position?, List.findIdx?_eq_some_iff_getElem]
  constructor
  · rintro ⟨small, called, first⟩
    refine ⟨⟨p[i], List.getElem?_eq_getElem small, isCalled_iff.mp called⟩, ?_⟩
    intro j less s found
    have inside : j < p.length := by omega
    have same : p[j] = s := by simpa [List.getElem?_eq_getElem inside] using found
    have := first j less
    rw [same, isCalled_iff] at this
    exact this
  · rintro ⟨⟨s, found, called⟩, first⟩
    obtain ⟨small, rfl⟩ := List.getElem?_eq_some_iff.mp found
    refine ⟨small, isCalled_iff.mpr called, fun j less => ?_⟩
    rw [isCalled_iff]
    exact first j less _ (List.getElem?_eq_getElem (by omega))

theorem position?_eq_none {p : Programme} {theater movie : Text} :
    p.position? theater movie = none ↔ ∀ s ∈ p, ¬ (s.theater = theater ∧ s.movie = movie) := by
  rw [position?, List.findIdx?_eq_none_iff]
  simp only [← Bool.not_eq_true, isCalled_iff]

theorem exists_show_of_position? {p : Programme} {theater movie : Text} {i : Nat}
    (h : p.position? theater movie = some i) :
    ∃ s, p[i]? = some s ∧ s.theater = theater ∧ s.movie = movie :=
  (position?_eq_some.mp h).1

theorem find_eq (p : Programme) (theater movie : Text) :
    p.find theater movie = (p.position? theater movie).bind (p[·]?) := by
  induction p with
  | nil => rfl
  | cons s rest ih =>
      rw [find] at ih
      rw [find, position?, List.find?_cons, List.findIdx?_cons]
      cases s.isCalled theater movie with
      | true => rfl
      | false =>
          rw [ih, position?]
          cases List.findIdx? (fun s : Show => s.isCalled theater movie) rest <;> rfl

theorem position?_of_bill {p q : Programme} (same : q.bill = p.bill) (theater movie : Text) :
    q.position? theater movie = p.position? theater movie := by
  have through (r : Programme) : r.position? theater movie =
      r.bill.findIdx? fun names => names.1 == theater && names.2.1 == movie := by
    rw [bill, List.findIdx?_map]
    rfl
  rw [through, through, same]

/-! ## The order of announcement -/

theorem theaters_of_bill {p q : Programme} (same : q.bill = p.bill) : q.theaters = p.theaters := by
  have names (r : Programme) : r.map (·.theater) = r.bill.map (·.1) := by
    rw [bill, List.map_map]
    rfl
  rw [theaters_eq, theaters_eq, names, names, same]

theorem mem_theaters {p : Programme} {theater : Text} :
    theater ∈ p.theaters ↔ ∃ s ∈ p, s.theater = theater := by
  have gathered (l : List Show) (seen : List Text) :
      theater ∈ l.foldl
          (fun seen s => if seen.contains s.theater then seen else seen ++ [s.theater]) seen ↔
        theater ∈ seen ∨ ∃ s ∈ l, s.theater = theater := by
    induction l generalizing seen with
    | nil => simp
    | cons s rest ih =>
        rw [List.foldl_cons, ih, List.exists_mem_cons_iff, ← or_assoc]
        apply or_congr_left
        split
        · rename_i old
          rw [List.contains_iff_mem] at old
          constructor
          · exact .inl
          · rintro (member | rfl)
            · exact member
            · exact old
        · rw [List.mem_append, List.mem_singleton, eq_comm (a := theater)]
  rw [theaters, gathered]
  simp only [List.not_mem_nil, false_or]

theorem theater_of_mem_showsAt {p : Programme} {theater : Text} {s : Show}
    (member : s ∈ p.showsAt theater) :
    s.theater = theater :=
  beq_iff_eq.mp (List.mem_filter.mp member).2

theorem mem_positions {p : Programme} {i : Nat} : i ∈ p.positions ↔ i < p.length := by
  simp only [positions, List.mem_flatMap, positionsAt, List.mem_filter, List.mem_range]
  constructor
  · rintro ⟨theater, -, inside, -⟩
    exact inside
  · intro inside
    refine ⟨p[i].theater, mem_theaters.mpr ⟨p[i], List.getElem_mem inside, rfl⟩, inside, ?_⟩
    simp only [List.getElem?_eq_getElem inside, Option.any_some, beq_self_eq_true]

/-! ## Reserving at a position -/

theorem reserveAt_of_allFree {p : Programme} {i : Nat} {s : Show} {seats : List SeatNumber}
    (h : p[i]? = some s) (free : s.seats.AllFree seats) :
    p.reserveAt i seats = (true, p.setSeats i (s.seats.bookAll seats)) := by
  simp only [reserveAt, h, SeatPlan.reserve_of_allFree free]

theorem reserveAt_of_not_allFree {p : Programme} {i : Nat} {s : Show} {seats : List SeatNumber}
    (h : p[i]? = some s) (taken : ¬ s.seats.AllFree seats) : p.reserveAt i seats = (false, p) := by
  simp only [reserveAt, h, SeatPlan.reserve_of_not_allFree taken, setSeats_self h]

theorem reserveAt_of_none {p : Programme} {i : Nat} (seats : List SeatNumber)
    (h : p[i]? = none) : p.reserveAt i seats = (false, p) := by
  simp only [reserveAt, h]

/-! ## Growth -/

/-- The same shows, and no seat that was booked is free again. -/
structure GrowsTo (p q : Programme) : Prop where
  bill : q.bill = p.bill
  keeps : ∀ (i : Nat) (s s' : Show), p[i]? = some s → q[i]? = some s' →
    ∀ n ∈ s.seats.bookedSeats, n ∈ s'.seats.bookedSeats

theorem GrowsTo.refl (p : Programme) : p.GrowsTo p where
  bill := rfl
  keeps := by
    intro i s s' before after n booked
    rw [before] at after
    cases after
    exact booked

theorem GrowsTo.trans {p q r : Programme} (first : p.GrowsTo q) (second : q.GrowsTo r) :
    p.GrowsTo r where
  bill := second.bill.trans first.bill
  keeps := by
    intro i s s'' before after n booked
    obtain ⟨s', between, -⟩ := show_of_bill first.bill before
    exact second.keeps i s' s'' between after n (first.keeps i s s' before between n booked)

theorem GrowsTo.antisymm {p q : Programme} (there : p.GrowsTo q) (back : q.GrowsTo p) : q = p := by
  apply eq_of_bill there.bill
  intro i s s' before after
  apply SeatPlan.eq_of_bookedSeats
  intro n
  exact ⟨back.keeps i s' s after before n, there.keeps i s s' before after n⟩

theorem growsTo_setSeats_bookAll {p : Programme} {i : Nat} {s : Show} {seats : List SeatNumber}
    (h : p[i]? = some s) (free : s.seats.AllFree seats) :
    p.GrowsTo (p.setSeats i (s.seats.bookAll seats)) where
  bill := bill_setSeats ..
  keeps := by
    intro j t t' before after n booked
    rw [getElem?_setSeats] at after
    split at after
    · rename_i same
      subst same
      rw [h] at before
      cases before
      simp only [h, Option.map_some, Option.some.injEq] at after
      subst after
      exact (SeatPlan.mem_bookedSeats_bookAll free.isValid).mpr (.inl booked)
    · rw [before] at after
      cases after
      exact booked

theorem growsTo_reserveAt (p : Programme) (i : Nat) (seats : List SeatNumber) :
    p.GrowsTo (p.reserveAt i seats).2 := by
  cases h : p[i]? with
  | none => rw [reserveAt_of_none seats h]; exact .refl p
  | some s =>
      by_cases free : s.seats.AllFree seats
      · rw [reserveAt_of_allFree h free]
        exact growsTo_setSeats_bookAll h free
      · rw [reserveAt_of_not_allFree h free]
        exact .refl p

end BoxOffice.Programme

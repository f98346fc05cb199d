import BoxOffice.Proofs.Reply
import BoxOffice.Proofs.Run

/-! # What overlapping bookings see

Other bookings make their steps between those of one booking, so what an answer shows was looked at
show by show. Every look finds its show as it is at that moment, and a seat that was seen booked
stays booked: what a booking has seen so far can only grow to what the programme has become.
-/

namespace BoxOffice

namespace Booking

def result? : Booking → Option (Except Refusal Request)
  | .reserving .. => none
  | .looking result .. => some result

/-- A booking that begins is refused whatever the seat plans are, or has found its show. -/
inductive Begins (p : Programme) (message : Text) : Booking → Prop where
  | refused {refusal : Refusal}
      (always : ∀ q : Programme, q.bill = p.bill → q.book message = (.error refusal, q)) :
      Begins p message (decided p (.error refusal))
  | found {request : Request} {i : Nat} (read : Request.parse message = .ok request)
      (found : p.position? request.theater request.movie = some i) :
      Begins p message (.reserving request i)

theorem begins (p : Programme) (message : Text) : Begins p message (begin p message) := by
  unfold begin
  cases read : Request.parse message with
  | error refusal =>
      apply Begins.refused
      intro q same
      simp only [Programme.book, read]
  | ok request =>
      cases found : p.position? request.theater request.movie with
      | none =>
          simp only [found]
          apply Begins.refused
          intro q same
          rw [← Programme.position?_of_bill same] at found
          simp only [Programme.book, read, Programme.reserve, found]
      | some i =>
          simp only [found]
          exact .found read found

end Booking

namespace Programme

/-- What reserving at a position comes to, for the request that found it. -/
def attempt (p : Programme) (request : Request) (i : Nat) : Except Refusal Request :=
  if (p.reserveAt i request.seats).1 then .ok request else .error .seatsTaken

theorem book_of_position? {p : Programme} {message : Text} {request : Request} {i : Nat}
    (read : Request.parse message = .ok request)
    (found : p.position? request.theater request.movie = some i) :
    p.book message = (p.attempt request i, (p.reserveAt i request.seats).2) := by
  simp only [book, read, reserve, found, attempt]
  cases (p.reserveAt i request.seats).1 <;> rfl

theorem booked_of_attempt {p : Programme} {request granted : Request} {i : Nat}
    (success : p.attempt request i = .ok granted) :
    granted = request ∧ ∃ s, (p.reserveAt i request.seats).2[i]? = some s ∧
      ∀ n ∈ request.seats, n ∈ s.seats.bookedSeats := by
  unfold attempt at success
  split at success
  · rename_i done
    cases success
    refine ⟨rfl, ?_⟩
    cases here : p[i]? with
    | none => simp [reserveAt_of_none _ here] at done
    | some s =>
        by_cases free : s.seats.AllFree request.seats
        · rw [reserveAt_of_allFree here free]
          refine ⟨_, by rw [getElem?_setSeats, if_pos rfl, here, Option.map_some], ?_⟩
          intro n asked
          exact (SeatPlan.mem_bookedSeats_bookAll free.isValid).mpr (.inr asked)
        · simp [reserveAt_of_not_allFree here free] at done
  · cases success

/-! ## Looking at one show -/

theorem getElem?_lookAt {p now : Programme} {i j : Nat} {s : Show} (here : now[i]? = some s) :
    (p.lookAt now i)[j]? =
      if i = j then p[j]?.map (fun t => { t with seats := s.seats }) else p[j]? := by
  simp only [lookAt, here, getElem?_setSeats]

theorem getElem?_lookAt_self {p now : Programme} {i : Nat} (same : now.bill = p.bill) :
    (p.lookAt now i)[i]? = now[i]? := by
  cases here : now[i]? with
  | none => 
      have short := length_eq_of_bill same
      rw [List.getElem?_eq_none_iff] at here
      simp [lookAt, here, short ▸ here]
  | some s => 
      obtain ⟨t, before, theater, movie, date⟩ := show_of_bill same.symm here
      rw [getElem?_lookAt here, if_pos rfl, before, Option.map_some]
      cases s
      cases t
      simp_all

theorem getElem?_lookAt_ne {p now : Programme} {i j : Nat} (apart : i ≠ j) :
    (p.lookAt now i)[j]? = p[j]? := by
  unfold lookAt
  split
  · rw [getElem?_setSeats, if_neg apart]
  · rfl

theorem bill_lookAt (p now : Programme) (i : Nat) : (p.lookAt now i).bill = p.bill := by
  unfold lookAt
  split
  · exact bill_setSeats ..
  · rfl

/-- After a look every show is as it is now or as it was seen before. -/
theorem getElem?_lookAt_or {p now : Programme} (same : now.bill = p.bill) (i j : Nat) :
    (p.lookAt now i)[j]? = now[j]? ∨ (p.lookAt now i)[j]? = p[j]? := by
  by_cases here : i = j
  · subst here
    exact .inl (getElem?_lookAt_self same)
  · exact .inr (getElem?_lookAt_ne here)

theorem GrowsTo.lookAt {p now : Programme} (grows : p.GrowsTo now) (i : Nat) :
    p.GrowsTo (p.lookAt now i) ∧ (p.lookAt now i).GrowsTo now := by
  have between := getElem?_lookAt_or grows.bill i
  constructor
  · refine ⟨bill_lookAt .., fun j s s' before after n booked => ?_⟩
    rcases between j with seen | unseen
    · rw [seen] at after
      exact grows.keeps j s s' before after n booked
    · rw [unseen, before] at after
      cases after
      exact booked
  · refine ⟨grows.bill.trans (bill_lookAt ..).symm, fun j s s' before after n booked => ?_⟩
    rcases between j with seen | unseen
    · rw [seen, after] at before
      cases before
      exact booked
    · rw [unseen] at before
      exact grows.keeps j s s' before after n booked

end Programme

namespace Rush

/-- All an event can do. -/
inductive Steps (r : Rush) : Event → Rush → Prop where
  | begin (message : Text) :
      Steps r (.begin message)
        ⟨r.programme, r.bookings ++ [.begin r.programme message], r.attempts⟩
  | reserve {n : Nat} {request : Request} {i : Nat}
      (turn : r.bookings[n]? = some (.reserving request i)) :
      Steps r (.proceed n)
        ⟨(r.programme.reserveAt i request.seats).2,
          r.bookings.set n
            (.decided (r.programme.reserveAt i request.seats).2 (r.programme.attempt request i)),
          r.attempts ++ [n]⟩
  | look {n : Nat} {result : Except Refusal Request} {seen : Programme} {i : Nat}
      {unseen : List Nat} (turn : r.bookings[n]? = some (.looking result seen (i :: unseen))) :
      Steps r (.proceed n)
        ⟨r.programme, r.bookings.set n (.looking result (seen.lookAt r.programme i) unseen),
          r.attempts⟩

theorem steps_of_step? {r r' : Rush} {e : Event} (h : r.step? e = some r') : r.Steps e r' := by
  cases e with
  | begin message =>
      cases h
      exact .begin message
  | proceed n =>
      cases turn : r.bookings[n]? with
      | none => simp [step?, turn] at h
      | some booking =>
          cases booking with
          | reserving request i =>
              simp only [step?, turn, Option.bind_eq_bind, Option.bind_some, Booking.step?] at h
              cases h
              exact .reserve turn
          | looking result seen unseen =>
              cases unseen with
              | nil => simp [step?, turn, Booking.step?] at h
              | cons i unseen =>
                  simp only [step?, turn, Option.bind_eq_bind, Option.bind_some, Booking.step?] at h
                  cases h
                  exact .look turn

theorem Steps.growsTo {r r' : Rush} {e : Event} (h : r.Steps e r') :
    r.programme.GrowsTo r'.programme := by
  cases h with
  | begin | look => exact .refl _
  | reserve => exact Programme.growsTo_reserveAt ..

/-! ## Runs -/

def Event.message? : Event → Option Text
  | .begin message => some message
  | .proceed _ => none

/-- The messages of all bookings, each at the place of its booking. -/
def begun (events : List Event) : List Text := events.filterMap Event.message?

theorem runs : Runs step? run? where
  nil := by intro r; rfl
  cons := by intro r e rest; rfl

theorem run_induction {start : Rush} {motive : List Event → Rush → Prop} (first : motive [] start)
    (next : ∀ events r e r', start.run? events = some r → motive events r → r.Steps e r' →
      motive (events ++ [e]) r') {events : List Event} {r : Rush}
    (run : start.run? events = some r) : motive events r := by
  refine runs.induction first ?_ run
  intro events r e r' before holds step
  exact next events r e r' before holds (steps_of_step? step)

theorem growsTo_run {r r' : Rush} {events : List Event} (run : r.run? events = some r') :
    r.programme.GrowsTo r'.programme := by
  refine run_induction (motive := fun _ now => r.programme.GrowsTo now.programme) (.refl _) ?_ run
  intro events between e r' _ grows step
  exact grows.trans step.growsTo

theorem begun_append_begin (events : List Event) (message : Text) :
    begun (events ++ [.begin message]) = begun events ++ [message] := by
  simp only [begun, List.filterMap_append, List.filterMap_cons, Event.message?, List.filterMap_nil]

theorem begun_append_proceed (events : List Event) (n : Nat) :
    begun (events ++ [.proceed n]) = begun events := by
  simp only [begun, List.filterMap_append, List.filterMap_cons, Event.message?, List.filterMap_nil,
    List.append_nil]

theorem bill_of_run {p : Programme} {events : List Event} {r : Rush}
    (run : (idle p).run? events = some r) : r.programme.bill = p.bill := (growsTo_run run).bill

theorem length_bookings {p : Programme} {events : List Event} {r : Rush}
    (run : (idle p).run? events = some r) : r.bookings.length = (begun events).length := by
  refine run_induction (motive := fun events r => r.bookings.length = (begun events).length)
    rfl ?_ run
  intro events r e r' _ same step
  cases step with
  | begin message => simp only [begun_append_begin, List.length_append, List.length_singleton, same]
  | reserve | look => rw [begun_append_proceed, List.length_set, same]

/-- A booking that is still to reserve has found the show that its message means. -/
theorem waiting_of_run {p : Programme} {events : List Event} {r : Rush} {n : Nat}
    {request : Request} {i : Nat} (run : (idle p).run? events = some r)
    (turn : r.bookings[n]? = some (.reserving request i)) :
    ∃ message, (begun events)[n]? = some message ∧ Request.parse message = .ok request ∧
      p.position? request.theater request.movie = some i := by
  refine run_induction (motive := fun events r => ∀ n request i,
    r.bookings[n]? = some (.reserving request i) →
      ∃ message, (begun events)[n]? = some message ∧ Request.parse message = .ok request ∧
        p.position? request.theater request.movie = some i) ?_ ?_ run n request i turn
  · intro n request i turn
    cases turn
  · intro events r e r' run waiting step n request i turn
    -- an event moves one booking; that one is just begun, or it is not waiting any more
    cases step with
    | begin message =>
        rw [begun_append_begin]
        rcases of_getElem?_append turn with old | ⟨rfl, begins⟩
        · obtain ⟨message', there, found⟩ := waiting n request i old
          obtain ⟨inside, -⟩ := List.getElem?_eq_some_iff.mp there
          exact ⟨message', by rw [List.getElem?_append_left inside, there], found⟩
        · refine ⟨message, by rw [length_bookings run, List.getElem?_concat_length], ?_⟩
          have begun := Booking.begins r.programme message
          rw [← begins] at begun
          cases begun with
          | found read found =>
              rw [Programme.position?_of_bill (bill_of_run run)] at found
              exact ⟨read, found⟩
    | reserve =>
        rw [begun_append_proceed]
        rcases of_getElem?_set turn with ⟨old, -⟩ | ⟨rfl, moved⟩
        · exact waiting n request i old
        · cases moved
    | look =>
        rw [begun_append_proceed]
        rcases of_getElem?_set turn with ⟨old, -⟩ | ⟨rfl, moved⟩
        · exact waiting n request i old
        · cases moved

/-! ## Looks -/

/-- Event `k` of a run is a look of booking `n`, decided and not yet answered, at the show at
    position `i`, which at that moment is `s`. -/
def Looked (p : Programme) (events : List Event) (k n i : Nat) (s : Show) : Prop :=
  ∃ r result seen unseen, Moment run? (idle p) events k r (.proceed n) ∧
    r.bookings[n]? = some (.looking result seen (i :: unseen)) ∧ r.programme[i]? = some s

theorem Looked.append {p : Programme} {events : List Event} {k n i : Nat} {s : Show}
    (h : Looked p events k n i s) (after : List Event) : Looked p (events ++ after) k n i s := by
  obtain ⟨r, result, seen, unseen, moment, turn, here⟩ := h
  exact ⟨r, result, seen, unseen, moment.append after, turn, here⟩

/-- A later look at a show never finds a seat free that an earlier one found booked. -/
theorem Looked.keeps {p : Programme} {events : List Event} {k₁ k₂ n₁ n₂ i : Nat} {s₁ s₂ : Show}
    (earlier : Looked p events k₁ n₁ i s₁) (later : Looked p events k₂ n₂ i s₂) (order : k₁ ≤ k₂) :
    ∀ n ∈ s₁.seats.bookedSeats, n ∈ s₂.seats.bookedSeats := by
  obtain ⟨r₁, -, -, -, first, -, here₁⟩ := earlier
  obtain ⟨r₂, -, -, -, second, -, here₂⟩ := later
  obtain ⟨meanwhile, run⟩ := first.between runs second order
  exact (growsTo_run run).keeps i s₁ s₂ here₁ here₂

/-- What a decided booking has seen: nothing newer than the programme now, every show as it was when
    it was looked at, and the seats it was granted as booked. -/
structure Sees (p : Programme) (events : List Event) (now : Programme) (n : Nat)
    (result : Except Refusal Request) (seen : Programme) (unseen : List Nat) : Prop where
  grows : seen.GrowsTo now
  looked : ∀ (i : Nat) (s : Show), i ∉ unseen → seen[i]? = some s →
    ∃ k, Looked p events k n i s
  own : ∀ request, result = .ok request →
    ∃ i s, p.position? request.theater request.movie = some i ∧ seen[i]? = some s ∧
      ∀ seat ∈ request.seats, seat ∈ s.seats.bookedSeats

theorem Sees.step {p now now' : Programme} {events : List Event} {n : Nat} {e : Event}
    {result : Except Refusal Request} {seen : Programme} {unseen : List Nat}
    (h : Sees p events now n result seen unseen) (grows : now.GrowsTo now') :
    Sees p (events ++ [e]) now' n result seen unseen where
  grows := h.grows.trans grows
  looked := by
    intro i s old there
    obtain ⟨k, looked⟩ := h.looked i s old there
    exact ⟨k, looked.append [e]⟩
  own := h.own

/-- A booking that was just decided has looked at nothing: all shows are still to be looked at. -/
theorem Sees.of_decided {p now : Programme} {events : List Event} {n : Nat}
    {result : Except Refusal Request}
    (own : ∀ request, result = .ok request →
      ∃ i s, p.position? request.theater request.movie = some i ∧ now[i]? = some s ∧
        ∀ seat ∈ request.seats, seat ∈ s.seats.bookedSeats) :
    Sees p events now n result now now.positions where
  grows := .refl now
  looked := by
    intro i s old there
    obtain ⟨inside, -⟩ := List.getElem?_eq_some_iff.mp there
    exact absurd (Programme.mem_positions.mpr inside) old
  own := own

theorem Sees.look {p : Programme} {events : List Event} {r : Rush} {n i : Nat}
    {result : Except Refusal Request} {seen : Programme} {unseen : List Nat}
    (run : (idle p).run? events = some r)
    (turn : r.bookings[n]? = some (.looking result seen (i :: unseen)))
    (h : Sees p events r.programme n result seen (i :: unseen)) :
    Sees p (events ++ [.proceed n]) r.programme n result (seen.lookAt r.programme i) unseen where
  grows := (h.grows.lookAt i).2
  looked := by
    intro j s old there
    by_cases same : i = j
    · subst same
      rw [Programme.getElem?_lookAt_self h.grows.bill] at there
      exact ⟨events.length, r, result, seen, unseen, .last run _, turn, there⟩
    · rw [Programme.getElem?_lookAt_ne same] at there
      have before : j ∉ i :: unseen := by
        rw [List.mem_cons, not_or]
        exact ⟨Ne.symm same, old⟩
      obtain ⟨k, looked⟩ := h.looked j s before there
      exact ⟨k, looked.append _⟩
  own := by
    intro request granted
    obtain ⟨j, s, found, there, booked⟩ := h.own request granted
    have grows := (h.grows.lookAt i).1
    obtain ⟨s', now, -⟩ := Programme.show_of_bill grows.bill there
    refine ⟨j, s', found, now, ?_⟩
    intro seat asked
    exact grows.keeps j s s' there now seat (booked seat asked)

theorem sees_of_run {p : Programme} {events : List Event} {r : Rush} {n : Nat}
    {result : Except Refusal Request} {seen : Programme} {unseen : List Nat}
    (run : (idle p).run? events = some r)
    (turn : r.bookings[n]? = some (.looking result seen unseen)) :
    Sees p events r.programme n result seen unseen := by
  refine run_induction (motive := fun events r => ∀ n result seen unseen,
    r.bookings[n]? = some (.looking result seen unseen) →
      Sees p events r.programme n result seen unseen) ?_ ?_ run n result seen unseen turn
  · intro n result seen unseen turn
    cases turn
  · intro events r e r' run sees step n result seen unseen turn
    have grows := step.growsTo
    cases step with
    | begin message =>
        rcases of_getElem?_append turn with old | ⟨rfl, begins⟩
        · exact (sees n result seen unseen old).step grows
        · have begun := Booking.begins r.programme message
          rw [← begins] at begun
          cases begun with
          | refused =>
              apply Sees.of_decided
              intro request granted
              cases granted
    | @reserve m request i before =>
        rcases of_getElem?_set turn with ⟨old, -⟩ | ⟨rfl, moved⟩
        · exact (sees n result seen unseen old).step grows
        · cases moved
          apply Sees.of_decided
          intro granted success
          obtain ⟨rfl, s, there, booked⟩ := Programme.booked_of_attempt success
          obtain ⟨message, -, -, found⟩ := waiting_of_run run before
          exact ⟨i, s, found, there, booked⟩
    | look before =>
        rcases of_getElem?_set turn with ⟨old, -⟩ | ⟨rfl, moved⟩
        · exact (sees n result seen unseen old).step grows
        · cases moved
          have looked := Sees.look run before (sees _ _ _ _ before)
          exact looked

end Rush

end BoxOffice

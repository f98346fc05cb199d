import BoxOffice.Proofs.Rush
import BoxOffice.Scenario

/-! # Overlapping bookings, one after another

Bookings whose steps overlap come to what they come to one after another, in the order in which they
made their attempts to reserve. A booking that made no attempt was refused for its message alone, so
it can stand anywhere in that order.
-/

namespace BoxOffice

namespace Programme

/-- Bookings carried out one after another: what each comes to, and the programme after them. -/
def bookInTurn (p : Programme) : List Text → List (Except Refusal Request) × Programme
  | [] => ([], p)
  | message :: rest =>
      let (result, p) := p.book message
      let (results, p) := p.bookInTurn rest
      (result :: results, p)

theorem bookInTurn_cons (p : Programme) (message : Text) (rest : List Text) :
    p.bookInTurn (message :: rest) =
      ((p.book message).1 :: ((p.book message).2.bookInTurn rest).1,
        ((p.book message).2.bookInTurn rest).2) := rfl

theorem bookInTurn_append (p : Programme) (before after : List Text) :
    p.bookInTurn (before ++ after) =
      ((p.bookInTurn before).1 ++ ((p.bookInTurn before).2.bookInTurn after).1,
        ((p.bookInTurn before).2.bookInTurn after).2) := by
  induction before generalizing p with
  | nil => rfl
  | cons message rest ih =>
      rw [List.cons_append, bookInTurn_cons, bookInTurn_cons, ih, List.cons_append]

/-- Bookings answered one after another, and the programme after them. -/
def processInTurn (p : Programme) : List Text → List Reply × Programme
  | [] => ([], p)
  | message :: rest =>
      let (reply, p) := p.process message
      let (replies, p) := p.processInTurn rest
      (reply :: replies, p)

theorem announce_ofBooking (result : Except Refusal Request) (seen : Programme) :
    (Reply.ofBooking result seen).announce = result.isOk := by
  cases result <;> rfl

theorem processInTurn_eq (p : Programme) (messages : List Text) :
    (p.processInTurn messages).1.map (·.announce) = (p.bookInTurn messages).1.map (·.isOk) ∧
      (p.processInTurn messages).2 = (p.bookInTurn messages).2 := by
  induction messages generalizing p with
  | nil => exact ⟨rfl, rfl⟩
  | cons message rest ih =>
      obtain ⟨flags, last⟩ := ih (p.book message).2
      refine ⟨?_, last⟩
      simp only [processInTurn, process, List.map_cons, announce_ofBooking, flags, bookInTurn_cons]

/-- Bookings that come to the same on every programme of one bill, and leave it alone, can be put
    anywhere among the others. -/
theorem bookInTurn_of_filter {p q : Programme} {message? : Nat → Option Text}
    {result? : Nat → Option (Except Refusal Request)} (keep : Nat → Bool) {order : List Nat}
    (known : ∀ n ∈ order, ∃ message result, message? n = some message ∧ result? n = some result ∧
      (keep n = false → ∀ now : Programme, now.bill = p.bill → now.book message = (result, now)))
    (kept : p.bookInTurn ((order.filter keep).filterMap message?) =
      ((order.filter keep).filterMap result?, q)) :
    p.bookInTurn (order.filterMap message?) = (order.filterMap result?, q) := by
  -- a booking that is carried out leaves the bill as it was, so what is put aside stays so
  induction order generalizing p with
  | nil => exact kept
  | cons n rest ih =>
      obtain ⟨message, result, isMessage, isResult, aside⟩ := known n List.mem_cons_self
      have others (now : Programme) (same : now.bill = p.bill) : ∀ m ∈ rest,
          ∃ message result, message? m = some message ∧ result? m = some result ∧
            (keep m = false → ∀ later : Programme, later.bill = now.bill →
              later.book message = (result, later)) := by
        intro m member
        rw [same]
        exact known m (List.mem_cons_of_mem n member)
      rw [List.filterMap_cons_some isMessage, List.filterMap_cons_some isResult]
      cases kind : keep n with
      | false =>
          rw [List.filter_cons_of_neg (by simp [kind])] at kept
          rw [bookInTurn_cons, aside kind p rfl, ih (others p rfl) kept]
      | true =>
          rw [List.filter_cons_of_pos kind, List.filterMap_cons_some isMessage,
            List.filterMap_cons_some isResult, bookInTurn_cons] at kept
          simp only [Prod.mk.injEq, List.cons.injEq] at kept
          obtain ⟨⟨first, results⟩, last⟩ := kept
          have bill : (p.book message).2.bill = p.bill := (p.books message).growsTo.bill
          rw [bookInTurn_cons, ih (others _ bill) (Prod.ext results last), first]

end Programme

namespace Rush

def result? (r : Rush) (n : Nat) : Option (Except Refusal Request) :=
  r.bookings[n]?.bind Booking.result?

def reply? (r : Rush) (n : Nat) : Option Reply := r.bookings[n]?.bind Booking.reply?

/-- The decided bookings, each once, those that made an attempt in the order of their attempts. -/
structure IsOrder (r : Rush) (order : List Nat) : Prop where
  nodup : order.Nodup
  decided : ∀ n, n ∈ order ↔ (r.result? n).isSome
  attempts : order.filter (· ∈ r.attempts) = r.attempts

/-- The attempts so far are bookings one after another, and whoever was decided without an attempt
    was refused for the message alone. -/
structure InTurn (p : Programme) (events : List Event) (r : Rush) : Prop where
  decided : ∀ n ∈ r.attempts, (r.result? n).isSome
  nodup : r.attempts.Nodup
  aside : ∀ n result, r.result? n = some result → n ∉ r.attempts →
    ∃ message, (begun events)[n]? = some message ∧
      ∀ q : Programme, q.bill = p.bill → q.book message = (result, q)
  serial : p.bookInTurn (r.attempts.filterMap ((begun events)[·]?)) =
    (r.attempts.filterMap r.result?, r.programme)

/-! ## One event -/

theorem result?_begun (r : Rush) (b : Booking) (p : Programme) (attempts : List Nat) (n : Nat) :
    result? ⟨p, r.bookings ++ [b], attempts⟩ n =
      if n = r.bookings.length then b.result? else r.result? n := by
  simp only [result?, List.getElem?_append]
  by_cases inside : n < r.bookings.length
  · rw [if_pos inside, if_neg (by omega)]
  · rw [if_neg inside, List.getElem?_singleton]
    by_cases last : n = r.bookings.length
    · rw [if_pos (by omega), if_pos last, Option.bind_some]
    · rw [if_neg (by omega), if_neg last, List.getElem?_eq_none (by omega)]

theorem result?_moved {r : Rush} {m : Nat} {before : Booking} (turn : r.bookings[m]? = some before)
    (b : Booking) (p : Programme) (attempts : List Nat) (n : Nat) :
    result? ⟨p, r.bookings.set m b, attempts⟩ n = if m = n then b.result? else r.result? n := by
  obtain ⟨inside, -⟩ := List.getElem?_eq_some_iff.mp turn
  simp only [result?, List.getElem?_set, inside, if_true]
  split <;> rfl

theorem lt_length_of_result? {r : Rush} {n : Nat} (decided : (r.result? n).isSome) :
    n < r.bookings.length := by
  obtain ⟨result, known⟩ := Option.isSome_iff_exists.mp decided
  obtain ⟨booking, there, -⟩ := Option.bind_eq_some_iff.mp known
  exact (List.getElem?_eq_some_iff.mp there).1

theorem InTurn.begin {p : Programme} {events : List Event} {r : Rush}
    (run : (idle p).run? events = some r) (h : InTurn p events r) (message : Text) :
    InTurn p (events ++ [.begin message])
      ⟨r.programme, r.bookings ++ [.begin r.programme message], r.attempts⟩ := by
  have lengths := length_bookings run
  have inside (n : Nat) (member : n ∈ r.attempts) : n < r.bookings.length :=
    lt_length_of_result? (h.decided n member)
  refine ⟨?_, h.nodup, ?_, ?_⟩
  · intro n member
    have apart := inside n member
    rw [result?_begun, if_neg (by omega)]
    exact h.decided n member
  · intro n result known other
    rw [begun_append_begin]
    rw [result?_begun] at known
    split at known
    · rename_i last
      subst last
      refine ⟨message, by rw [lengths, List.getElem?_concat_length], ?_⟩
      have begun := Booking.begins r.programme message
      generalize Booking.begin r.programme message = b at known begun
      cases begun with
      | refused always =>
          cases known
          intro q same
          exact always q (same.trans (bill_of_run run).symm)
      | found => cases known
    · obtain ⟨message', there, always⟩ := h.aside n result known other
      obtain ⟨small, -⟩ := List.getElem?_eq_some_iff.mp there
      exact ⟨message', by rw [List.getElem?_append_left small, there], always⟩
  · have messages : r.attempts.filterMap ((begun (events ++ [.begin message]))[·]?) =
        r.attempts.filterMap ((begun events)[·]?) := by
      apply List.filterMap_congr
      intro n member
      rw [begun_append_begin, List.getElem?_append_left (lengths ▸ inside n member)]
    have results : r.attempts.filterMap (result?
        ⟨r.programme, r.bookings ++ [.begin r.programme message], r.attempts⟩) =
        r.attempts.filterMap r.result? := by
      apply List.filterMap_congr
      intro n member
      have apart := inside n member
      rw [result?_begun, if_neg (by omega)]
    rw [messages, results]
    exact h.serial

theorem InTurn.reserve {p : Programme} {events : List Event} {r : Rush} {m : Nat}
    {request : Request} {i : Nat} (run : (idle p).run? events = some r) (h : InTurn p events r)
    (turn : r.bookings[m]? = some (.reserving request i)) :
    InTurn p (events ++ [.proceed m])
      ⟨(r.programme.reserveAt i request.seats).2,
        r.bookings.set m
          (.decided (r.programme.reserveAt i request.seats).2 (r.programme.attempt request i)),
        r.attempts ++ [m]⟩ := by
  have undecided : r.result? m = none := by rw [result?, turn, Option.bind_some, Booking.result?]
  have first : m ∉ r.attempts := by
    intro member
    have decided := h.decided m member
    rw [undecided] at decided
    cases decided
  have apart (n : Nat) (member : n ∈ r.attempts) : m ≠ n := by
    intro same
    exact first (same ▸ member)
  refine ⟨?_, ?_, ?_, ?_⟩
  · intro n member
    rw [result?_moved turn]
    split
    · rfl
    · rename_i other
      rw [List.mem_append, List.mem_singleton] at member
      rcases member with member | same
      · exact h.decided n member
      · exact absurd same.symm other
  · rw [List.nodup_append]
    refine ⟨h.nodup, List.nodup_singleton m, ?_⟩
    intro n member k last
    rw [List.mem_singleton] at last
    rw [last]
    exact (apart n member).symm
  · intro n result known other
    rw [List.mem_append, List.mem_singleton, not_or] at other
    rw [result?_moved turn, if_neg (Ne.symm other.2)] at known
    rw [begun_append_proceed]
    exact h.aside n result known other.1
  · obtain ⟨message, there, read, found⟩ := waiting_of_run run turn
    rw [← Programme.position?_of_bill (bill_of_run run)] at found
    have booked := Programme.book_of_position? read found
    have results : r.attempts.filterMap (result?
        ⟨(r.programme.reserveAt i request.seats).2,
          r.bookings.set m
            (.decided (r.programme.reserveAt i request.seats).2 (r.programme.attempt request i)),
          r.attempts ++ [m]⟩) = r.attempts.filterMap r.result? := by
      apply List.filterMap_congr
      intro n member
      rw [result?_moved turn, if_neg (apart n member)]
    rw [begun_append_proceed, List.filterMap_append, List.filterMap_append, results,
      Programme.bookInTurn_append, h.serial]
    simp only [List.filterMap_cons, there, List.filterMap_nil, result?_moved turn, if_true,
      Programme.bookInTurn, booked, Booking.decided, Booking.result?]

theorem InTurn.look {p : Programme} {events : List Event} {r : Rush} {m i : Nat}
    {result : Except Refusal Request} {seen : Programme} {unseen : List Nat}
    (h : InTurn p events r) (turn : r.bookings[m]? = some (.looking result seen (i :: unseen))) :
    InTurn p (events ++ [.proceed m])
      ⟨r.programme, r.bookings.set m (.looking result (seen.lookAt r.programme i) unseen),
        r.attempts⟩ := by
  have same : result? ⟨r.programme,
      r.bookings.set m (.looking result (seen.lookAt r.programme i) unseen), r.attempts⟩ =
      r.result? := by
    funext n
    rw [result?_moved turn]
    split
    · rename_i here
      rw [← here, result?, turn, Option.bind_some, Booking.result?, Booking.result?]
    · rfl
  constructor
  case decided => rw [same]; exact h.decided
  case nodup => exact h.nodup
  case aside => rw [same, begun_append_proceed]; exact h.aside
  case serial => rw [same, begun_append_proceed]; exact h.serial

theorem inTurn_of_run {p : Programme} {events : List Event} {r : Rush}
    (run : (idle p).run? events = some r) : InTurn p events r := by
  refine run_induction (motive := InTurn p) ?_ ?_ run
  · constructor
    case decided => intro n member; cases member
    case nodup => exact List.nodup_nil
    case aside => intro n result known; cases known
    case serial => rfl
  · intro events r e r' run before step
    cases step with
    | begin message => exact before.begin run message
    | reserve turn => exact before.reserve run turn
    | look turn => exact before.look turn

/-! ## Orders -/

theorem IsOrder.serial {p : Programme} {events : List Event} {r : Rush} {order : List Nat}
    (run : (idle p).run? events = some r) (h : r.IsOrder order) :
    p.bookInTurn (order.filterMap ((begun events)[·]?)) =
      (order.filterMap r.result?, r.programme) := by
  have inTurn := inTurn_of_run run
  apply Programme.bookInTurn_of_filter (fun n => decide (n ∈ r.attempts))
  · intro n member
    have decided := (h.decided n).mp member
    obtain ⟨result, known⟩ := Option.isSome_iff_exists.mp decided
    by_cases attempted : n ∈ r.attempts
    · have inside : n < (begun events).length := length_bookings run ▸ lt_length_of_result? decided
      refine ⟨(begun events)[n], result, List.getElem?_eq_getElem inside, known, ?_⟩
      intro other
      exact absurd attempted (of_decide_eq_false other)
    · obtain ⟨message, there, always⟩ := inTurn.aside n result known attempted
      exact ⟨message, result, there, known, fun _ => always⟩
  · rw [h.attempts]
    exact inTurn.serial

/-- Whoever made no attempt can come last. -/
theorem exists_isOrder {p : Programme} {events : List Event} {r : Rush}
    (run : (idle p).run? events = some r) : ∃ order, r.IsOrder order := by
  have inTurn := inTurn_of_run run
  let aside := (List.range r.bookings.length).filter fun n =>
    (r.result? n).isSome && !decide (n ∈ r.attempts)
  have mem_aside (n : Nat) : n ∈ aside ↔ (r.result? n).isSome ∧ n ∉ r.attempts := by
    simp only [aside, List.mem_filter, List.mem_range, Bool.and_eq_true, Bool.not_eq_true',
      decide_eq_false_iff_not, and_iff_right_iff_imp]
    intro known
    exact lt_length_of_result? known.1
  refine ⟨r.attempts ++ aside, ?_, ?_, ?_⟩
  · rw [List.nodup_append]
    refine ⟨inTurn.nodup, List.nodup_range.filter _, ?_⟩
    intro n attempted m last same
    exact ((mem_aside m).mp last).2 (same ▸ attempted)
  · intro n
    rw [List.mem_append, mem_aside]
    constructor
    · intro member
      rcases member with attempted | ⟨decided, -⟩
      · exact inTurn.decided n attempted
      · exact decided
    · intro decided
      by_cases attempted : n ∈ r.attempts
      · exact .inl attempted
      · exact .inr ⟨decided, attempted⟩
  · have kept : r.attempts.filter (· ∈ r.attempts) = r.attempts := by
      rw [List.filter_eq_self]
      intro n attempted
      exact decide_eq_true attempted
    have dropped : aside.filter (· ∈ r.attempts) = [] := by
      rw [List.filter_eq_nil_iff]
      intro n last attempted
      exact ((mem_aside n).mp last).2 (of_decide_eq_true attempted)
    rw [List.filter_append, kept, dropped, List.append_nil]

theorem reply?_eq_some {r : Rush} {n : Nat} {reply : Reply} :
    r.reply? n = some reply ↔
      ∃ result seen, r.bookings[n]? = some (.looking result seen []) ∧
        reply = .ofBooking result seen := by
  constructor
  · intro answered
    obtain ⟨booking, there, known⟩ := Option.bind_eq_some_iff.mp answered
    cases booking with
    | reserving => cases known
    | looking result seen unseen =>
        cases unseen with
        | nil =>
            cases known
            exact ⟨result, seen, there, rfl⟩
        | cons => cases known
  · intro ⟨result, seen, there, same⟩
    rw [reply?, there, Option.bind_some, Booking.reply?, same]

/-- What an answer tells: the result of its booking, and every show as it was at one moment after
    the booking was decided and before it was answered. -/
structure Answers (p : Programme) (events : List Event) (n : Nat) (reply : Reply)
    (result : Except Refusal Request) (seen : Programme) : Prop where
  told : reply = .ofBooking result seen
  announce : reply.announce = result.isOk
  printed : Snapshot.render .initial seen <:+ reply.text
  bill : seen.bill = p.bill
  looked : ∀ (i : Nat) (s : Show), seen[i]? = some s → ∃ k, Looked p events k n i s
  own : ∀ request, result = .ok request →
    ∃ i s, p.position? request.theater request.movie = some i ∧ seen[i]? = some s ∧
      ∀ seat ∈ request.seats, seat ∈ s.seats.bookedSeats ∧ seat ∉ s.seats.freeSeats

theorem answers_of_run {p : Programme} {events : List Event} {r : Rush} {n : Nat} {reply : Reply}
    (run : (idle p).run? events = some r) (answered : r.reply? n = some reply) :
    ∃ result seen, r.result? n = some result ∧ Answers p events n reply result seen := by
  obtain ⟨result, seen, there, rfl⟩ := reply?_eq_some.mp answered
  have sees := sees_of_run run there
  refine ⟨result, seen, ?_, ?_⟩
  · rw [result?, there, Option.bind_some, Booking.result?]
  · constructor
    case told => rfl
    case announce => exact Programme.announce_ofBooking result seen
    case printed => cases result <;> exact List.suffix_append ..
    case bill => exact sees.grows.bill.symm.trans (bill_of_run run)
    case looked => intro i s there; exact sees.looked i s List.not_mem_nil there
    case own =>
      intro request granted
      obtain ⟨i, s, found, there, booked⟩ := sees.own request granted
      refine ⟨i, s, found, there, ?_⟩
      intro seat asked
      exact ⟨booked seat asked, SeatPlan.not_mem_freeSeats (booked seat asked)⟩

/-- However the steps of bookings overlap, the results and the seat plans are those of the same
    bookings one after another in the order of their attempts. An answer shows every show as it was
    at some moment after its booking was decided, and no later look shows a booked seat as free. -/
theorem overlap_in_turn {p : Programme} {events : List Event} {r : Rush}
    (run : (idle p).run? events = some r) :
    (∃ order, r.IsOrder order) ∧
    (∀ order, r.IsOrder order →
      let messages := order.filterMap ((begun events)[·]?)
      p.bookInTurn messages = (order.filterMap r.result?, r.programme) ∧
      (p.processInTurn messages).1.map (·.announce) = (order.filterMap r.result?).map (·.isOk) ∧
      (p.processInTurn messages).2 = r.programme) ∧
    (∀ n reply, r.reply? n = some reply →
      ∃ result seen, r.result? n = some result ∧ Answers p events n reply result seen) ∧
    ∀ k₁ k₂ n₁ n₂ i s₁ s₂, Looked p events k₁ n₁ i s₁ → Looked p events k₂ n₂ i s₂ → k₁ ≤ k₂ →
      ∀ seat ∈ s₁.seats.bookedSeats, seat ∈ s₂.seats.bookedSeats := by
  refine ⟨exists_isOrder run, ?_, ?_, ?_⟩
  · intro order isOrder messages
    have serial : p.bookInTurn messages = _ := isOrder.serial run
    obtain ⟨flags, last⟩ := p.processInTurn_eq messages
    rw [serial] at flags last
    exact ⟨serial, flags, last⟩
  · intro n reply answered
    exact answers_of_run run answered
  · intro k₁ k₂ n₁ n₂ i s₁ s₂ earlier later order
    exact earlier.keeps later order

/-- Two bookings that want one seat. The second to begin makes the first attempt, and both look only
    after both attempts. -/
def photoFinish : List Event :=
  [.begin "PVR,Inception,2", .begin "PVR,Inception,1,2", .proceed 1, .proceed 0, .proceed 0,
    .proceed 1]

def photoFinished : Rush := ((idle .single).run? photoFinish).get (by decide +kernel)

theorem isOrder_photoFinished : photoFinished.IsOrder [1, 0] where
  nodup := by decide
  decided := by
    intro n
    constructor
    · intro member
      have small : n = 1 ∨ n = 0 := by simpa using member
      rcases small with rfl | rfl <;> decide +kernel
    · intro decided
      have inside := lt_length_of_result? decided
      have both : photoFinished.bookings.length = 2 := by decide +kernel
      have small : n = 1 ∨ n = 0 := by omega
      simpa using small
  attempts := by decide +kernel

theorem photoFinish_in_turn :
    (idle .single).run? photoFinish = some photoFinished ∧
    (Programme.single.bookInTurn ["PVR,Inception,1,2", "PVR,Inception,2"]).2 =
      photoFinished.programme ∧
    ∃ reply result seen, photoFinished.reply? 1 = some reply ∧
      Answers .single photoFinish 1 reply result seen := by
  have run : (idle .single).run? photoFinish = some photoFinished := (Option.some_get _).symm
  obtain ⟨-, serial, answers, -⟩ := overlap_in_turn run
  have answered : (photoFinished.reply? 1).isSome := by decide +kernel
  obtain ⟨reply, told⟩ := Option.isSome_iff_exists.mp answered
  obtain ⟨result, seen, -, shown⟩ := answers 1 reply told
  have inTurn := congrArg Prod.snd (serial [1, 0] isOrder_photoFinished).1
  exact ⟨run, inTurn, reply, result, seen, told, shown⟩

end Rush

end BoxOffice

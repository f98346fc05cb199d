import BoxOffice.Proofs.Reply

/-! # What is sold over a sequence of messages

Messages are answered one after another, and each answer that begins with the success mark is a
sale: seats of one show. No seat is sold twice and none that was booked before. What can be sold at
all is known from the bill: the first show of its names, if the names can be written in a request.
-/

namespace BoxOffice.Programme

structure Sale where
  position : Nat
  seats : List SeatNumber
  deriving Repr, DecidableEq

/-- What the answer to a message sells. Only an answer that begins with the success mark sells. -/
def sale? (p : Programme) (message : Text) : Option Sale :=
  match Reply.bookingResult? (p.route message).1.text, Request.parse message with
  | some true, .ok r =>
      (p.position? r.theater r.movie).map fun position => ⟨position, r.seatsAscending⟩
  | _, _ => none

def serve (p : Programme) : List Text → Programme
  | [] => p
  | message :: rest => (p.route message).2.serve rest

def answers (p : Programme) : List Text → List Reply
  | [] => []
  | message :: rest => (p.route message).1 :: (p.route message).2.answers rest

/-- What the answers to messages sell, in their order. -/
def sales (p : Programme) : List Text → List Sale
  | [] => []
  | message :: rest => (p.sale? message).toList ++ (p.route message).2.sales rest

/-- No request can mean the show: an earlier show has its names, or a name holds a comma. -/
def Unsellable (p : Programme) (i : Nat) (s : Show) : Prop :=
  (∃ j < i, ∃ e : Show, p[j]? = some e ∧ e.theater = s.theater ∧ e.movie = s.movie) ∨
    ',' ∈ s.theater ∨ ',' ∈ s.movie

/-! ## One message -/

/-- The answer that sells nothing, and the answer that sells. -/
inductive Sells (p : Programme) (message : Text) : Option Sale → Programme → Prop where
  | nothing : Sells p message none p
  | seats {r : Request} {i : Nat} {s : Show} (readable : r.Readable)
      (found : p.position? r.theater r.movie = some i) (here : p[i]? = some s)
      (free : s.seats.AllFree r.seats) :
      Sells p message (some ⟨i, r.seatsAscending⟩) (p.setSeats i (s.seats.bookAll r.seats))

theorem sells (p : Programme) (message : Text) :
    p.Sells message (p.sale? message) (p.route message).2 := by
  have routed := p.routes message
  unfold sale?
  generalize p.route message = answered at routed ⊢
  obtain ⟨reply, q⟩ := answered
  dsimp only at routed ⊢
  cases routed with
  | snapshot =>
      rw [Reply.bookingResult?_snapshot]
      exact .nothing
  | echo =>
      rw [Reply.bookingResult?_echo]
      exact .nothing
  | booking _ books =>
      rw [Reply.bookingResult?_ofBooking]
      cases books with
      | unread | noShow | taken => exact .nothing
      | granted read found here free =>
          simp only [Except.isOk, Except.toBool, read, found, Option.map_some]
          exact .seats (Request.readable_of_parse read) found here free

theorem isSome_sale? (p : Programme) (message : Text) :
    (p.sale? message).isSome ↔ Reply.bookingResult? (p.route message).1.text = some true := by
  have routed := p.routes message
  unfold sale?
  generalize p.route message = answered at routed ⊢
  obtain ⟨reply, q⟩ := answered
  dsimp only at routed ⊢
  cases routed with
  | snapshot => simp [Reply.bookingResult?_snapshot]
  | echo => simp [Reply.bookingResult?_echo]
  | booking _ books =>
      rw [Reply.bookingResult?_ofBooking]
      cases books with
      | unread | noShow | taken => simp [Except.isOk, Except.toBool]
      | granted read found => simp [Except.isOk, Except.toBool, read, found]

theorem Sells.growsTo {p q : Programme} {message : Text} {sale : Option Sale}
    (h : p.Sells message sale q) : p.GrowsTo q := by
  cases h with
  | nothing => exact .refl p
  | seats _ _ here free => exact growsTo_setSeats_bookAll here free

theorem Sells.was_free {p q : Programme} {message : Text} {sale : Sale}
    (h : p.Sells message (some sale) q) {s : Show} (here : p[sale.position]? = some s) :
    ∀ n ∈ sale.seats, n ∉ s.seats.bookedSeats := by
  cases h with
  | seats _ _ here' free =>
      intro n sold
      rw [here'] at here
      cases here
      exact free.not_mem_bookedSeats (SeatNumber.mem_ascending.mp sold)

theorem Sells.are_booked {p q : Programme} {message : Text} {sale : Sale}
    (h : p.Sells message (some sale) q) :
    ∃ s', q[sale.position]? = some s' ∧ ∀ n ∈ sale.seats, n ∈ s'.seats.bookedSeats := by
  cases h with
  | @seats r i s _ _ here free =>
      refine ⟨{ s with seats := s.seats.bookAll r.seats }, ?_, ?_⟩
      · rw [getElem?_setSeats, if_pos rfl, here, Option.map_some]
      · intro n sold
        rw [SeatPlan.mem_bookedSeats_bookAll free.isValid]
        exact .inr (SeatNumber.mem_ascending.mp sold)

/-- A sale adds its seats to the booked ones, of its own show only. -/
theorem Sells.mem_bookedSeats {p q : Programme} {message : Text} {sale : Option Sale}
    (h : p.Sells message sale q) {i : Nat} {s s' : Show} (before : p[i]? = some s)
    (after : q[i]? = some s') (n : SeatNumber) :
    n ∈ s'.seats.bookedSeats ↔
      n ∈ s.seats.bookedSeats ∨ ∃ sold ∈ sale, sold.position = i ∧ n ∈ sold.seats := by
  cases h with
  | nothing =>
      rw [before] at after
      cases after
      simp
  | @seats r k t readable found here free =>
      simp only [Option.mem_def, Option.some.injEq, exists_eq_left']
      rw [getElem?_setSeats] at after
      split at after
      · rename_i same
        subst same
        rw [here] at before
        cases before
        simp only [here, Option.map_some, Option.some.injEq] at after
        subst after
        rw [SeatPlan.mem_bookedSeats_bookAll free.isValid, Request.seatsAscending,
          SeatNumber.mem_ascending]
        simp
      · rename_i apart
        rw [before] at after
        cases after
        simp [apart]

theorem Sells.unsellable {p q : Programme} {message : Text} {sale : Option Sale}
    (h : p.Sells message sale q) {i : Nat} {s : Show} (here : p[i]? = some s)
    (unsellable : p.Unsellable i s) : q[i]? = some s := by
  cases h with
  | nothing => exact here
  | @seats r k t readable found here' free =>
      rw [getElem?_setSeats, if_neg, here]
      rintro rfl
      obtain ⟨⟨_, at_k, theater, movie⟩, first⟩ := position?_eq_some.mp found
      rw [here] at at_k
      cases at_k
      rcases unsellable with ⟨j, less, e, earlier, names⟩ | comma | comma
      · exact first j less e earlier (by rwa [theater, movie] at names)
      · exact readable.theater (theater ▸ comma)
      · exact readable.movie (movie ▸ comma)

theorem unsellable_of_bill {p q : Programme} (same : q.bill = p.bill) {i : Nat} {s : Show}
    (h : p.Unsellable i s) : q.Unsellable i s := by
  rcases h with ⟨j, less, e, earlier, theater, movie⟩ | comma
  · obtain ⟨e', found, theater', movie', -⟩ := show_of_bill same earlier
    exact .inl ⟨j, less, e', found, theater'.trans theater, movie'.trans movie⟩
  · exact .inr comma

/-! ## Many messages -/

theorem growsTo_serve (p : Programme) (messages : List Text) : p.GrowsTo (p.serve messages) := by
  induction messages generalizing p with
  | nil => exact .refl p
  | cons message rest ih => exact (p.sells message).growsTo.trans (ih _)

theorem serve_append (p : Programme) (first second : List Text) :
    p.serve (first ++ second) = (p.serve first).serve second := by
  induction first generalizing p with
  | nil => rfl
  | cons message rest ih => exact ih _

/-- No sale of a run has a seat that was booked before the run. -/
theorem sales_were_free (p : Programme) (messages : List Text) {s : Show} :
    ∀ sale ∈ p.sales messages, p[sale.position]? = some s →
      sale.seats.Disjoint s.seats.bookedSeats := by
  induction messages generalizing p s with
  | nil => simp [sales]
  | cons message rest ih =>
      intro sale member here
      have step := p.sells message
      simp only [sales, List.mem_append, Option.mem_toList] at member
      rcases member with now | later
      · rw [Option.mem_def.mp now] at step
        exact fun n sold => step.was_free here n sold
      · have grows := step.growsTo
        obtain ⟨s', here', -⟩ := show_of_bill grows.bill here
        intro n sold booked
        exact ih _ sale later here' sold (grows.keeps _ _ _ here here' n booked)

theorem mem_bookedSeats_serve (p : Programme) (messages : List Text) {i : Nat} {s s' : Show}
    (before : p[i]? = some s) (after : (p.serve messages)[i]? = some s') (n : SeatNumber) :
    n ∈ s'.seats.bookedSeats ↔
      n ∈ s.seats.bookedSeats ∨ ∃ sale ∈ p.sales messages, sale.position = i ∧ n ∈ sale.seats := by
  induction messages generalizing p s with
  | nil =>
      rw [serve, before] at after
      cases after
      simp [sales]
  | cons message rest ih =>
      have step := p.sells message
      obtain ⟨t, between, -⟩ := show_of_bill step.growsTo.bill before
      rw [ih _ between after, step.mem_bookedSeats before between, sales]
      simp only [List.mem_append, Option.mem_toList, Option.mem_def, or_assoc, or_and_right,
        exists_or]

/-- No seat of a show is sold twice. -/
theorem sales_pairwise (p : Programme) (messages : List Text) :
    (p.sales messages).Pairwise fun earlier later =>
      earlier.position = later.position → earlier.seats.Disjoint later.seats := by
  induction messages generalizing p with
  | nil => exact .nil
  | cons message rest ih =>
      rw [sales, List.pairwise_append]
      refine ⟨?_, ih _, ?_⟩
      · cases p.sale? message <;> simp
      · intro earlier now later member same n sold again
        have step := p.sells message
        rw [Option.mem_toList.mp now] at step
        -- What was just sold is booked from now on, and later sales sell free seats only.
        obtain ⟨s', here', booked⟩ := step.are_booked
        rw [same] at here'
        exact sales_were_free _ rest later member here' again (booked n sold)

theorem serve_unsellable (p : Programme) (messages : List Text) {i : Nat} {s : Show}
    (here : p[i]? = some s) (unsellable : p.Unsellable i s) :
    (p.serve messages)[i]? = some s := by
  induction messages generalizing p with
  | nil => exact here
  | cons message rest ih =>
      have step := p.sells message
      exact ih _ (step.unsellable here unsellable) (unsellable_of_bill step.growsTo.bill unsellable)

/-! ## Whatever can be sold -/

theorem position?_of_sellable {p : Programme} {i : Nat} {s : Show} (here : p[i]? = some s)
    (sellable : ¬ p.Unsellable i s) : p.position? s.theater s.movie = some i := by
  rw [position?_eq_some]
  refine ⟨⟨s, here, rfl, rfl⟩, ?_⟩
  intro j less e earlier names
  exact sellable (.inl ⟨j, less, e, earlier, names⟩)

/-- One message sells any free seats of a show that can be sold. -/
theorem exists_serve_setSeats {p : Programme} {i : Nat} {s : Show} (here : p[i]? = some s)
    (sellable : ¬ p.Unsellable i s) {plan : SeatPlan}
    (more : ∀ n ∈ s.seats.bookedSeats, n ∈ plan.bookedSeats) :
    ∃ messages, p.serve messages = p.setSeats i plan := by
  obtain ⟨added, free, filled⟩ := SeatPlan.exists_bookAll more
  by_cases nothing : added = []
  · refine ⟨[], ?_⟩
    subst nothing
    rw [← filled]
    exact (setSeats_self here).symm
  · let r : Request := ⟨s.theater, s.movie, added⟩
    have readable : r.Readable :=
      ⟨fun comma => sellable (.inr (.inl comma)), fun comma => sellable (.inr (.inr comma)),
        nothing, free.isValid⟩
    have read := Request.parse_print readable
    have found : p.position? r.theater r.movie = some i := position?_of_sellable here sellable
    refine ⟨[r.print], ?_⟩
    rw [serve, serve, route_of_parse read, book_of_allFree read found here free, filled]

/-- Messages bring the first `k` shows of `p` to what they are in `q` and leave the others alone. -/
def ReachesUpTo (p q : Programme) (k : Nat) : Prop :=
  ∃ messages, ∀ j : Nat, (p.serve messages)[j]? = if j < k then q[j]? else p[j]?

theorem ReachesUpTo.of_same {p q : Programme} {k : Nat} (h : p.ReachesUpTo q k)
    (same : q[k]? = p[k]?) : p.ReachesUpTo q (k + 1) := by
  obtain ⟨messages, so_far⟩ := h
  refine ⟨messages, fun j => ?_⟩
  rw [so_far j]
  rcases Nat.lt_trichotomy j k with less | rfl | greater
  · rw [if_pos less, if_pos (by omega)]
  · simp [same]
  · rw [if_neg (by omega), if_neg (by omega)]

theorem ReachesUpTo.of_sellable {p q : Programme} {k : Nat} (h : p.ReachesUpTo q k)
    (grows : p.GrowsTo q) {s : Show} (here : p[k]? = some s) (sellable : ¬ p.Unsellable k s) :
    p.ReachesUpTo q (k + 1) := by
  obtain ⟨messages, so_far⟩ := h
  have bill := (p.growsTo_serve messages).bill
  have now : (p.serve messages)[k]? = some s := by simp [so_far k, here]
  obtain ⟨s', target, theater, movie, date⟩ := show_of_bill grows.bill here
  have still : ¬ (p.serve messages).Unsellable k s :=
    fun unsellable => sellable (unsellable_of_bill bill.symm unsellable)
  obtain ⟨more, reached⟩ := exists_serve_setSeats now still (grows.keeps k s s' here target)
  refine ⟨messages ++ more, fun j => ?_⟩
  rw [serve_append, reached, getElem?_setSeats, so_far j]
  rcases Nat.lt_trichotomy j k with less | rfl | greater
  · rw [if_neg (by omega), if_pos less, if_pos (by omega)]
  · rw [if_pos rfl, if_neg (by omega), if_pos (by omega), here, target]
    cases s
    cases s'
    simp_all
  · rw [if_neg (by omega), if_neg (by omega), if_neg (by omega)]

/-- Messages reach every programme in which only shows that can be sold have more seats booked. -/
theorem exists_serve {p q : Programme} (grows : p.GrowsTo q)
    (fixed : ∀ (i : Nat) (s : Show), p[i]? = some s → p.Unsellable i s → q[i]? = some s) :
    ∃ messages, p.serve messages = q := by
  have lengths := length_eq_of_bill grows.bill
  have upTo (k : Nat) : p.ReachesUpTo q k := by
    induction k with
    | zero => exact ⟨[], by simp [serve]⟩
    | succ k ih =>
        cases here : p[k]? with
        | none =>
            apply ih.of_same
            rw [List.getElem?_eq_none_iff] at here
            rw [List.getElem?_eq_none (by omega), List.getElem?_eq_none here]
        | some s =>
            by_cases unsellable : p.Unsellable k s
            · exact ih.of_same ((fixed k s here unsellable).trans here.symm)
            · exact ih.of_sellable grows here unsellable
  obtain ⟨messages, all⟩ := upTo p.length
  refine ⟨messages, List.ext_getElem? fun j => ?_⟩
  rw [all j]
  split
  · rfl
  · rw [List.getElem?_eq_none (by omega), List.getElem?_eq_none (by omega)]

theorem length_sales (p : Programme) (messages : List Text) :
    (p.sales messages).length =
      (p.answers messages).countP (Reply.bookingResult? ·.text == some true) := by
  induction messages generalizing p with
  | nil => rfl
  | cons message rest ih =>
      have sold := p.isSome_sale? message
      rw [sales, answers, List.length_append, List.countP_cons, ih, Nat.add_comm]
      congr 1
      cases sale : p.sale? message with
      | none => simp_all
      | some _ => simp_all

/-- Every answer that begins with the success mark is one sale. No seat of a show is in two
    sales, or in one and booked before; what is booked in the end is what was booked and what
    was sold. A show that no request can mean never changes, and every other programme with more
    seats booked is reached. -/
theorem sold_once_and_reached (p : Programme) :
    (∀ messages : List Text,
      (p.sales messages).length =
          (p.answers messages).countP (Reply.bookingResult? ·.text == some true) ∧
      ((p.sales messages).Pairwise fun earlier later =>
        earlier.position = later.position → earlier.seats.Disjoint later.seats) ∧
      ∀ (i : Nat) (s : Show), p[i]? = some s →
        ∃ s', (p.serve messages)[i]? = some s' ∧
          s'.theater = s.theater ∧ s'.movie = s.movie ∧ s'.date = s.date ∧
          (∀ sale ∈ p.sales messages, sale.position = i → sale.seats.Disjoint s.seats.bookedSeats) ∧
          (∀ n, n ∈ s'.seats.bookedSeats ↔ n ∈ s.seats.bookedSeats ∨
            ∃ sale ∈ p.sales messages, sale.position = i ∧ n ∈ sale.seats) ∧
          (p.Unsellable i s → s' = s)) ∧
    ∀ q : Programme, p.GrowsTo q →
      (∀ (i : Nat) (s : Show), p[i]? = some s → p.Unsellable i s → q[i]? = some s) →
      ∃ messages, p.serve messages = q := by
  refine ⟨fun messages => ⟨p.length_sales messages, p.sales_pairwise messages, ?_⟩, ?_⟩
  · intro i s before
    obtain ⟨s', after, theater, movie, date⟩ :=
      show_of_bill (p.growsTo_serve messages).bill before
    refine ⟨s', after, theater, movie, date, ?_, p.mem_bookedSeats_serve messages before after, ?_⟩
    · rintro sale member rfl
      exact p.sales_were_free messages sale member before
    · intro unsellable
      rw [p.serve_unsellable messages before unsellable] at after
      cases after
      rfl
  · intro q grows fixed
    exact exists_serve grows fixed

end BoxOffice.Programme

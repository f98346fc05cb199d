import BoxOffice.Proofs.Linearization
import BoxOffice.Proofs.Purchase
import BoxOffice.Proofs.Sales
import Mathlib.Data.List.Perm.Basic

/-! # Messages in any order

Two messages are rivals if they ask for a seat in common of one show. Messages that are no rivals do
not notice each other: each is granted or refused as if it came first, and the programme after them
does not depend on their order, be they two or many. Of two rivals that could each be granted, the
one that comes first is, and the other finds its seats taken (`any_order`).
-/

namespace BoxOffice

/-- Two messages ask for a seat in common of one show, which they name alike. -/
def Rivals (a b : Text) : Prop :=
  ∃ r r', Request.parse a = .ok r ∧ Request.parse b = .ok r' ∧ r.theater = r'.theater ∧
    r.movie = r'.movie ∧
    ∃ n ∈ r.seats, n ∈ r'.seats

instance (a b : Text) : Decidable (Rivals a b) :=
  match read : Request.parse a, read' : Request.parse b with
  | .error _, _ => isFalse fun ⟨_, _, asks, _⟩ => nomatch read.symm.trans asks
  | .ok _, .error _ => isFalse fun ⟨_, _, _, asks, _⟩ => nomatch read'.symm.trans asks
  | .ok r, .ok r' =>
      decidable_of_iff (r.theater = r'.theater ∧ r.movie = r'.movie ∧ ∃ n ∈ r.seats, n ∈ r'.seats)
        ⟨fun clash => ⟨r, r', read, read', clash⟩, fun ⟨_, _, asks, asks', clash⟩ => by
          cases read.symm.trans asks
          cases read'.symm.trans asks'
          exact clash⟩

theorem Rivals.symm {a b : Text} (h : Rivals a b) : Rivals b a := by
  obtain ⟨r, r', read, read', theater, movie, n, asked, shared⟩ := h
  exact ⟨r', r, read', read, theater.symm, movie.symm, n, shared, asked⟩

theorem pairwise_not_rivals_of_perm {order messages : List Text} (perm : order.Perm messages)
    (apart : messages.Pairwise fun a b => ¬ Rivals a b) : order.Pairwise fun a b => ¬ Rivals a b :=
  (perm.pairwise_iff fun {_ _} apart rivals => apart (Rivals.symm rivals)).mpr apart

namespace SeatPlan

variable {plan : SeatPlan} {seats others : List SeatNumber}

theorem bookAll_comm (plan : SeatPlan) (seats others : List SeatNumber) :
    (plan.bookAll seats).bookAll others = (plan.bookAll others).bookAll seats := by
  apply ext_isBooked?
  intro n
  simp only [isBooked?_bookAll, Option.map_map, Function.comp_def, Bool.or_right_comm]

theorem allFree_bookAll (apart : seats.Disjoint others) :
    (plan.bookAll seats).AllFree others ↔ plan.AllFree others := by
  refine forall₂_congr fun n asked => ?_
  have other : seats.contains n = false := by simpa using fun member => apart member asked
  rw [isBooked?_bookAll, other]
  simp

end SeatPlan

namespace Programme

variable {p : Programme} {i j : Nat} {seats others : List SeatNumber} {a b : Text}

/-! ## Seats of the shows at two positions -/

def HasFree (p : Programme) (i : Nat) (seats : List SeatNumber) : Prop :=
  ∃ s, p[i]? = some s ∧ s.seats.AllFree seats

/-- The programme with seats of the show at a position booked, whether they were free or not. -/
def bookAt (p : Programme) (i : Nat) (seats : List SeatNumber) : Programme :=
  p.modify i fun s => { s with seats := s.seats.bookAll seats }

theorem getElem?_bookAt (p : Programme) (i k : Nat) (seats : List SeatNumber) :
    (p.bookAt i seats)[k]? =
    if i = k then p[k]?.map (fun s => { s with seats := s.seats.bookAll seats }) else p[k]? := by
  rw [bookAt, List.getElem?_modify]
  split <;> simp

theorem reserveAt_of_hasFree (free : p.HasFree i seats) :
    p.reserveAt i seats = (true, p.bookAt i seats) := by
  obtain ⟨s, here, free⟩ := free
  rw [reserveAt_of_allFree here free]
  congr 1
  apply List.ext_getElem?
  intro k
  rw [getElem?_setSeats, getElem?_bookAt]
  split
  · rename_i same
    rw [← same, here]
    rfl
  · rfl

theorem reserveAt_of_not_hasFree (taken : ¬ p.HasFree i seats) :
    p.reserveAt i seats = (false, p) := by
  cases here : p[i]? with
  | none => exact reserveAt_of_none seats here
  | some s => exact reserveAt_of_not_allFree here fun free => taken ⟨s, here, free⟩

theorem bookAt_comm (p : Programme) (i j : Nat) (seats others : List SeatNumber) :
    (p.bookAt i seats).bookAt j others = (p.bookAt j others).bookAt i seats := by
  apply List.ext_getElem?
  intro k
  simp only [getElem?_bookAt]
  by_cases first : i = k <;> by_cases second : j = k <;>
    simp [first, second, Function.comp_def, SeatPlan.bookAll_comm _ seats others]

/-- Booking seats of another show, or other seats of this one, leaves free what was free. -/
theorem hasFree_bookAt (apart : i = j → seats.Disjoint others) :
    (p.bookAt i seats).HasFree j others ↔ p.HasFree j others := by
  rw [HasFree, HasFree, getElem?_bookAt]
  by_cases same : i = j
  · rw [if_pos same]
    cases p[j]? with
    | none => simp
    | some s => simp [SeatPlan.allFree_bookAll (apart same)]
  · rw [if_neg same]

theorem granted_after_reserveAt (apart : i = j → seats.Disjoint others) :
    ((p.reserveAt i seats).2.reserveAt j others).1 = (p.reserveAt j others).1 := by
  by_cases free : p.HasFree i seats
  · rw [reserveAt_of_hasFree free]
    by_cases others_free : p.HasFree j others
    · rw [reserveAt_of_hasFree others_free,
        reserveAt_of_hasFree ((hasFree_bookAt apart).mpr others_free)]
    · rw [reserveAt_of_not_hasFree others_free,
        reserveAt_of_not_hasFree ((hasFree_bookAt apart).not.mpr others_free)]
  · rw [reserveAt_of_not_hasFree free]

theorem reserveAt_comm (apart : i = j → seats.Disjoint others) :
    ((p.reserveAt i seats).2.reserveAt j others).2 =
      ((p.reserveAt j others).2.reserveAt i seats).2 := by
  have back : j = i → others.Disjoint seats :=
    fun same n asked shared => apart same.symm shared asked
  by_cases free : p.HasFree i seats <;> by_cases others_free : p.HasFree j others
  · rw [reserveAt_of_hasFree free, reserveAt_of_hasFree others_free,
      reserveAt_of_hasFree ((hasFree_bookAt apart).mpr others_free),
      reserveAt_of_hasFree ((hasFree_bookAt back).mpr free), bookAt_comm]
  · rw [reserveAt_of_not_hasFree others_free, reserveAt_of_hasFree free,
      reserveAt_of_not_hasFree ((hasFree_bookAt apart).not.mpr others_free)]
  · rw [reserveAt_of_not_hasFree free, reserveAt_of_hasFree others_free,
      reserveAt_of_not_hasFree ((hasFree_bookAt back).not.mpr free)]
  · rw [reserveAt_of_not_hasFree free, reserveAt_of_not_hasFree others_free,
      reserveAt_of_not_hasFree free]

/-! ## Two messages -/

/-- What a message does to the programme, and whether it is announced, is what its booking comes to;
    a message that is no booking request makes none that could be granted. -/
theorem route_eq_book (p : Programme) (message : Text) :
    (p.route message).1.announce = (p.book message).1.isOk ∧
    (p.route message).2 = (p.book message).2 := by
  have routed := p.routes message
  by_cases comma : ',' ∈ message
  · rw [route_of_comma comma]
    exact ⟨announce_ofBooking _ _, rfl⟩
  · cases read : Request.parse message with
    | ok r => exact absurd (Request.comma_mem_of_parse read) comma
    | error refusal =>
        have unread : p.book message = (.error refusal, p) := by simp only [book, read]
        rw [unread]
        generalize p.route message = answered at routed
        obtain ⟨reply, q⟩ := answered
        dsimp only at routed
        cases routed with
        | snapshot | echo => exact ⟨rfl, rfl⟩
        | booking there => exact absurd there comma

/-- On every programme of one bill a message is refused for one cause, or means the show
    at one position. -/
theorem refused_or_found (p : Programme) (message : Text) :
    (∃ refusal, ∀ q : Programme, q.bill = p.bill → q.book message = (.error refusal, q)) ∨
      ∃ r i, Request.parse message = .ok r ∧ p.position? r.theater r.movie = some i := by
  have begins := Booking.begins p message
  generalize Booking.begin p message = booking at begins
  cases begins with
  | refused always => exact .inl ⟨_, always⟩
  | found read found => exact .inr ⟨_, _, read, found⟩

theorem bill_book (p : Programme) (message : Text) : (p.book message).2.bill = p.bill :=
  (p.books message).growsTo.bill

/-- Messages that are no rivals want no seat in common of the show at one position. -/
theorem disjoint_of_not_rivals (apart : ¬ Rivals a b) {r r' : Request}
    (read : Request.parse a = .ok r) (read' : Request.parse b = .ok r')
    (found : p.position? r.theater r.movie = some i)
    (found' : p.position? r'.theater r'.movie = some j) : i = j → r.seats.Disjoint r'.seats := by
  rintro rfl n asked shared
  obtain ⟨s, here, theater, movie⟩ := exists_show_of_position? found
  obtain ⟨s', here', theater', movie'⟩ := exists_show_of_position? found'
  rw [here] at here'
  cases here'
  exact apart ⟨r, r', read, read', theater.symm.trans theater', movie.symm.trans movie', n,
    asked, shared⟩

/-- What messages that are no rivals come to, in either order. -/
theorem book_after (apart : ¬ Rivals a b) (p : Programme) :
    ((p.book a).2.book b).1 = (p.book b).1 ∧ ((p.book a).2.book b).2 = ((p.book b).2.book a).2 := by
  rcases p.refused_or_found a with ⟨refusal, always⟩ | ⟨r, i, read, found⟩
  · rw [always p rfl, always _ (p.bill_book b)]
    exact ⟨rfl, rfl⟩
  · rcases p.refused_or_found b with ⟨refusal, always⟩ | ⟨r', j, read', found'⟩
    · rw [always p rfl, always _ (p.bill_book a)]
      exact ⟨rfl, rfl⟩
    · have disjoint := disjoint_of_not_rivals apart read read' found found'
      have later := (position?_of_bill (p.bill_book b) r.theater r.movie).trans found
      have later' := (position?_of_bill (p.bill_book a) r'.theater r'.movie).trans found'
      rw [book_of_position? read' later', book_of_position? read later,
        book_of_position? read found, book_of_position? read' found']
      refine ⟨?_, reserveAt_comm disjoint⟩
      dsimp only
      rw [attempt, attempt, granted_after_reserveAt disjoint]

/-- Two messages come to the same in either order. -/
structure Commutes (p : Programme) (a b : Text) : Prop where
  programme : ((p.route a).2.route b).2 = ((p.route b).2.route a).2
  first : ((p.route b).2.route a).1.announce = (p.route a).1.announce
  second : ((p.route a).2.route b).1.announce = (p.route b).1.announce

theorem announce_after (apart : ¬ Rivals a b) (p : Programme) :
    ((p.route a).2.route b).1.announce = (p.route b).1.announce := by
  rw [(route_eq_book _ b).1, (route_eq_book p b).1, (route_eq_book p a).2, (book_after apart p).1]

theorem commutes_of_not_rivals (apart : ¬ Rivals a b) (p : Programme) : p.Commutes a b where
  programme := by
    rw [(route_eq_book _ b).2, (route_eq_book (p.route b).2 a).2, (route_eq_book p a).2,
      (route_eq_book p b).2, (book_after apart p).2]
  first := announce_after (fun rivals => apart rivals.symm) p
  second := announce_after apart p

/-- The first of two messages is granted, the second finds its seats taken, and it is as if only the
    first had come. -/
structure Wins (p : Programme) (winner loser : Text) : Prop where
  granted : ∃ r, Request.parse winner = .ok r ∧
    (p.route winner).1 = Reply.ofBooking (.ok r) (p.route winner).2
  refused : ((p.route winner).2.book loser).1 = .error .seatsTaken
  told : ((p.route winner).2.route loser).1 = Reply.ofBooking (.error .seatsTaken)
    (p.route winner).2
  alone : ((p.route winner).2.route loser).2 = (p.route winner).2

/-- A message that is granted leaves none of its seats to a rival. -/
theorem wins_of_rivals (rivals : Rivals a b) (announced : (p.route a).1.announce = true) :
    p.Wins a b := by
  obtain ⟨r, i, s, read, found, here, free⟩ := exists_granted_of_announce announced
  obtain ⟨_, r', read₁, read', theater, movie, n, asked, shared⟩ := rivals
  cases read.symm.trans read₁
  have answer := route_of_allFree read found here free
  -- the seat in common is booked now, so the rival's show is found with one of its seats taken
  have refused : ((p.route a).2.book b).1 = .error .seatsTaken := by
    rw [answer, book_eq_taken]
    refine ⟨r', { s with seats := s.seats.bookAll r.seats }, read', ?_, n, shared, ?_⟩
    · rw [find_eq, position?_of_bill (bill_setSeats ..), ← theater, ← movie, found,
        Option.bind_some, getElem?_setSeats, if_pos rfl, here, Option.map_some]
    · exact (SeatPlan.mem_bookedSeats_bookAll free.isValid).mpr (.inr asked)
  have alone := (route_of_refusal (Request.comma_mem_of_parse read') refused).2.same
  have kept := (route_eq_book _ b).2.symm.trans alone
  constructor
  case granted => exact ⟨r, read, by rw [answer]⟩
  case refused => exact refused
  case told => rw [route_of_parse read', refused, kept]
  case alone => exact alone

/-! ## Many messages -/

/-- Each of many messages without rivals among them is granted or refused as if it
    were the only one. -/
theorem announce_answers {order : List Text} (apart : order.Pairwise fun a b => ¬ Rivals a b)
    (p : Programme) :
    (p.answers order).map (·.announce) = order.map fun message => (p.route message).1.announce := by
  induction order generalizing p with
  | nil => rfl
  | cons message rest ih =>
      rw [answers, List.map_cons, List.map_cons, ih apart.of_cons]
      congr 1
      refine List.map_congr_left fun later member => ?_
      exact announce_after (List.rel_of_pairwise_cons apart member) p

/-- The programme after messages without rivals among them does not depend on their order. -/
theorem serve_perm {order messages : List Text} (perm : order.Perm messages)
    (apart : messages.Pairwise fun a b => ¬ Rivals a b) (p : Programme) :
    p.serve order = p.serve messages := by
  induction perm generalizing p with
  | nil => rfl
  | cons message _ ih => exact ih apart.of_cons _
  | swap a b rest =>
      have no_rivals : ¬ Rivals a b := List.rel_of_pairwise_cons apart List.mem_cons_self
      exact congrArg (·.serve rest) (commutes_of_not_rivals no_rivals p).programme.symm
  | trans _ perm ih ih' =>
      exact (ih (pairwise_not_rivals_of_perm perm apart) p).trans (ih' apart p)

/-- Messages that ask for no seat in common of one show come to the same in either order, and so
    do many of them in any order: each is announced as if it were the only one, and one programme
    is left. Of two messages that would each be granted and ask for a seat in common, the first is
    granted and the second is refused because its seats are taken, and the programme is that of
    the first alone. -/
theorem any_order (p : Programme) :
    (∀ a b, ¬ Rivals a b → p.Commutes a b) ∧
    (∀ a b, Rivals a b → (p.route a).1.announce = true → (p.route b).1.announce = true →
      p.Wins a b ∧ p.Wins b a) ∧
    ∀ messages : List Text, messages.Pairwise (fun a b => ¬ Rivals a b) →
    ∀ order, order.Perm messages →
      p.serve order = p.serve messages ∧
      (p.answers order).map (·.announce) = order.map fun message =>
      (p.route message).1.announce := by
  refine ⟨fun a b apart => commutes_of_not_rivals apart p, fun a b rivals first second => ?_, ?_⟩
  · exact ⟨wins_of_rivals rivals first, wins_of_rivals rivals.symm second⟩
  · intro messages apart order perm
    exact ⟨serve_perm perm apart p, announce_answers (pairwise_not_rivals_of_perm perm apart) p⟩

/-- Two bookings of one show without a seat in common, one of them written with blanks and a comma
    at its end; two that both want seat 2; and six messages in two orders, one refused because its
    seat is taken, one because its show is not on the programme, and two that book nothing. -/
theorem any_order_small :
    let messages : List Text :=
      ["PVR,Inception,3", "PVR,Inception, 5 ,4,5,", "PVR,Inception,2", "get_data",
      "PVR,Interstellar,3", "Inception"]
    Programme.small.Commutes "PVR,Inception,3" "PVR,Inception, 5 ,4,5," ∧
    (Programme.small.Wins "PVR,Tenet,1,2" "PVR,Tenet,20,2" ∧
      Programme.small.Wins "PVR,Tenet,20,2" "PVR,Tenet,1,2") ∧
    Programme.small.serve messages.reverse = Programme.small.serve messages ∧
    (Programme.small.answers messages.reverse).map (·.announce) = [false, false, false, false, true,
      true] := by
  intro messages
  obtain ⟨commutes, wins, orders⟩ := Programme.small.any_order
  obtain ⟨programme, flags⟩ :=
    orders messages (by decide +kernel) messages.reverse (List.reverse_perm messages)
  refine ⟨commutes _ _ (by decide +kernel), ?_, programme, flags.trans (by decide +kernel)⟩
  exact wins _ _ (by decide +kernel) (by decide +kernel) (by decide +kernel)

end Programme

end BoxOffice

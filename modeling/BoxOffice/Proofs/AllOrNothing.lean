import BoxOffice.Proofs.Reply
import Mathlib.Logic.Basic

/-! # All or nothing

Answering a message either sells some seats of one show, says which ones, and is announced; or it
leaves every seat plan alone and is not announced. Every refusal has its one cause, and how the
answer begins tells what happened.
-/

namespace BoxOffice.Programme

/-- The answer to a message sold the new seats of the show at a position, and nothing else. -/
structure Sold (p : Programme) (message : Text) (reply : Reply) (q : Programme)
    (r : Request) (i : Nat) (s s' : Show) : Prop where
  read : Request.parse message = .ok r
  found : p.position? r.theater r.movie = some i
  first : p.find r.theater r.movie = some s
  before : p[i]? = some s
  free : ∀ n ∈ r.seats, s.seats.isBooked? n = some false
  after : q[i]? = some s'
  others : ∀ j, j ≠ i → q[j]? = p[j]?
  names : s'.theater = s.theater ∧ s'.movie = s.movie ∧ s'.date = s.date
  keeps : ∀ n ∈ s.seats.bookedSeats, n ∈ s'.seats.bookedSeats
  some_seat : s.seats.added s'.seats ≠ []
  ascending : (s.seats.added s'.seats).Pairwise (· < ·)
  announced : reply.announce = true
  text : reply.text = "SUCCESS: Booked seats " ++ SeatNumber.list (s.seats.added s'.seats) ++
    " for " ++ r.movie ++ " at " ++ r.theater ++ "\n\n" ++ Snapshot.render .initial q

/-- The answer to a message changed no show. -/
structure Untouched (p : Programme) (reply : Reply) (q : Programme) : Prop where
  same : q = p
  silent : reply.announce = false

theorem sold_of_allFree {p : Programme} {message : Text} {r : Request} {i : Nat} {s : Show}
    (read : Request.parse message = .ok r) (found : p.position? r.theater r.movie = some i)
    (here : p[i]? = some s) (free : s.seats.AllFree r.seats) :
    p.Sold message (Reply.ofBooking (.ok r) (p.setSeats i (s.seats.bookAll r.seats)))
      (p.setSeats i (s.seats.bookAll r.seats)) r i s
      { s with seats := s.seats.bookAll r.seats } := by
  have new := SeatPlan.added_bookAll free
  have readable := Request.readable_of_parse read
  constructor
  case read => exact read
  case found => exact found
  case first => rw [find_eq, found, Option.bind_some, here]
  case before => exact here
  case free => exact free
  case after => rw [getElem?_setSeats, if_pos rfl, here, Option.map_some]
  case others =>
    intro j apart
    rw [getElem?_setSeats, if_neg (Ne.symm apart)]
  case names => exact ⟨rfl, rfl, rfl⟩
  case keeps =>
    intro n booked
    exact (SeatPlan.mem_bookedSeats_bookAll free.isValid).mpr (.inl booked)
  case some_seat =>
    obtain ⟨n, rest, seats⟩ := List.exists_cons_of_ne_nil readable.some_seat
    apply List.ne_nil_of_mem (a := n)
    rw [new, SeatNumber.mem_ascending, seats]
    exact List.mem_cons_self ..
  case ascending => exact SeatPlan.added_pairwise ..
  case announced => rfl
  case text =>
    rw [new]
    rfl

theorem Sold.ne {p q : Programme} {message : Text} {reply : Reply} {r : Request} {i : Nat}
    {s s' : Show} (h : p.Sold message reply q r i s s') : q ≠ p := by
  rintro rfl
  have same := h.before.symm.trans h.after
  cases same
  apply h.some_seat
  rw [List.eq_nil_iff_forall_not_mem]
  intro n new
  obtain ⟨booked, fresh⟩ := SeatPlan.mem_added.mp new
  exact fresh booked

theorem Routes.sold_or_untouched {p q : Programme} {message : Text} {reply : Reply}
    (h : p.Routes message reply q) :
    (∃ r i s s', p.Sold message reply q r i s s') ∨ p.Untouched reply q := by
  cases h with
  | snapshot | echo => exact .inr ⟨rfl, rfl⟩
  | booking _ books =>
      cases books with
      | unread | noShow | taken => exact .inr ⟨rfl, rfl⟩
      | granted read found here free =>
          exact .inl ⟨_, _, _, _, sold_of_allFree read found here free⟩

theorem Routes.announce_iff {p q : Programme} {message : Text} {reply : Reply}
    (h : p.Routes message reply q) : reply.announce = true ↔ q ≠ p := by
  rcases h.sold_or_untouched with ⟨r, i, s, s', sold⟩ | ⟨same, silent⟩
  · simp only [sold.announced, sold.ne, ne_eq, not_false_eq_true]
  · simp only [silent, same, Bool.false_eq_true, ne_eq, not_true_eq_false]

/-! ## How answers begin and end -/

theorem Routes.render_suffix {p q : Programme} {message : Text} {reply : Reply}
    (h : p.Routes message reply q) : Snapshot.render .initial q <:+ reply.text := by
  cases h with
  | snapshot => exact List.suffix_refl _
  | echo => exact List.suffix_append ..
  | @booking result _ _ _ => cases result <;> exact List.suffix_append ..

theorem Routes.bookingResult? {p q : Programme} {message : Text} {reply : Reply}
    (h : p.Routes message reply q) :
    Reply.bookingResult? reply.text =
      if ',' ∈ message then some reply.announce else none := by
  cases h with
  | snapshot _ plain => rw [Reply.bookingResult?_snapshot, if_neg plain]
  | echo _ plain => rw [Reply.bookingResult?_echo, if_neg plain]
  | @booking result _ comma _ =>
      rw [Reply.bookingResult?_ofBooking, if_pos comma]
      cases result <;> rfl

theorem Routes.comma_of_announce {p q : Programme} {message : Text} {reply : Reply}
    (h : p.Routes message reply q) (announced : reply.announce = true) : ',' ∈ message := by
  cases h with
  | snapshot | echo => cases announced
  | booking comma _ => exact comma

/-! ## Why a booking is refused -/

theorem book_eq_noShow {p : Programme} {message theater movie : Text} :
    (p.book message).1 = .error (.noSuchShow theater movie) ↔
      ∃ r, Request.parse message = .ok r ∧ r.theater = theater ∧ r.movie = movie ∧
        ∀ s ∈ p, ¬ (s.theater = theater ∧ s.movie = movie) := by
  generalize answered : p.book message = result
  have booked := p.books message
  rw [answered] at booked
  obtain ⟨result, q⟩ := result
  cases booked with
  | unread unread =>
      have cause := Request.refusal_of_parse unread
      simp only [unread, reduceCtorEq, false_and, exists_false, iff_false, Except.error.injEq]
      rintro rfl
      simp at cause
  | @noShow r read absent =>
      simp only [Except.error.injEq, Refusal.noSuchShow.injEq, read, Except.ok.injEq,
        exists_eq_left']
      constructor
      · rintro ⟨rfl, rfl⟩
        exact ⟨rfl, rfl, position?_eq_none.mp absent⟩
      · rintro ⟨theater, movie, -⟩
        exact ⟨theater, movie⟩
  | @taken r i s read found here taken =>
      obtain ⟨t, at_i, names⟩ := exists_show_of_position? found
      simp only [Except.error.injEq, reduceCtorEq, read, Except.ok.injEq,
        exists_eq_left', false_iff]
      rintro ⟨rfl, rfl, absent⟩
      exact absent t (List.mem_of_getElem? at_i) names
  | @granted r i s read found here free =>
      obtain ⟨t, at_i, names⟩ := exists_show_of_position? found
      simp only [reduceCtorEq, read, Except.ok.injEq, exists_eq_left', false_iff]
      rintro ⟨rfl, rfl, absent⟩
      exact absent t (List.mem_of_getElem? at_i) names

theorem book_eq_taken {p : Programme} {message : Text} :
    (p.book message).1 = .error .seatsTaken ↔
      ∃ r s, Request.parse message = .ok r ∧ p.find r.theater r.movie = some s ∧
        ∃ n ∈ r.seats, n ∈ s.seats.bookedSeats := by
  generalize answered : p.book message = result
  have booked := p.books message
  rw [answered] at booked
  obtain ⟨result, q⟩ := result
  cases booked with
  | unread unread =>
      have cause := Request.refusal_of_parse unread
      simp only [unread, reduceCtorEq, false_and, exists_false, iff_false, Except.error.injEq]
      rintro rfl
      simp at cause
  | @noShow r read absent =>
      simp [read, find_eq, absent]
  | @taken r i s read found here taken =>
      have valid := (Request.readable_of_parse read).valid
      simpa [read, find_eq, found, here] using (SeatPlan.not_allFree_iff valid).mp taken
  | @granted r i s read found here free =>
      simp only [reduceCtorEq, read, Except.ok.injEq, find_eq, false_iff, not_exists, not_and]
      rintro r' s' rfl at_i n asked booked
      rw [found, Option.bind_some, here] at at_i
      cases at_i
      exact free.not_mem_bookedSeats asked booked

theorem book_of_unread {message : Text} {refusal : Refusal}
    (unread : Request.parse message = .error refusal) (p : Programme) :
    (p.book message).1 = .error refusal := by
  simp only [book, unread]

theorem route_of_refusal {p : Programme} {message : Text} {refusal : Refusal}
    (comma : ',' ∈ message) (refused : (p.book message).1 = .error refusal) :
    (p.route message).1.text =
        "ERROR: " ++ refusal.message ++ "\n\n" ++ Snapshot.render .initial (p.route message).2 ∧
      p.Untouched (p.route message).1 (p.route message).2 := by
  have booked := p.books message
  rw [route_of_comma comma]
  rw [refused] at booked ⊢
  have same : (p.book message).2 = p := by
    generalize (p.book message).2 = q at booked
    cases booked <;> rfl
  exact ⟨rfl, same, rfl⟩

/-- A message either sells seats of one show or leaves everything as it is; a refusal is told by its
    cause, and every answer ends with the snapshot of the programme that is left. -/
theorem route_all_or_nothing (p : Programme) (message : Text) :
    let reply := (p.route message).1
    let q := (p.route message).2
    Xor (∃ r i s s', p.Sold message reply q r i s s') (p.Untouched reply q) ∧
    (∀ refusal, ',' ∈ message → (p.book message).1 = .error refusal →
      reply.text = "ERROR: " ++ refusal.message ++ "\n\n" ++ Snapshot.render .initial q ∧
        p.Untouched reply q) ∧
    (∀ refusal, Request.parse message = .error refusal → (p.book message).1 = .error refusal) ∧
    (∀ theater movie, (p.book message).1 = .error (.noSuchShow theater movie) ↔
      ∃ r, Request.parse message = .ok r ∧ r.theater = theater ∧ r.movie = movie ∧
        ∀ s ∈ p, ¬ (s.theater = theater ∧ s.movie = movie)) ∧
    ((p.book message).1 = .error .seatsTaken ↔
      ∃ r s, Request.parse message = .ok r ∧ p.find r.theater r.movie = some s ∧
        ∃ n ∈ r.seats, n ∈ s.seats.bookedSeats) ∧
    Snapshot.render .initial q <:+ reply.text ∧
    (Reply.bookingResult? reply.text = some true ↔ q ≠ p) ∧
    (Reply.bookingResult? reply.text = some false ↔ ',' ∈ message ∧ q = p) ∧
    (Reply.bookingResult? reply.text = none ↔ ',' ∉ message) := by
  intro reply q
  have routed : p.Routes message reply q := p.routes message
  have begins := routed.bookingResult?
  have changes := routed.announce_iff
  refine ⟨?_, fun refusal comma refused => route_of_refusal comma refused,
    fun refusal unread => book_of_unread unread p, fun theater movie => book_eq_noShow,
    book_eq_taken, routed.render_suffix, ?_, ?_, ?_⟩
  · rcases routed.sold_or_untouched with sold | untouched
    · refine .inl ⟨sold, fun untouched => ?_⟩
      obtain ⟨r, i, s, s', sold⟩ := sold
      exact sold.ne untouched.same
    · refine .inr ⟨untouched, fun ⟨r, i, s, s', sold⟩ => ?_⟩
      exact sold.ne untouched.same
  · rw [begins, ← changes]
    constructor
    · intro h
      split at h <;> simp_all
    · intro announced
      rw [if_pos (routed.comma_of_announce announced), announced]
  · rw [begins]
    by_cases comma : ',' ∈ message
    · by_cases same : q = p
      · have silent : reply.announce = false := by simpa [same] using changes
        simp [comma, same, silent]
      · have announced := changes.mpr same
        simp [same, announced]
    · simp [comma]
  · rw [begins]
    split <;> simp_all

end BoxOffice.Programme

import BoxOffice.Proofs.Programme
import BoxOffice.Proofs.Request
import BoxOffice.Reply

/-! # What a message does to the programme

`Books` and `Routes` list everything a message can do, with the answer that goes with it. What is
proved of answers and programmes splits on these cases, and nothing else looks into `route`.
-/

namespace BoxOffice

theorem Request.refusal_of_parse {text : Text} {refusal : Refusal}
    (h : parse text = .error refusal) :
    refusal = .tooFewFields ∨ ∃ field, refusal = .noSuchSeat field ∨
    refusal = .notANumber field := by
  have ofField {field : Text} (bad : seatOfField field = .error refusal) :
      refusal = .noSuchSeat field ∨ refusal = .notANumber field := by
    unfold seatOfField at bad
    split at bad
    · cases bad
      exact .inr rfl
    · split at bad
      · cases bad
      · cases bad
        exact .inl rfl
  have ofFields {fields : List Text} (bad : seatsOfFields fields = .error refusal) :
      ∃ field, refusal = .noSuchSeat field ∨ refusal = .notANumber field := by
    induction fields with
    | nil => cases bad
    | cons field rest ih =>
        rw [seatsOfFields] at bad
        cases first : seatOfField field with
        | error refusal' =>
            simp only [first, Except.error.injEq] at bad
            subst bad
            exact ⟨field, ofField first⟩
        | ok n =>
            cases others : seatsOfFields rest with
            | error refusal' =>
                simp only [first, others, Except.error.injEq] at bad
                exact ih (others.trans (congrArg Except.error bad))
            | ok seats => simp [first, others] at bad
  unfold parse at h
  split at h
  · rename_i theater movie field rest _
    cases seats : seatsOfFields (field :: rest) with
    | error refusal' =>
        simp only [seats, Except.error.injEq] at h
        exact .inr (ofFields (seats.trans (congrArg Except.error h)))
    | ok seats' => simp [seats] at h
  · cases h
    exact .inl rfl

/-! ## How an answer begins -/

namespace Reply

theorem bookingResult?_ofBooking (result : Except Refusal Request) (seen : Programme) :
    bookingResult? (ofBooking result seen).text = some result.isOk := by
  cases result with
  | ok r =>
      have begins : successMark <+: (ofBooking (.ok r) seen).text := by
        simp only [ofBooking, List.append_assoc]
        exact List.prefix_append ..
      rw [bookingResult?, if_pos (List.isPrefixOf_iff_prefix.mpr begins)]
      rfl
  | error refusal =>
      have begins : errorMark <+: (ofBooking (.error refusal) seen).text := by
        simp only [ofBooking, List.append_assoc]
        exact List.prefix_append ..
      have other : successMark.isPrefixOf (ofBooking (.error refusal) seen).text = false := rfl
      rw [bookingResult?, other, if_neg (by simp), if_pos (List.isPrefixOf_iff_prefix.mpr begins)]
      rfl

theorem bookingResult?_echo (message : Text) (seen : Programme) :
    bookingResult? (echo message seen).text = none := rfl

theorem bookingResult?_snapshot (p : Programme) :
    bookingResult? (Snapshot.render .initial p) = none := by
  simp only [Snapshot.render, Snapshot.Kind.header, List.append_assoc]
  rfl

end Reply

/-! ## What is done -/

namespace Programme

/-- What the booking that a message asks for comes to, and the programme after it. -/
inductive Books (p : Programme) (message : Text) : Except Refusal Request → Programme → Prop where
  | unread {refusal : Refusal} (unread : Request.parse message = .error refusal) :
      Books p message (.error refusal) p
  | noShow {r : Request} (read : Request.parse message = .ok r)
      (absent : p.position? r.theater r.movie = none) :
      Books p message (.error (.noSuchShow r.theater r.movie)) p
  | taken {r : Request} {i : Nat} {s : Show} (read : Request.parse message = .ok r)
      (found : p.position? r.theater r.movie = some i) (here : p[i]? = some s)
      (taken : ¬ s.seats.AllFree r.seats) :
      Books p message (.error .seatsTaken) p
  | granted {r : Request} {i : Nat} {s : Show} (read : Request.parse message = .ok r)
      (found : p.position? r.theater r.movie = some i) (here : p[i]? = some s)
      (free : s.seats.AllFree r.seats) :
      Books p message (.ok r) (p.setSeats i (s.seats.bookAll r.seats))

theorem book_of_allFree {p : Programme} {message : Text} {r : Request} {i : Nat} {s : Show}
    (read : Request.parse message = .ok r) (found : p.position? r.theater r.movie = some i)
    (here : p[i]? = some s) (free : s.seats.AllFree r.seats) :
    p.book message = (.ok r, p.setSeats i (s.seats.bookAll r.seats)) := by
  simp only [book, read, reserve, found, reserveAt_of_allFree here free]

theorem books (p : Programme) (message : Text) :
    p.Books message (p.book message).1 (p.book message).2 := by
  cases read : Request.parse message with
  | error refusal =>
      simp only [book, read]
      exact .unread read
  | ok r =>
      cases found : p.position? r.theater r.movie with
      | none =>
          simp only [book, read, reserve, found]
          exact .noShow read found
      | some i =>
          obtain ⟨s, here, -⟩ := exists_show_of_position? found
          by_cases free : s.seats.AllFree r.seats
          · rw [book_of_allFree read found here free]
            exact .granted read found here free
          · simp only [book, read, reserve, found, reserveAt_of_not_allFree here free]
            exact .taken read found here free

theorem Books.growsTo {p q : Programme} {message : Text} {result : Except Refusal Request}
    (h : p.Books message result q) : p.GrowsTo q := by
  cases h with
  | unread | noShow | taken => exact .refl p
  | granted _ _ here free => exact growsTo_setSeats_bookAll here free

/-- The answer to a message of any sort, and the programme after it. -/
inductive Routes (p : Programme) (message : Text) : Reply → Programme → Prop where
  | snapshot (command : message ∈ snapshotCommands) (plain : ',' ∉ message) :
      Routes p message ⟨Snapshot.render .initial p, false⟩ p
  | booking {result : Except Refusal Request} {q : Programme} (comma : ',' ∈ message)
      (books : p.Books message result q) : Routes p message (Reply.ofBooking result q) q
  | echo (other : message ∉ snapshotCommands) (plain : ',' ∉ message) :
      Routes p message (Reply.echo message p) p

theorem comma_not_mem_of_command {message : Text} (h : message ∈ snapshotCommands) :
    ',' ∉ message := by
  have each : ∀ command ∈ snapshotCommands, ',' ∉ command := by decide
  exact each message h

theorem route_of_comma {p : Programme} {message : Text} (comma : ',' ∈ message) :
    p.route message = (Reply.ofBooking (p.book message).1 (p.book message).2,
      (p.book message).2) := by
  have other : message ∉ snapshotCommands := fun command => comma_not_mem_of_command command comma
  simp only [route, process, List.contains_iff_mem, other, comma, if_false, if_true]

theorem routes (p : Programme) (message : Text) :
    p.Routes message (p.route message).1 (p.route message).2 := by
  by_cases comma : ',' ∈ message
  · rw [route_of_comma comma]
    exact .booking comma (p.books message)
  · by_cases command : message ∈ snapshotCommands
    · simp only [route, List.contains_iff_mem, command, if_true]
      exact .snapshot command comma
    · simp only [route, List.contains_iff_mem, command, comma, if_false]
      exact .echo command comma

theorem route_of_parse {p : Programme} {message : Text} {r : Request}
    (h : Request.parse message = .ok r) :
    p.route message = (Reply.ofBooking (p.book message).1 (p.book message).2, (p.book message).2) :=
  route_of_comma (Request.comma_mem_of_parse h)

theorem Routes.growsTo {p q : Programme} {message : Text} {reply : Reply}
    (h : p.Routes message reply q) : p.GrowsTo q := by
  cases h with
  | snapshot | echo => exact .refl p
  | booking _ books => exact books.growsTo

end Programme

end BoxOffice

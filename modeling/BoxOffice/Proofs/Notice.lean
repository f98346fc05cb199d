import BoxOffice.Proofs.Recognition
import BoxOffice.Proofs.Reply
import BoxOffice.Scenario

/-! # What a customer makes of an answer

The answer to a booking begins with its mark, and by how an answer begins it tells truly whether
seats were sold. A customer looks for the marks anywhere in the answer. That comes to the same
unless the answer repeats a mark that the message brought: a refusal that quotes the mark of a sale
is then taken for one, and a text that is only sent back is taken for the answer to a booking
(`notice_eq_iff`).
-/

namespace BoxOffice

/-- What an answer should be taken for, given what it says of a booking. -/
def Notice.ofResult : Option Bool → Notice
  | some granted => .booking granted
  | none => .snapshot .initial

def Refusal.quoted : Refusal → List Text
  | .noSuchSeat field | .notANumber field => [field]
  | .noSuchShow theater movie => [movie, theater]
  | .tooFewFields | .seatsTaken => []

/-- Only the quoted words of a refusal can hold the mark of a sale. -/
theorem Refusal.message_has_successMark (refusal : Refusal) :
    refusal.message.has successMark ↔ ∃ text ∈ refusal.quoted, text.has successMark := by
  cases refusal with
  | tooFewFields | seatsTaken => decide +kernel
  | noSuchSeat field =>
      have lead : successMark.Apart "Invalid seat number " := by decide +kernel
      have period : '.' ∉ successMark := by decide
      have tail : ¬ successMark <:+: " Must be 1-20.".toList := by decide +kernel
      have quotes : successMark <:+: field ++ '.' :: " Must be 1-20.".toList ↔
          successMark <:+: field := by
        rw [Text.infix_append_cons_iff period, or_iff_left tail]
      have ends : ". Must be 1-20.".toList = '.' :: " Must be 1-20.".toList := rfl
      have pieces : Refusal.message (.noSuchSeat field) =
          "Invalid seat number ".toList ++ (field ++ '.' :: " Must be 1-20.".toList) := by
        rw [← ends, ← List.append_assoc]
        rfl
      simp only [quoted, List.mem_singleton, exists_eq_left, Text.has_iff, pieces]
      exact lead.infix_append_iff.trans quotes
  | notANumber field =>
      have lead : successMark.Apart "Invalid seat number format: " := by decide +kernel
      simp only [quoted, List.mem_singleton, exists_eq_left, Text.has_iff]
      exact lead.infix_append_iff
  | noSuchShow theater movie =>
      have lead : successMark.Apart "Show not found - " := by decide +kernel
      have between : successMark.Apart "at " := by decide +kernel
      have blank : ' ' ∉ successMark := by decide
      have quotes : successMark <:+: movie ++ ' ' :: ("at ".toList ++ theater) ↔
          successMark <:+: movie ∨ successMark <:+: theater :=
        (Text.infix_append_cons_iff blank).trans (or_congr_right between.infix_append_iff)
      have joint : " at ".toList = ' ' :: "at ".toList := rfl
      have pieces : Refusal.message (.noSuchShow theater movie) =
          "Show not found - ".toList ++ (movie ++ ' ' :: ("at ".toList ++ theater)) := by
        rw [← List.cons_append, ← joint, ← List.append_assoc, ← List.append_assoc]
        rfl
      simp only [quoted, List.exists_mem_cons_iff, List.not_mem_nil, false_and,
        exists_false, or_false, Text.has_iff, pieces]
      exact lead.infix_append_iff.trans quotes

/-! ## Marks in an answer -/

/-- No show is named or dated with a mark that a customer looks for by itself. -/
def Programme.Unmarked (p : Programme) : Prop :=
  ∀ mark ∈ [successMark, errorMark, Snapshot.updateHeader], ¬ p.Mentions mark

instance (p : Programme) : Decidable p.Unmarked := inferInstanceAs (Decidable (∀ mark ∈ _, _))

namespace Reply

variable {mark : Text}

theorem has_answer (h : mark ∈ Snapshot.marks) (said : Text) (seen : Programme) :
    (said ++ "\n\n".toList ++ Snapshot.render .initial seen).has mark ↔
      said.has mark ∨ mark = Snapshot.initialHeader ∨ seen.Mentions mark := by
  have header : ∀ mark ∈ Snapshot.marks, mark <:+: Snapshot.initialHeader ↔
      mark = Snapshot.initialHeader := by
    decide +kernel
  have isMark := Snapshot.isMark_of_mem h
  have pieces : said ++ "\n\n".toList ++ Snapshot.render .initial seen =
      said ++ '\n' :: ([] ++ '\n' :: Snapshot.render .initial seen) := by
    simp
  have snapshot := Snapshot.has_render h .initial seen
  rw [Snapshot.Kind.header, Text.has_iff, Text.has_iff, header mark h] at snapshot
  rw [Text.has_iff, Text.has_iff, pieces, isMark.infix_append_newline_iff,
    isMark.infix_append_newline_iff, List.infix_nil, or_iff_right isMark.ne_nil, snapshot]

theorem echo_has (h : mark ∈ Snapshot.marks) (message : Text) (seen : Programme) :
    (echo message seen).text.has mark ↔
      message.has mark ∨ mark = Snapshot.initialHeader ∨ seen.Mentions mark := by
  have lead : ∀ mark ∈ Snapshot.marks, mark.Apart "Echo: ".toList := by decide +kernel
  refine (has_answer h ("Echo: ".toList ++ message) seen).trans (or_congr_left ?_)
  rw [Text.has_iff, Text.has_iff]
  exact (lead mark h).infix_append_iff

theorem refused_has_successMark (refusal : Refusal) (seen : Programme) :
    (ofBooking (.error refusal) seen).text.has successMark ↔
      (∃ text ∈ refusal.quoted, text.has successMark) ∨ seen.Mentions successMark := by
  have lead : successMark.Apart (errorMark ++ " ".toList) := by decide +kernel
  have other : successMark ≠ Snapshot.initialHeader := by decide +kernel
  refine (has_answer (by decide) (errorMark ++ " ".toList ++ refusal.message) seen).trans ?_
  rw [← refusal.message_has_successMark, Text.has_iff, Text.has_iff, lead.infix_append_iff]
  simp only [other, false_or]

theorem refused_has_errorMark (refusal : Refusal) (seen : Programme) :
    (ofBooking (.error refusal) seen).text.has errorMark := by
  rw [Text.has_iff]
  have begins : errorMark <+: (ofBooking (.error refusal) seen).text := by
    simp only [ofBooking, List.append_assoc]
    exact List.prefix_append ..
  exact begins.isInfix

theorem granted_has_successMark (r : Request) (seen : Programme) :
    (ofBooking (.ok r) seen).text.has successMark := by
  rw [Text.has_iff]
  have begins : successMark <+: (ofBooking (.ok r) seen).text := by
    simp only [ofBooking, List.append_assoc]
    exact List.prefix_append ..
  exact begins.isInfix

end Reply

namespace Programme.Unmarked

variable {seen : Programme}

theorem echo_has (h : seen.Unmarked) (message mark : Text)
    (lone : mark ∈ [successMark, errorMark, Snapshot.updateHeader]) :
    (Reply.echo message seen).text.has mark = message.has mark := by
  have others : ∀ mark ∈ [successMark, errorMark, Snapshot.updateHeader],
      mark ∈ Snapshot.marks ∧ mark ≠ Snapshot.initialHeader := by
    decide +kernel
  rw [Bool.eq_iff_iff, Reply.echo_has (others mark lone).1, or_iff_left]
  exact not_or.mpr ⟨(others mark lone).2, h mark lone⟩

end Programme.Unmarked

/-! ## What answers are taken for -/

namespace Notice

variable {seen : Programme}

theorem ofText_granted (r : Request) (seen : Programme) :
    ofText (Reply.ofBooking (.ok r) seen).text = .booking true :=
  if_pos (Reply.granted_has_successMark r seen)

/-- A refusal is taken for a sale if it quotes the mark of one. -/
theorem ofText_refused (unmarked : seen.Unmarked) (refusal : Refusal) :
    ofText (Reply.ofBooking (.error refusal) seen).text =
      .booking (refusal.quoted.any fun text => text.has successMark) := by
  have silent : ¬ seen.Mentions successMark := unmarked _ (by decide)
  have quotes := Reply.refused_has_successMark refusal seen
  rw [or_iff_left silent, ← List.any_eq_true] at quotes
  rw [ofText, Bool.eq_iff_iff.mpr quotes, if_pos (Reply.refused_has_errorMark refusal seen)]
  cases refusal.quoted.any fun text => text.has successMark <;> rfl

theorem ofText_snapshot (unmarked : seen.Unmarked) :
    ofText (Snapshot.render .initial seen) = .snapshot .initial := by
  have silent (mark : Text) (lone : mark ∈ [successMark, errorMark, Snapshot.updateHeader]) :
      ¬ seen.Mentions mark := unmarked mark lone
  rw [Snapshot.ofText_render, if_neg (silent _ (by decide)), if_neg (silent _ (by decide)), if_neg]
  rintro (update | ⟨-, header⟩)
  · cases update
  · exact silent _ (by decide) header

/-- A text that is sent back is taken for what its own marks say. -/
theorem ofText_echo (unmarked : seen.Unmarked) (message : Text) :
    ofText (Reply.echo message seen).text =
      if message.has successMark then .booking true
      else if message.has errorMark then .booking false
      else if (message.has Snapshot.updateMark ∨ seen.Mentions Snapshot.updateMark) ∧
        message.has Snapshot.updateHeader then .snapshot .update
      else .snapshot .initial := by
  have update : (Reply.echo message seen).text.has Snapshot.updateMark ↔
      message.has Snapshot.updateMark ∨ seen.Mentions Snapshot.updateMark := by
    have other : Snapshot.updateMark ≠ Snapshot.initialHeader := by decide +kernel
    rw [Reply.echo_has (by decide), or_iff_right other]
  have initial : (Reply.echo message seen).text.has Snapshot.initialHeader :=
    (Reply.echo_has (by decide) message seen).mpr (.inr (.inl rfl))
  simp only [ofText, carriesSnapshot, unmarked.echo_has message successMark (by decide),
    unmarked.echo_has message errorMark (by decide),
    unmarked.echo_has message Snapshot.updateHeader (by decide),
    Bool.and_eq_true, update, initial, Bool.true_or, if_true]

end Notice

/-! ## Customer and box office -/

namespace Programme

/-- The answer to the message repeats a mark that the message brought, and is taken for
    another answer. -/
inductive Misleads (p : Programme) (message : Text) : Prop where
  | refused {refusal : Refusal} {text : Text} (booking : ',' ∈ message)
      (refused : (p.book message).1 = .error refusal) (quoted : text ∈ refusal.quoted)
      (marked : text.has successMark) : Misleads p message
  | echoed (plain : ',' ∉ message) (other : message ∉ snapshotCommands)
      (marked : message.has successMark ∨ message.has errorMark ∨
        (message.has Snapshot.updateMark ∨ p.Mentions Snapshot.updateMark) ∧
          message.has Snapshot.updateHeader) : Misleads p message

theorem Books.ne_of_granted {p q : Programme} {message : Text} {r : Request}
    (books : p.Books message (.ok r) q) : q ≠ p := by
  cases books with
  | @granted _ i s read found here free =>
      obtain ⟨n, asked⟩ := List.exists_mem_of_ne_nil _ (Request.readable_of_parse read).some_seat
      intro same
      have there := congrArg (·[i]?) same
      simp only [getElem?_setSeats, if_pos, here, Option.map_some, Option.some.injEq] at there
      have plan : s.seats.bookAll r.seats = s.seats := congrArg Show.seats there
      have booked : n ∈ (s.seats.bookAll r.seats).bookedSeats :=
        (SeatPlan.mem_bookedSeats_bookAll free.isValid).mpr (.inr asked)
      exact free.not_mem_bookedSeats asked (plan ▸ booked)

theorem Books.eq_of_refused {p q : Programme} {message : Text} {refusal : Refusal}
    (books : p.Books message (.error refusal) q) : q = p := by
  cases books with
  | unread | noShow | taken => rfl

theorem misleads_iff_of_refused {p : Programme} {message : Text} {refusal : Refusal}
    (booking : ',' ∈ message) (refused : (p.book message).1 = .error refusal) :
    p.Misleads message ↔ ∃ text ∈ refusal.quoted, text.has successMark := by
  constructor
  · intro misleads
    cases misleads with
    | refused _ refused' quoted marked =>
        cases refused.symm.trans refused'
        exact ⟨_, quoted, marked⟩
    | echoed plain => exact absurd booking plain
  · rintro ⟨text, quoted, marked⟩
    exact .refused booking refused quoted marked

theorem misleads_iff_of_echoed {p : Programme} {message : Text} (plain : ',' ∉ message)
    (other : message ∉ snapshotCommands) :
    p.Misleads message ↔ message.has successMark ∨ message.has errorMark ∨
      (message.has Snapshot.updateMark ∨ p.Mentions Snapshot.updateMark) ∧
        message.has Snapshot.updateHeader := by
  constructor
  · intro misleads
    cases misleads with
    | refused booking => exact absurd booking plain
    | echoed _ _ marked => exact marked
  · exact .echoed plain other

/-- What the customer takes the answer for, where the box office says what it says of a booking. -/
theorem notice_of_booking {p : Programme} (unmarked : p.Unmarked) {message : Text}
    (booking : ',' ∈ message) :
    (∃ r, (p.book message).1 = .ok r ∧ (p.route message).2 ≠ p ∧
      Reply.bookingResult? (p.route message).1.text = some true ∧
      Notice.ofText (p.route message).1.text = .booking true ∧ ¬ p.Misleads message) ∨
    (∃ refusal, (p.book message).1 = .error refusal ∧ (p.route message).2 = p ∧
      Reply.bookingResult? (p.route message).1.text = some false ∧
      (Notice.ofText (p.route message).1.text = .booking false ↔ ¬ p.Misleads message)) := by
  have books := p.books message
  rw [route_of_comma booking]
  dsimp only
  cases outcome : (p.book message).1 with
  | ok r =>
      rw [outcome] at books
      refine .inl ⟨r, rfl, books.ne_of_granted, Reply.bookingResult?_ofBooking _ _,
        Notice.ofText_granted r _, ?_⟩
      rintro (⟨-, refused⟩ | ⟨plain⟩)
      · cases outcome.symm.trans refused
      · exact plain booking
  | error refusal =>
      rw [outcome] at books
      refine .inr ⟨refusal, rfl, books.eq_of_refused, Reply.bookingResult?_ofBooking _ _, ?_⟩
      rw [books.eq_of_refused, Notice.ofText_refused unmarked,
        misleads_iff_of_refused booking outcome, ← List.any_eq_true, Notice.booking.injEq,
        Bool.not_eq_true]

theorem notice_of_other {p : Programme} (unmarked : p.Unmarked) {message : Text}
    (plain : ',' ∉ message) :
    (p.route message).2 = p ∧ Reply.bookingResult? (p.route message).1.text = none ∧
      (Notice.ofText (p.route message).1.text = .snapshot .initial ↔ ¬ p.Misleads message) := by
  have routes := p.routes message
  generalize (p.route message).1 = reply, (p.route message).2 = after at routes
  cases routes with
  | snapshot command =>
      refine ⟨rfl, Reply.bookingResult?_snapshot p,
        iff_of_true (Notice.ofText_snapshot unmarked) ?_⟩
      rintro (⟨booking⟩ | ⟨-, other⟩)
      · exact plain booking
      · exact other command
  | booking booking => exact absurd booking plain
  | echo other =>
      refine ⟨rfl, Reply.bookingResult?_echo message p, ?_⟩
      rw [Notice.ofText_echo unmarked, misleads_iff_of_echoed plain other]
      split_ifs <;> simp_all

/-- By how it begins, an answer tells truly whether seats were booked, whether a booking was
    refused, or neither. A customer, who looks for the marks anywhere in the answer, comes to the
    same unless the message misleads; and no customer takes a sale for anything else. -/
theorem notice_eq_iff {p : Programme} (unmarked : p.Unmarked) (message : Text) :
    let reply := (p.route message).1
    let after := (p.route message).2
    (Reply.bookingResult? reply.text = some true ↔ after ≠ p) ∧
    (Reply.bookingResult? reply.text = some false ↔ ',' ∈ message ∧ after = p) ∧
    (after ≠ p → Notice.ofText reply.text = .booking true) ∧
    (Notice.ofText reply.text = Notice.ofResult (Reply.bookingResult? reply.text) ↔
      ¬ p.Misleads message) := by
  intro reply after
  by_cases booking : ',' ∈ message
  · rcases notice_of_booking unmarked booking with
      ⟨r, -, sold, tells, taken, straight⟩ | ⟨refusal, -, same, tells, taken⟩
    · simp [reply, after, tells, taken, sold, straight, Notice.ofResult]
    · simp [reply, after, tells, taken, same, booking, Notice.ofResult]
  · obtain ⟨same, tells, taken⟩ := notice_of_other unmarked booking
    simp [reply, after, tells, taken, same, booking, Notice.ofResult]

/-- A sale is taken for a sale; a refusal that quotes no mark is taken for a refusal. -/
theorem notice_of_plain_messages : single.Unmarked ∧
    Notice.ofText (single.route "PVR,Inception,1".toList).1.text = .booking true ∧
    Notice.ofText (single.route "PVR,Inception,21".toList).1.text = .booking false := by
  have unmarked : single.Unmarked := by decide +kernel
  obtain ⟨-, -, sold, -⟩ := notice_eq_iff unmarked "PVR,Inception,1".toList
  obtain ⟨-, refused, -, straight⟩ := notice_eq_iff unmarked "PVR,Inception,21".toList
  refine ⟨unmarked, sold (by decide +kernel), ?_⟩
  have outcome : (single.book "PVR,Inception,21".toList).1 = .error (.noSuchSeat "21".toList) := by
    decide +kernel
  rw [straight.mpr, refused.mpr]
  · rfl
  · decide +kernel
  · rw [misleads_iff_of_refused (by decide +kernel) outcome]
    decide +kernel

/-- A booking of a show that does not exist books nothing and is answered as refused, and a text
    without a comma is sent back; a customer takes both answers for sales. -/
theorem notice_of_quoted_mark : (∀ mark ∈ Snapshot.marks, ¬ single.Mentions mark) ∧
    (single.route "SUCCESS:,Inception,1".toList).2 = single ∧
    Reply.bookingResult? (single.route "SUCCESS:,Inception,1".toList).1.text = some false ∧
    Notice.ofText (single.route "SUCCESS:,Inception,1".toList).1.text = .booking true ∧
    (single.route "SUCCESS:".toList).2 = single ∧
    Reply.bookingResult? (single.route "SUCCESS:".toList).1.text = none ∧
    Notice.ofText (single.route "SUCCESS:".toList).1.text = .booking true := by
  decide +kernel

end Programme

end BoxOffice

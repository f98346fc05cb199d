import BoxOffice.Proofs.Grammar
import BoxOffice.Proofs.Listing

/-! # Shows that nobody put on

An answer repeats words of the message in front of its snapshot: a text that is sent back, a bad
seat field, the names of a show that does not exist. Words of several lines can be the lines of a
show, and then the customer holds a show that is not on the programme (`Programme.Conjures`). Every
other answer is read as exactly the shows of the programme after it (`Programme.parse_reply_iff`).
-/

namespace BoxOffice

/-! ## Which texts tell of a show -/

namespace Snapshot

/-- The text has a movie line with a date, and the last theater line above it has a name. -/
def TellsOfShow (text : Text) : Prop :=
  ∃ before theater between rest after,
    text.lines = before ++ (theaterMark ++ theater) :: between ++ (movieMark ++ rest) :: after ∧
      theater ≠ [] ∧ (∀ line ∈ between, ¬ theaterMark <+: line) ∧ (titleAndDate? rest).isSome

namespace Reader

variable {r : Reader} {line : Text} {lines : List Text}

theorem after?_eq_none {lead text : Text} (other : ¬ lead <+: text) :
    Text.after? lead text = none := by
  rw [Text.after?, if_neg (List.isPrefixOf_iff_prefix.not.mpr other)]

theorem theater_addShow (r : Reader) (rest : Text) : (r.addShow rest).theater = r.theater := by
  unfold addShow
  split <;> rfl

theorem theater_setSeats (r : Reader) (line : Text) : (r.setSeats line).theater = r.theater := by
  unfold setSeats
  split <;> rfl

theorem theater_readLine (other : ¬ theaterMark <+: line) :
    (r.readLine line).theater = r.theater := by
  unfold readLine
  rw [after?_eq_none other]
  cases Text.after? movieMark line with
  | some rest => exact theater_addShow r rest
  | none =>
      dsimp only
      split
      · exact theater_setSeats r line
      · rfl

theorem theater_readLines (others : ∀ line ∈ lines, ¬ theaterMark <+: line) :
    (r.readLines lines).theater = r.theater := by
  induction lines generalizing r with
  | nil => rfl
  | cons line lines ih =>
      rw [List.forall_mem_cons] at others
      rw [readLines_cons, ih others.2, theater_readLine others.1]

theorem exists_theaterLine {theater : Text}
    (inside : (start.readLines lines).theater = some theater) :
    theater ≠ [] ∧ ∃ before between, lines = before ++ (theaterMark ++ theater) :: between ∧
      ∀ line ∈ between, ¬ theaterMark <+: line := by
  induction lines using List.reverseRecOn with
  | nil => cases inside
  | append_singleton lines line ih =>
      rw [readLines_append, readLines_cons, readLines_nil] at inside
      by_cases enters : theaterMark <+: line
      · obtain ⟨name, rfl⟩ := enters
        rw [readLine_theater] at inside
        simp only [enterTheater, List.isEmpty_iff, Option.ite_none_left_eq_some,
          Option.some.injEq] at inside
        obtain ⟨filled, rfl⟩ := inside
        exact ⟨filled, lines, [], rfl, List.forall_mem_nil _⟩
      · rw [theater_readLine enters] at inside
        obtain ⟨filled, before, between, rfl, others⟩ := ih inside
        refine ⟨filled, before, between ++ [line], by simp, ?_⟩
        simp only [List.forall_mem_append, List.forall_mem_singleton]
        exact ⟨others, enters⟩

theorem length_shows_setSeats (r : Reader) (line : Text) :
    (r.setSeats line).shows.length = r.shows.length := by
  unfold setSeats
  split
  · rename_i shows
    simp [shows]
  · rfl

/-- Shows come from movie lines with a date, and only below the name of a theater. -/
theorem shows_readLine_ne_nil : (r.readLine line).shows ≠ [] ↔
    r.shows ≠ [] ∨
      r.theater.isSome ∧ ∃ rest, line = movieMark ++ rest ∧ (titleAndDate? rest).isSome := by
  by_cases shown : movieMark <+: line
  · obtain ⟨rest, rfl⟩ := shown
    simp only [readLine_movie, addShow, List.append_cancel_left_eq, exists_eq_left']
    cases r.theater <;> cases titleAndDate? rest <;> simp
  · have other (rest : Text) : line ≠ movieMark ++ rest := by
      rintro rfl
      exact shown (List.prefix_append ..)
    unfold readLine
    simp only [other, false_and, exists_false, and_false, or_false]
    cases Text.after? theaterMark line with
    | some theater => rfl
    | none =>
        rw [after?_eq_none shown]
        dsimp only
        split
        · rw [← List.length_pos_iff, length_shows_setSeats, List.length_pos_iff]
        · rfl

theorem shows_readLines_ne_nil_of (filled : r.shows ≠ []) : (r.readLines lines).shows ≠ [] := by
  induction lines generalizing r with
  | nil => exact filled
  | cons line lines ih => exact ih (shows_readLine_ne_nil.mpr (.inl filled))

theorem exists_movieLine (filled : (start.readLines lines).shows ≠ []) :
    ∃ before rest after, lines = before ++ (movieMark ++ rest) :: after ∧
      (start.readLines before).theater.isSome ∧ (titleAndDate? rest).isSome := by
  induction lines using List.reverseRecOn with
  | nil => exact absurd rfl filled
  | append_singleton lines line ih =>
      rw [readLines_append, readLines_cons, readLines_nil, shows_readLine_ne_nil] at filled
      rcases filled with earlier | ⟨inside, rest, rfl, dated⟩
      · obtain ⟨before, rest, after, rfl, inside, dated⟩ := ih earlier
        exact ⟨before, rest, after ++ [line], by simp, inside, dated⟩
      · exact ⟨lines, rest, [], rfl, inside, dated⟩

end Reader

theorem parse_ne_nil_iff {text : Text} : parse text ≠ [] ↔ TellsOfShow text := by
  rw [parse, ne_eq, List.reverse_eq_nil_iff]
  constructor
  · intro filled
    obtain ⟨above, rest, after, lines, inside, dated⟩ := Reader.exists_movieLine filled
    obtain ⟨theater, inside⟩ := Option.isSome_iff_exists.mp inside
    obtain ⟨named, before, between, rfl, others⟩ := Reader.exists_theaterLine inside
    exact ⟨before, theater, between, rest, after, lines, named, others, dated⟩
  · intro tells
    obtain ⟨before, theater, between, rest, after, lines, named, others, dated⟩ := tells
    have inside : (Reader.start.readLines (before ++ (theaterMark ++ theater) :: between)).theater =
        some theater := by
      rw [Reader.readLines_append, Reader.readLines_cons, Reader.theater_readLines others,
        Reader.readLine_theater]
      simp [Reader.enterTheater, named]
    rw [lines, Reader.readLines_append, Reader.readLines_cons]
    refine Reader.shows_readLines_ne_nil_of
      (Reader.shows_readLine_ne_nil.mpr (.inr ⟨?_, rest, rfl, dated⟩))
    rw [inside]
    rfl

/-- A show takes two lines. -/
theorem not_tellsOfShow_of_line {text : Text} (plain : '\n' ∉ text) : ¬ TellsOfShow text := by
  intro ⟨before, theater, between, rest, after, lines, _⟩
  have short : text.lines.length ≤ 1 := by
    rw [Text.lines, List.splitOn_eq_singleton plain, Text.linesOfPieces]
    split <;> simp
  have long := congrArg List.length lines
  simp only [List.length_append, List.length_cons] at long
  omega

end Snapshot

/-! ## Line feeds in answers -/

theorem Request.subset_of_mem_fields {text field : Text} (h : field ∈ fields text) :
    field ⊆ text := by
  have piece : field ∈ text.splitOn ',' := by
    unfold fields at h
    split at h
    · exact List.dropLast_subset _ h
    · exact h
  have joined (pieces : List Text) (member : field ∈ pieces) :
      field ⊆ ([','] : Text).intercalate pieces := by
    induction pieces with
    | nil => cases member
    | cons first others ih =>
        cases others with
        | nil =>
            rw [List.mem_singleton] at member
            simp [member]
        | cons next others =>
            rw [List.intercalate_cons_cons]
            rcases List.mem_cons.mp member with rfl | later
            · simp
            · exact List.subset_append_of_subset_right _ (ih later)
  have whole := joined _ piece
  rwa [List.intercalate_splitOn] at whole

theorem Request.quoted_mem_fields {text word : Text} {refusal : Refusal}
    (unread : parse text = .error refusal) (quoted : word ∈ refusal.quoted) :
    word ∈ fields text := by
  rcases parse_eq_error.mp unread with ⟨rfl, -⟩ | ⟨theater, movie, seatFields, split, refused⟩
  · cases quoted
  · obtain ⟨good, bad, rest, rfl, -, refused⟩ := seatsOfFields_eq_error.mp refused
    have reads := fieldReads bad
    rw [refused] at reads
    have same : word = bad := by
      cases reads with
      | noSuchSeat | notANumber => exact List.mem_singleton.mp quoted
    rw [split, same]
    simp

theorem Programme.Books.quoted_mem_fields {p q : Programme} {message word : Text}
    {refusal : Refusal} (books : p.Books message (.error refusal) q)
    (quoted : word ∈ refusal.quoted) :
    word ∈ Request.fields message := by
  cases books with
  | unread unread => exact Request.quoted_mem_fields unread quoted
  | noShow read absent =>
      obtain ⟨field, rest, split, -⟩ := Request.parse_eq_ok.mp read
      rw [split]
      simp only [Refusal.quoted, List.mem_cons, List.not_mem_nil, or_false] at quoted
      rcases quoted with rfl | rfl <;> simp
  | taken => cases quoted

theorem Refusal.line_feed_not_mem_message {refusal : Refusal}
    (plain : ∀ word ∈ refusal.quoted, '\n' ∉ word) : '\n' ∉ refusal.message := by
  cases refusal with
  | tooFewFields | seatsTaken => decide
  | noSuchSeat field =>
      have fixed : '\n' ∉ "Invalid seat number ".toList ∧ '\n' ∉ ". Must be 1-20.".toList := by
        decide +kernel
      have field_plain : '\n' ∉ field := plain field (List.mem_singleton_self field)
      show '\n' ∉ "Invalid seat number ".toList ++ field ++ ". Must be 1-20.".toList
      simp only [List.mem_append, fixed, field_plain, or_self, not_false_eq_true]
  | notANumber field =>
      have fixed : '\n' ∉ "Invalid seat number format: ".toList := by decide +kernel
      have field_plain : '\n' ∉ field := plain field (List.mem_singleton_self field)
      show '\n' ∉ "Invalid seat number format: ".toList ++ field
      simp only [List.mem_append, fixed, field_plain, or_self, not_false_eq_true]
  | noSuchShow theater movie =>
      have fixed : '\n' ∉ "Show not found - ".toList ∧ '\n' ∉ " at ".toList := by decide +kernel
      have movie_plain : '\n' ∉ movie := plain movie (List.mem_cons_self ..)
      have theater_plain : '\n' ∉ theater :=
        plain theater (List.mem_cons_of_mem _ (List.mem_singleton_self _))
      show '\n' ∉ "Show not found - ".toList ++ movie ++ " at ".toList ++ theater
      simp only [List.mem_append, fixed, movie_plain, theater_plain, or_self, not_false_eq_true]

/-- A granted booking is told in one line, since the programme is named by lines. -/
theorem Programme.Books.line_feed_not_mem_granted {p q : Programme} {message : Text} {r : Request}
    (legible : ∀ s ∈ p, s.IsLegible) (books : p.Books message (.ok r) q) :
    '\n' ∉ successMark ++ " Booked seats " ++ SeatNumber.list r.seatsAscending ++
      " for " ++ r.movie ++
      " at " ++ r.theater := by
  cases books with
  | granted read found here free =>
      obtain ⟨s, there, theater, movie⟩ := exists_show_of_position? found
      have h := legible s (List.mem_of_getElem? there)
      rw [← theater, ← movie]
      have fixed : '\n' ∉ successMark ∧ '\n' ∉ " Booked seats ".toList ∧ '\n' ∉ " for ".toList ∧
          '\n' ∉ " at ".toList := by
        decide
      have listed : '\n' ∉ SeatNumber.list r.seatsAscending := by
        refine Text.not_mem_join (by decide) fun text member => ?_
        obtain ⟨n, -, rfl⟩ := List.mem_map.mp member
        exact Text.not_mem_ofNat (by decide) _
      simp only [List.mem_append, fixed, listed, h.theater, h.movie, or_self, not_false_eq_true]

/-! ## Answers -/

namespace Programme

open Snapshot (TellsOfShow)

/-- The answer to the message repeats words of it that tell of a show. -/
inductive Conjures (p : Programme) (message : Text) : Prop where
  | refused {refusal : Refusal} (booking : ',' ∈ message)
      (refused : (p.book message).1 = .error refusal)
      (tells : TellsOfShow (errorMark ++ " " ++ refusal.message)) : Conjures p message
  | echoed (plain : ',' ∉ message) (other : message ∉ snapshotCommands)
      (tells : TellsOfShow ("Echo: " ++ message)) : Conjures p message

variable {p : Programme} {message : Text}

theorem not_conjures_of_granted {r : Request} (booking : ',' ∈ message)
    (granted : (p.book message).1 = .ok r) : ¬ p.Conjures message := by
  intro conjures
  cases conjures with
  | refused _ refused => cases granted.symm.trans refused
  | echoed plain => exact plain booking

theorem conjures_iff_of_refused {refusal : Refusal} (booking : ',' ∈ message)
    (refused : (p.book message).1 = .error refusal) :
    p.Conjures message ↔ TellsOfShow (errorMark ++ " " ++ refusal.message) := by
  constructor
  · intro conjures
    cases conjures with
    | refused _ refused' tells =>
        cases refused.symm.trans refused'
        exact tells
    | echoed plain => exact absurd booking plain
  · exact .refused booking refused

theorem conjures_iff_of_echoed (plain : ',' ∉ message) (other : message ∉ snapshotCommands) :
    p.Conjures message ↔ TellsOfShow ("Echo: " ++ message) := by
  constructor
  · intro conjures
    cases conjures with
    | refused booking => exact absurd booking plain
    | echoed _ _ tells => exact tells
  · exact .echoed plain other

theorem not_conjures_of_line (line : '\n' ∉ message) : ¬ p.Conjures message := by
  intro conjures
  cases conjures with
  | refused booking refused tells =>
      have books := p.books message
      rw [refused] at books
      have quotes := Refusal.line_feed_not_mem_message fun word quoted inside =>
        line (Request.subset_of_mem_fields (books.quoted_mem_fields quoted) inside)
      refine Snapshot.not_tellsOfShow_of_line ?_ tells
      have fixed : '\n' ∉ errorMark ∧ '\n' ∉ " ".toList := by decide
      simp only [List.mem_append, fixed, quotes, or_self, not_false_eq_true]
  | echoed _ _ tells =>
      refine Snapshot.not_tellsOfShow_of_line ?_ tells
      have fixed : '\n' ∉ "Echo: ".toList := by decide
      simp only [List.mem_append, fixed, line, or_self, not_false_eq_true]

/-- An answer is read as what its words tell of and then the programme. -/
theorem exists_parse_route (legible : ∀ s ∈ p, s.IsLegible) (message : Text) :
    ∃ foreword, (TellsOfShow foreword ↔ p.Conjures message) ∧
      Snapshot.parse (p.route message).1.text =
        Snapshot.parse foreword ++ (p.route message).2.grouped := by
  by_cases booking : ',' ∈ message
  · have books := p.books message
    have after :=
      Snapshot.parse_render_of_legible (legible_of_bill books.growsTo.bill legible) .initial
    rw [route_of_comma booking]
    cases outcome : (p.book message).1 with
    | ok r =>
        rw [outcome] at books
        have plain := Snapshot.not_tellsOfShow_of_line (books.line_feed_not_mem_granted legible)
        refine ⟨_, iff_of_false plain (not_conjures_of_granted booking outcome), ?_⟩
        rw [← after]
        exact Snapshot.parse_append_render ..
    | error refusal =>
        refine ⟨_, (conjures_iff_of_refused booking outcome).symm, ?_⟩
        rw [← after]
        exact Snapshot.parse_append_render ..
  · have routes := p.routes message
    have now := Snapshot.parse_render_of_legible legible .initial
    generalize (p.route message).1 = reply, (p.route message).2 = after at routes
    cases routes with
    | booking comma => exact absurd comma booking
    | snapshot command =>
        refine ⟨[], iff_of_false (Snapshot.not_tellsOfShow_of_line List.not_mem_nil) ?_, now⟩
        intro conjures
        cases conjures with
        | refused comma => exact booking comma
        | echoed _ other => exact other command
    | echo other =>
        refine ⟨_, (conjures_iff_of_echoed booking other).symm, ?_⟩
        rw [← now]
        exact Snapshot.parse_append_render ..

/-- An answer is read as the shows of the programme after it, in grouped order, behind whatever its
    words tell of: behind nothing if and only if the message conjures up no show. No sale does, nor
    a message of one line. The shows that are read are those the customer holds from then on. -/
theorem parse_reply_iff (legible : ∀ s ∈ p, s.IsLegible) (message : Text) :
    let reply := (p.route message).1
    let after := (p.route message).2
    (∃ phantoms, Snapshot.parse reply.text = phantoms ++ after.grouped) ∧
    (Snapshot.parse reply.text = after.grouped ↔ ¬ p.Conjures message) ∧
    (after ≠ p → ¬ p.Conjures message) ∧
    ('\n' ∉ message → ¬ p.Conjures message) ∧
    ∀ held : Client.Received, (held.take reply.text).shows = Snapshot.parse reply.text := by
  intro reply after
  obtain ⟨foreword, tells, read⟩ := exists_parse_route legible message
  have routes : p.Routes message reply after := p.routes message
  refine ⟨⟨_, read⟩, ?_, ?_, not_conjures_of_line, ?_⟩
  · rw [← tells, ← Snapshot.parse_ne_nil_iff, not_not]
    exact (Eq.congr_left read).trans List.append_left_eq_self
  · intro sold
    have announced := routes.announce_iff.mpr sold
    have booking := routes.comma_of_announce announced
    cases outcome : (p.book message).1 with
    | ok r => exact not_conjures_of_granted booking outcome
    | error refusal =>
        have books := p.books message
        rw [outcome] at books
        refine absurd (books.eq_of_refused) ?_
        rwa [show after = (p.book message).2
          from congrArg Prod.snd (route_of_comma booking)] at sold
  · exact Client.Received.shows_take (Snapshot.carriesSnapshot_of_suffix routes.render_suffix)

/-- A sale is read as the programme after it, and so is a text of one line that looks like a
    show. -/
theorem single_read_after_plain_messages : (∀ s ∈ single, s.IsLegible) ∧
    Snapshot.parse (single.route "PVR,Inception,1".toList).1.text =
      (single.route "PVR,Inception,1".toList).2.grouped ∧
    (single.route "PVR,Inception,1".toList).2 ≠ single ∧
    Snapshot.parse (single.route "Theater: X   Movie: Y (Z)".toList).1.text = single.grouped := by
  have legible : ∀ s ∈ single, s.IsLegible := by decide +kernel
  have sold : (single.route "PVR,Inception,1".toList).2 ≠ single := by decide +kernel
  obtain ⟨-, sale, no_sale, -, -⟩ := parse_reply_iff legible "PVR,Inception,1".toList
  obtain ⟨-, echo, -, no_line, -⟩ := parse_reply_iff legible "Theater: X   Movie: Y (Z)".toList
  exact ⟨legible, sale.mpr (no_sale sold), sold, echo.mpr (no_line (by decide +kernel))⟩

/-- A text that is sent back, the name of a theater and a seat field can each bring a show that is
    not on the programme. -/
theorem single_read_with_phantoms : (∀ s ∈ single, s.IsLegible) ∧
    (∀ message ∈ ["a\nTheater: X\n  Movie: Y (Z)".toList,
      "a\nTheater: X\n  Movie: Y (Z),b,1".toList,
        "PVR,Inception,1\nTheater: X\n  Movie: Y (Z)".toList],
      (single.route message).2 = single ∧
        Snapshot.parse (single.route message).1.text = ⟨"X", "Y", "Z", .free⟩ :: single.grouped) ∧
    ¬ ∀ message, Snapshot.parse (single.route message).1.text =
      (single.route message).2.grouped := by
  refine ⟨by decide +kernel, by decide +kernel, fun all => ?_⟩
  have echo := all "a\nTheater: X\n  Movie: Y (Z)".toList
  revert echo
  decide +kernel

end Programme

end BoxOffice

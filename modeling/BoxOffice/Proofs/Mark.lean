import BoxOffice.Notice
import BoxOffice.Proofs.Snapshot
import Mathlib.Data.List.Infix

/-! # Where a mark can stand

Customers look for marks anywhere in a text, and a text is put together from fixed words, numbers
and names that may hold anything. No mark of the protocol runs across a seam between these pieces,
so a snapshot holds one only where its header or a name does (`Snapshot.has_render`).
-/

namespace BoxOffice

namespace Text

theorem has_iff {text mark : Text} : text.has mark ↔ mark <:+: text := by
  induction text with
  | nil => cases mark <;> simp [has, cut?]
  | cons c rest ih =>
      rw [List.infix_cons_iff, ← ih, has, cut?, ← List.isPrefixOf_iff_prefix]
      split
      · simp [*]
      · simp [*, has]

/-! ## Seams -/

variable {mark lead before after rest : Text}

/-- A mark does not run across a character that it does not hold. -/
theorem infix_append_cons_iff {c : Char} (absent : c ∉ mark) :
    mark <:+: before ++ c :: after ↔ mark <:+: before ∨ mark <:+: after := by
  constructor
  · intro inside
    rcases List.infix_append_iff.mp inside with inside | inside | ⟨front, back, rfl, ends, begins⟩
    · exact .inl inside
    · rcases List.infix_cons_iff.mp inside with begins | inside
      · cases mark with
        | nil => exact .inr List.nil_infix
        | cons d mark =>
            obtain ⟨rfl, -⟩ := List.cons_prefix_cons.mp begins
            exact absurd (List.mem_cons_self ..) absent
      · exact .inr inside
    · cases back with
      | nil => exact .inl (by simpa using ends.isInfix)
      | cons d back =>
          obtain ⟨rfl, -⟩ := List.cons_prefix_cons.mp begins
          exact absurd (List.mem_append_right _ (List.mem_cons_self ..)) absent
  · rintro (inside | inside)
    · exact List.infix_append_of_infix_left inside
    · exact List.infix_append_of_infix_right (List.infix_cons inside)

/-- No occurrence of the mark begins in the lead, whatever follows it. -/
def Apart (mark lead : Text) : Prop :=
  ¬ mark <:+: lead ∧ ∀ tail ∈ lead.tails, tail <+: mark → tail = []

instance : Decidable (Apart mark lead) := inferInstanceAs (Decidable (_ ∧ _))

theorem Apart.ne_nil (h : Apart mark lead) : mark ≠ [] := by
  rintro rfl
  exact h.1 List.nil_infix

theorem Apart.infix_append_iff (h : Apart mark lead) : mark <:+: lead ++ rest ↔ mark <:+: rest := by
  constructor
  · intro inside
    rcases List.infix_append_iff.mp inside with inside | inside | ⟨front, back, rfl, ends, begins⟩
    · exact absurd inside h.1
    · exact inside
    · rw [h.2 front ((List.mem_tails _ _).mpr ends) (List.prefix_append ..)]
      exact begins.isInfix
  · exact List.infix_append_of_infix_right

theorem infix_concat_iff {c : Char} (other : mark.getLast? ≠ some c) (filled : mark ≠ []) :
    mark <:+: before ++ [c] ↔ mark <:+: before := by
  rw [List.infix_concat_iff, or_iff_right]
  intro ends
  obtain ⟨front, whole⟩ := ends
  have last := congrArg List.getLast? whole
  rw [List.getLast?_concat, List.getLast?_append_of_ne_nil _ filled] at last
  exact other last

/-- A mark is found in one of the pieces or behind them all, if it never runs out of a piece. -/
theorem infix_flatMap_append_iff {α : Type} {f : α → Text} {holds : α → Prop}
    (each : ∀ a rest, mark <:+: f a ++ rest ↔ holds a ∨ mark <:+: rest) (pieces : List α)
    (rest : Text) :
    mark <:+: pieces.flatMap f ++ rest ↔ (∃ a ∈ pieces, holds a) ∨ mark <:+: rest := by
  induction pieces with
  | nil => simp
  | cons a pieces ih =>
      rw [List.flatMap_cons, List.append_assoc, each, ih, List.exists_mem_cons_iff, or_assoc]

end Text

/-- Whether a name or the date of a show holds the mark. -/
def Show.Mentions (s : Show) (mark : Text) : Prop :=
  s.theater.has mark ∨ s.movie.has mark ∨ s.date.has mark

def Programme.Mentions (p : Programme) (mark : Text) : Prop := ∃ s ∈ p, s.Mentions mark

instance (s : Show) (mark : Text) : Decidable (s.Mentions mark) :=
  inferInstanceAs (Decidable (_ ∨ _))

instance (p : Programme) (mark : Text) : Decidable (p.Mentions mark) :=
  inferInstanceAs (Decidable (∃ s ∈ p, s.Mentions mark))

namespace Snapshot

/-! ## Marks of the protocol -/

/-- What a line of seats is written with, its digits apart. -/
def seatsLetters : Text := seatsMark ++ " " ++ soldOut ++ ", " ++ totalMark ++ "/" ++ ")"

/-- A mark that cannot be mistaken for a part of the lines of a snapshot, nor run
    across their seams. -/
structure IsMark (mark : Text) : Prop where
  newline : '\n' ∉ mark
  opening : '(' ∉ mark
  closing : ')' ∉ mark
  theater : mark.Apart theaterMark
  movie : mark.Apart movieMark
  blank : mark.getLast? ≠ some ' '
  seats : ∃ c ∈ mark, ¬ c.isDigit ∧ c ∉ seatsLetters

/-- What customers look for. -/
def marks : List Text := [successMark, errorMark, initialHeader, updateMark, updateHeader]

theorem isMark_of_mem {mark : Text} (h : mark ∈ marks) : IsMark mark := by
  have breaks : ∀ mark ∈ marks, '\n' ∉ mark ∧ '(' ∉ mark ∧ ')' ∉ mark := by decide +kernel
  have seams : ∀ mark ∈ marks, mark.Apart theaterMark ∧ mark.Apart movieMark ∧
      mark.getLast? ≠ some ' ' := by
    decide +kernel
  have letters : ∀ mark ∈ marks, mark.any fun c => !c.isDigit && !seatsLetters.contains c := by
    decide +kernel
  obtain ⟨newline, opening, closing⟩ := breaks mark h
  obtain ⟨theater, movie, blank⟩ := seams mark h
  exact ⟨newline, opening, closing, theater, movie, blank, by simpa using letters mark h⟩

/-! ## Lines of a snapshot -/

theorem not_mem_seatsLine {c : Char} (digit : ¬ c.isDigit) (other : c ∉ seatsLetters) (s : Show) :
    c ∉ seatsLine s := by
  simp only [seatsLetters, List.mem_append, not_or] at other
  obtain ⟨⟨⟨⟨⟨⟨seats, blank⟩, sold⟩, comma⟩, total⟩, slash⟩, closing⟩ := other
  have listed : c ∉ seatList s.seats.freeSeats := by
    unfold seatList
    split
    · exact sold
    · refine Text.not_mem_join comma fun text member => ?_
      obtain ⟨n, -, rfl⟩ := List.mem_map.mp member
      exact Text.not_mem_ofNat digit _
  simp only [seatsLine, List.mem_append, not_or]
  simp only [seats, blank, listed, total, slash, closing, Text.not_mem_ofNat digit,
    not_false_eq_true, and_self]

namespace IsMark

variable {mark : Text}

theorem ne_nil (h : IsMark mark) : mark ≠ [] := h.theater.ne_nil

theorem not_infix_seatsLine (h : IsMark mark) (s : Show) : ¬ mark <:+: seatsLine s := by
  obtain ⟨c, member, digit, other⟩ := h.seats
  exact fun inside => not_mem_seatsLine digit other s (inside.subset member)

theorem infix_append_newline_iff (h : IsMark mark) {before after : Text} :
    mark <:+: before ++ '\n' :: after ↔ mark <:+: before ∨ mark <:+: after :=
  Text.infix_append_cons_iff h.newline

theorem infix_movieLine_iff (h : IsMark mark) (s : Show) :
    mark <:+: movieLine s ↔ mark <:+: s.movie ∨ mark <:+: s.date := by
  have pieces :
      movieLine s = movieMark ++ ((s.movie ++ [' ']) ++ '(' :: (s.date ++ ')' :: [])) := by
    simp [movieLine]
  rw [pieces, h.movie.infix_append_iff, Text.infix_append_cons_iff h.opening,
    Text.infix_append_cons_iff h.closing, Text.infix_concat_iff h.blank h.ne_nil,
    List.infix_nil, or_iff_left h.ne_nil]

theorem infix_showLines_iff (h : IsMark mark) (s : Show) (rest : Text) :
    mark <:+: showLines s ++ rest ↔ (mark <:+: s.movie ∨ mark <:+: s.date) ∨ mark <:+: rest := by
  have pieces : showLines s ++ rest = movieLine s ++ '\n' :: (seatsLine s ++ '\n' :: rest) := by
    simp [showLines]
  rw [pieces, h.infix_append_newline_iff, h.infix_append_newline_iff, h.infix_movieLine_iff,
    or_iff_right (h.not_infix_seatsLine s)]

theorem infix_theaterLines_iff (h : IsMark mark) (p : Programme) (theater rest : Text) :
    mark <:+: theaterLines p theater ++ rest ↔
      (mark <:+: theater ∨ ∃ s ∈ p.showsAt theater, mark <:+: s.movie ∨ mark <:+: s.date) ∨
        mark <:+: rest := by
  have pieces : theaterLines p theater ++ rest =
      theaterMark ++
        (theater ++ '\n' :: ((p.showsAt theater).flatMap showLines ++ ([] ++ '\n' :: rest))) := by
    simp [theaterLines]
  rw [pieces, h.theater.infix_append_iff, h.infix_append_newline_iff,
    Text.infix_flatMap_append_iff h.infix_showLines_iff, h.infix_append_newline_iff, List.infix_nil,
    or_iff_right h.ne_nil, or_assoc]

end IsMark

theorem mentions_iff {p : Programme} {mark : Text} :
    p.Mentions mark ↔ ∃ theater ∈ p.theaters,
      mark <:+: theater ∨ ∃ s ∈ p.showsAt theater, mark <:+: s.movie ∨ mark <:+: s.date := by
  simp only [Programme.Mentions, Show.Mentions, Text.has_iff, Programme.mem_theaters,
    Programme.showsAt, List.mem_filter, beq_iff_eq]
  constructor
  · rintro ⟨s, there, theater | names⟩
    · exact ⟨s.theater, ⟨s, there, rfl⟩, .inl theater⟩
    · exact ⟨s.theater, ⟨s, there, rfl⟩, .inr ⟨s, ⟨there, rfl⟩, names⟩⟩
  · rintro ⟨theater, ⟨s, there, rfl⟩, inside | ⟨s, ⟨there, -⟩, names⟩⟩
    · exact ⟨s, there, .inl inside⟩
    · exact ⟨s, there, .inr names⟩

theorem has_render {mark : Text} (h : mark ∈ marks) (kind : Kind) (p : Programme) :
    (render kind p).has mark ↔ kind.header.has mark ∨ p.Mentions mark := by
  have footers : ∀ mark ∈ marks, ∀ kind ∈ [Kind.initial, Kind.update], ¬ mark <:+: kind.footer := by
    decide +kernel
  have footer : ¬ mark <:+: kind.footer := footers mark h kind (by cases kind <;> decide)
  have isMark := isMark_of_mem h
  have pieces : render kind p =
      kind.header ++ '\n' ::
        (p.theaters.flatMap (theaterLines p) ++ (kind.footer ++ '\n' :: [])) := by
    simp [render]
  rw [Text.has_iff, Text.has_iff, pieces, isMark.infix_append_newline_iff,
    Text.infix_flatMap_append_iff (isMark.infix_theaterLines_iff p),
    isMark.infix_append_newline_iff, List.infix_nil, or_iff_left isMark.ne_nil, or_iff_left footer,
    mentions_iff]

end Snapshot

end BoxOffice

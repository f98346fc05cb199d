import BoxOffice.Proofs.AllOrNothing
import BoxOffice.Proofs.Mark
import BoxOffice.Proofs.RoundTrip

/-! # What stands in front of a snapshot

The reader carries a theater and a newest show from line to line, and an answer puts words of the
customer in front of its snapshot. Nothing of them reaches the snapshot: its header is passed over,
and its first theater line forgets both. From there on the reader only adds to the shows it holds
(`Reader.readLines_onTop`), so a text in front is read as if it stood alone (`parse_append_render`).
-/

namespace BoxOffice

/-! ## One character more at the end -/

namespace Text

variable {mark lead text : Text} {c : Char}

theorem prefix_concat_iff_of_getLast? (text : Text) (other : lead.getLast? ≠ some c) :
    lead <+: text ++ [c] ↔ lead <+: text := by
  rw [List.prefix_concat_iff, or_iff_right]
  rintro rfl
  exact other List.getLast?_concat

theorem after?_concat (other : lead.getLast? ≠ some c) :
    after? lead (text ++ [c]) = (after? lead text).map (· ++ [c]) := by
  simp only [after?, List.isPrefixOf_iff_prefix, prefix_concat_iff_of_getLast? text other]
  split
  · rename_i here
    rw [List.drop_append_of_le_length here.length_le, Option.map_some]
  · rfl

theorem cut?_concat (other : mark.getLast? ≠ some c) (filled : mark ≠ []) :
    cut? mark (text ++ [c]) = (cut? mark text).map fun (before, after) =>
    (before, after ++ [c]) := by
  induction text with
  | nil =>
      have alone := (prefix_concat_iff_of_getLast? [] other).not.mpr (by simpa using filled)
      simp_all [cut?]
  | cons d text ih =>
      have first := prefix_concat_iff_of_getLast? (d :: text) other
      rw [List.cons_append] at first ⊢
      simp only [cut?, List.isPrefixOf_iff_prefix, first, ih]
      split
      · rename_i begins
        rw [← List.cons_append, List.drop_append_of_le_length begins.length_le, Option.map_some]
      · simp [Function.comp_def]

end Text

namespace Snapshot

/-! ## The end of the last line -/

theorem titleAndDate?_return (rest : Text) :
    titleAndDate? (rest ++ ['\r']) = titleAndDate? rest := by
  have opening : Text.cut? " (" (rest ++ ['\r']) = _ := Text.cut?_concat (by decide) (by decide)
  unfold titleAndDate?
  rw [opening]
  cases Text.cut? " (" rest with
  | none => rfl
  | some parts =>
      have closing : Text.cut? ")" (parts.2 ++ ['\r']) = _ :=
        Text.cut?_concat (by decide) (by decide)
      simp only [Option.map_some, closing]
      cases Text.cut? ")" parts.2 <;> rfl

theorem words_return (list : Text) :
    Text.words ((list ++ ['\r']).map commaToBlank) = Text.words (list.map commaToBlank) := by
  have blank : isBlank '\r' := by decide
  rw [List.map_append]
  exact (Text.words_append blank _ []).trans (List.append_nil _)

theorem seatTokens_return (line : Text) : seatTokens (line ++ ['\r']) = seatTokens line := by
  have colon : Text.cut? ":" (line ++ ['\r']) = _ := Text.cut?_concat (by decide) (by decide)
  unfold seatTokens
  rw [colon]
  cases Text.cut? ":" line with
  | none => rfl
  | some parts =>
      have total : Text.cut? totalMark (parts.2 ++ ['\r']) = _ :=
        Text.cut?_concat (by decide) (by decide)
      simp only [Option.map_some, total]
      cases Text.cut? totalMark parts.2 with
      | none => exact words_return parts.2
      | some _ => rfl

namespace Reader

theorem addShow_return (r : Reader) (rest : Text) :
    r.addShow (rest ++ ['\r']) = r.addShow rest := by
  simp only [addShow, titleAndDate?_return]

theorem setSeats_return (r : Reader) (line : Text) :
    r.setSeats (line ++ ['\r']) = r.setSeats line := by
  simp only [setSeats, planOfLine, seatTokens_return]

/-- A carriage return at the end of a line is at most a part of the name of a theater. -/
theorem shows_readLine_return (r : Reader) (line : Text) :
    (r.readLine (line ++ ['\r'])).shows = (r.readLine line).shows := by
  have theater : Text.after? theaterMark (line ++ ['\r']) = _ := Text.after?_concat (by decide)
  have movie : Text.after? movieMark (line ++ ['\r']) = _ := Text.after?_concat (by decide)
  have seats : Text.cut? seatsMark (line ++ ['\r']) = _ := Text.cut?_concat (by decide) (by decide)
  unfold readLine
  rw [theater]
  cases Text.after? theaterMark line with
  | some theater => rfl
  | none =>
      rw [Option.map_none, movie]
      cases Text.after? movieMark line with
      | some rest => exact congrArg Reader.shows (addShow_return r rest)
      | none =>
          have same : Text.has (line ++ ['\r']) seatsMark = Text.has line seatsMark := by
            simp only [Text.has, seats, Option.isSome_map]
          rw [Option.map_none, same, setSeats_return]

theorem shows_readLine_dropReturn (r : Reader) (line : Text) :
    (r.readLine (Text.dropReturn line)).shows = (r.readLine line).shows := by
  unfold Text.dropReturn
  split
  · rename_i ends
    have whole := List.dropLast_append_getLast? _ ends
    conv => rhs; rw [← whole]
    rw [shows_readLine_return]
  · rfl

theorem shows_readLines_ended (r : Reader) (text : Text) :
    (r.readLines ((text.splitOn '\n').map Text.dropReturn)).shows =
      (r.readLines text.lines).shows := by
  obtain ⟨ended, last, pieces⟩ := List.eq_nil_or_concat' (text.splitOn '\n') |>.resolve_left
    (List.splitOn_ne_nil '\n' text)
  rw [Text.lines, pieces, Text.linesOfPieces_append _ (List.cons_ne_nil last []), List.map_append,
    readLines_append, readLines_append, Text.linesOfPieces]
  split
  · rename_i empty
    rw [List.isEmpty_iff.mp empty]
    rfl
  · exact shows_readLine_dropReturn _ last

/-! ## Shows that were read before -/

/-- The reader with older shows under those it has made out itself. -/
def onTop (r : Reader) (older : List Show) : Reader := { r with shows := r.shows ++ older }

/-- A newest show that is spoken of is there. -/
def Grounded (r : Reader) : Prop := r.speaksOfNewest = true → r.shows ≠ []

variable {r : Reader}

theorem Grounded.addShow (h : r.Grounded) (rest : Text) : (r.addShow rest).Grounded := by
  unfold Reader.addShow
  split
  · intro _
    simp
  · exact h

theorem Grounded.setSeats (h : r.Grounded) (line : Text) : (r.setSeats line).Grounded := by
  unfold Reader.setSeats
  split
  · intro _
    simp
  · exact h

theorem Grounded.readLine (h : r.Grounded) (line : Text) : (r.readLine line).Grounded := by
  unfold Reader.readLine
  split
  · intro speaks
    cases speaks
  · split
    · exact h.addShow _
    · split
      · exact h.setSeats line
      · exact h

theorem addShow_onTop (r : Reader) (rest : Text) (older : List Show) :
    (r.onTop older).addShow rest = (r.addShow rest).onTop older := by
  obtain ⟨theater, speaks, shows⟩ := r
  cases theater with
  | none => rfl
  | some theater =>
      simp only [addShow, onTop]
      cases titleAndDate? rest <;> rfl

theorem setSeats_onTop (h : r.Grounded) (line : Text) (older : List Show) :
    (r.onTop older).setSeats line = (r.setSeats line).onTop older := by
  obtain ⟨theater, speaks, shows⟩ := r
  cases speaks with
  | false => rfl
  | true =>
      cases shows with
      | nil => exact absurd rfl (h rfl)
      | cons newest rest => rfl

theorem readLine_onTop (h : r.Grounded) (line : Text) (older : List Show) :
    (r.onTop older).readLine line = (r.readLine line).onTop older := by
  unfold readLine
  cases Text.after? theaterMark line with
  | some theater => rfl
  | none =>
      cases Text.after? movieMark line with
      | some rest => exact addShow_onTop r rest older
      | none =>
          cases Text.has line seatsMark with
          | true => exact setSeats_onTop h line older
          | false => rfl

theorem readLines_onTop (h : r.Grounded) (lines : List Text) (older : List Show) :
    (r.onTop older).readLines lines = (r.readLines lines).onTop older := by
  induction lines generalizing r with
  | nil => rfl
  | cons line lines ih =>
      rw [readLines_cons, readLine_onTop h, ih (h.readLine line), readLines_cons]

/-- After a theater line nothing is known of what was read before, apart from the shows. -/
theorem shows_readLines_theater (r : Reader) (theater : Text) (lines : List Text) :
    (r.readLines ((theaterMark ++ theater) :: lines)).shows =
      (start.readLines ((theaterMark ++ theater) :: lines)).shows ++ r.shows := by
  have forgets : r.enterTheater theater = (start.enterTheater theater).onTop r.shows := rfl
  have grounded : (start.enterTheater theater).Grounded := fun speaks => by cases speaks
  rw [readLines_cons, readLines_cons, readLine_theater, readLine_theater, forgets,
    readLines_onTop grounded]
  rfl

end Reader

theorem lines_theater (text : Text) (ended : '\n' ∈ text) :
    ∃ theater rest, Text.lines (theaterMark ++ text) = (theaterMark ++ theater) :: rest := by
  obtain ⟨first, rest, rfl, plain⟩ := List.eq_append_cons_of_mem ended
  have mark : '\n' ∉ theaterMark := by decide
  have line : '\n' ∉ theaterMark ++ first := by
    simp only [List.mem_append, mark, plain, or_self, not_false_eq_true]
  refine ⟨Text.dropReturn first, Text.lines rest, ?_⟩
  rw [← List.append_assoc, Text.lines_append_of_not_mem line, Text.dropReturn_append (by decide)]

/-- No state that earlier lines have left reaches the shows of a snapshot, and the snapshot changes
    none of the shows that were read before it. -/
theorem shows_readLines_render (r : Reader) (kind : Kind) (p : Programme) :
    (r.readLines (render kind p).lines).shows =
      (Reader.start.readLines (render kind p).lines).shows ++ r.shows := by
  have parts : render kind p = kind.header ++
      '\n' :: (p.theaters.flatMap (theaterLines p) ++ (kind.footer ++ ['\n'])) := by
    simp [render]
  rw [parts, Text.lines_append, Reader.readLines_append, Reader.readLines_append,
    (readLines_frame kind r).1, (readLines_frame kind Reader.start).1]
  cases p.theaters with
  | nil =>
      rw [List.flatMap_nil, List.nil_append, (readLines_frame kind r).2,
        (readLines_frame kind Reader.start).2]
      rfl
  | cons theater theaters =>
      obtain ⟨below, begins⟩ : ∃ below, (theater :: theaters).flatMap (theaterLines p) ++
          (kind.footer ++ ['\n']) = theaterMark ++ (theater ++ '\n' :: below) := by
        simp [theaterLines]
      obtain ⟨first, rest, lines⟩ := lines_theater (theater ++ '\n' :: below) (by simp)
      rw [begins, lines, Reader.shows_readLines_theater]

theorem parse_append_render (foreword : Text) (kind : Kind) (p : Programme) :
    parse (foreword ++ "\n\n" ++ render kind p) = parse foreword ++ parse (render kind p) := by
  have parts :
      foreword ++ "\n\n" ++ render kind p = foreword ++ '\n' :: ([] ++ '\n' :: render kind p) := by
    show foreword ++ ['\n', '\n'] ++ render kind p = _
    simp
  unfold parse
  rw [parts, Text.lines_append, Text.lines_append_of_not_mem List.not_mem_nil,
    Reader.readLines_append, Reader.readLines_cons]
  show ((Reader.readLines _ _).readLines _).shows.reverse = _
  rw [shows_readLines_render, Reader.shows_readLines_ended, List.reverse_append]

end Snapshot

open Snapshot

/-- What an answer puts in front of its snapshot, if anything. -/
theorem Programme.Routes.foreword {p q : Programme} {message : Text} {reply : Reply}
    (h : p.Routes message reply q) :
    reply.text = render .initial q ∨
    ∃ foreword, reply.text = foreword ++ "\n\n" ++ render .initial q := by
  cases h with
  | snapshot => exact .inl rfl
  | echo => exact .inr ⟨_, rfl⟩
  | @booking result _ _ _ => cases result <;> exact .inr ⟨_, rfl⟩

/-- An embedded snapshot is read as it is read alone, after whatever text, and so is that text; and
    an answer is the snapshot of the programme after it, alone or embedded. -/
theorem Snapshot.parse_embedded (p : Programme) :
    (∀ foreword kind,
      parse (foreword ++ "\n\n" ++ render kind p) = parse foreword ++ parse (render kind p)) ∧
    ∀ message, let reply := (p.route message).1.text
      let q := (p.route message).2
      ∃ foreword, (reply = foreword ++ "\n\n" ++ render .initial q ∨
          foreword = [] ∧ reply = render .initial q) ∧
        parse reply = parse foreword ++ parse (render .initial q) := by
  constructor
  · intro foreword kind
    exact parse_append_render foreword kind p
  · intro message reply q
    rcases (p.routes message).foreword with alone | ⟨foreword, embedded⟩
    · refine ⟨[], .inr ⟨rfl, alone⟩, ?_⟩
      rw [show reply = render .initial q from alone]
      rfl
    · refine ⟨foreword, .inl embedded, ?_⟩
      rw [show reply = _ from embedded, parse_append_render]

end BoxOffice

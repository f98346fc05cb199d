import BoxOffice.Proofs.Grouping
import BoxOffice.Proofs.RoundTrip

/-! # Rendering what was read

Any text can be read, so what is read need not come from a snapshot. Still its shows keep to what
can be written in lines, and every list of such shows is read from some text (`exists_parse_iff`).
Rendered again they are read back in groups, unless the name of a theater ends with a carriage
return: its line end would take that along (`parse_rerendered`).
-/

namespace BoxOffice.Snapshot

/-! ## What can be read at all -/

/-- A text in which every show has a theater line of its own. The line ends there begin with a
    carriage return, so that one at the end of a name is kept. -/
def listing (shows : List Show) : Text :=
  shows.flatMap fun s => theaterMark ++ s.theater ++ ['\r', '\n'] ++ showLines s

theorem lines_listing {shows : List Show} (writable : ∀ s ∈ shows, s.IsWritable) :
    Text.lines (listing shows) = shows.flatMap fun s =>
    [theaterMark ++ s.theater, movieLine s, seatsLine s] := by
  induction shows with
  | nil => rfl
  | cons s shows ih =>
      rw [List.forall_mem_cons] at writable
      have plain : '\n' ∉ theaterMark ++ s.theater ++ ['\r'] := by
        have marks : '\n' ∉ theaterMark ∧ '\n' ∉ ['\r'] := by decide
        simp only [List.mem_append, marks, writable.1.theater, or_self, not_false_eq_true]
      have parts : listing (s :: shows) =
          theaterMark ++ s.theater ++ ['\r'] ++ '\n' :: (showLines s ++ listing shows) := by
        simp [listing]
      rw [parts, Text.lines_append_of_not_mem plain, Text.dropReturn_concat,
        lines_showLines writable.1, ih writable.2]
      rfl

theorem readLines_listing {shows : List Show}
    (writable : ∀ s ∈ shows, s.IsWritable ∧ s.theater ≠ []) (r : Reader) :
    (r.readLines (shows.flatMap fun s =>
      [theaterMark ++ s.theater, movieLine s, seatsLine s])).shows =
      shows.reverse ++ r.shows := by
  induction shows generalizing r with
  | nil => rfl
  | cons s shows ih =>
      rw [List.forall_mem_cons] at writable
      obtain ⟨⟨names, housed⟩, others⟩ := writable
      have inside : (r.enterTheater s.theater).theater = some s.theater := by
        simp [Reader.enterTheater, housed]
      rw [List.flatMap_cons, Reader.readLines_append, ih others, Reader.readLines_cons,
        Reader.readLine_theater, Reader.readLines_show names inside, List.reverse_cons,
        List.append_assoc]
      rfl

/-- A list of shows is read from some text if and only if each show is writable and has a
    theater. -/
theorem exists_parse_iff {shows : List Show} :
    (∃ text, parse text = shows) ↔ ∀ s ∈ shows, s.IsWritable ∧ s.theater ≠ [] := by
  constructor
  · rintro ⟨text, rfl⟩ s member
    exact isWritable_of_parse member
  · intro writable
    refine ⟨listing shows, ?_⟩
    rw [parse, lines_listing fun s member => (writable s member).1, readLines_listing writable]
    simp [Reader.start]

/-! ## Reading it again -/

/-- Every show that is read has the name of a theater, a movie and a date, each on one line, no
    opening mark in the movie and no closing bracket in the date. Rendered with either header and
    read again these shows are the same, grouped by theater as each is first seen, if and only if no
    name of a theater ends with a carriage return. -/
theorem parse_rerendered (text : Text) :
    (∀ s ∈ parse text, s.IsWritable ∧ s.theater ≠ []) ∧
    ∀ kind, Programme.IsGrouping (parse text) (parse (render kind (parse text))) ↔
      ∀ s ∈ parse text, s.theater.getLast? ≠ some '\r' := by
  have writable : ∀ s ∈ parse text, s.IsWritable ∧ s.theater ≠ [] := fun s => isWritable_of_parse
  refine ⟨writable, fun kind => ?_⟩
  rw [Programme.isGrouping_iff]
  exact parse_render_eq_grouped_iff writable kind

/-- Shows of two theaters in turn, between lines that say nothing, are read back in groups; a
    theater whose name ends with a carriage return is not read back. -/
theorem parse_rerendered_in_turn :
    let mixed : Text :=
      "Theater: PVR\r\n  Movie: Amélie (2) (19:30 (late))\n    Available seats: 0, 4, x, 20\n" ++
      "Theater: \n  Movie: Lost (20:00)\nTheater: Ci\rné\n  Movie: (T) (21:00)\n  Movie: Tenet\n" ++
      "Theater: PVR\n  Movie:  (9\r)"
    let ragged : Text := "Theater: PVR\r\r\n  Movie: Inception (19:30)\n"
    (parse mixed).map (fun s => (s.theater, s.movie, s.date)) =
      [("PVR".toList, "Amélie".toList, "2".toList), ("Ci\rné".toList, "(T)".toList, "21:00".toList),
        ("PVR".toList, [], "9\r".toList)] ∧
    Programme.IsGrouping (parse mixed) (parse (render .update (parse mixed))) ∧
    parse ragged = [⟨"PVR\r", "Inception", "19:30", .free⟩] ∧
    ¬ Programme.IsGrouping (parse ragged) (parse (render .initial (parse ragged))) := by
  refine ⟨by decide +kernel, ?_, by decide +kernel, ?_⟩
  · rw [(parse_rerendered _).2]
    decide +kernel
  · rw [(parse_rerendered _).2]
    decide +kernel

end BoxOffice.Snapshot

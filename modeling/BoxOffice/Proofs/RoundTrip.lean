import BoxOffice.Proofs.Numeral
import BoxOffice.Proofs.Snapshot
import BoxOffice.Proofs.Text
import BoxOffice.Snapshot.Reading

/-! # Reading back what was rendered

A snapshot has no escapes: names stand in their lines as they are. So the reader finds the shows of
a programme again if and only if no name breaks its line or runs into the marks of its line
(`parse_render_iff`). Both directions rest on what reading a rendered snapshot comes to
(`parse_render`); that nothing else is read back is seen from what the reader can make out at all
(`isWritable_of_parse`).
-/

namespace BoxOffice

/-- The names of a show keep to their lines, and the movie and the date end where the reader
    cuts. -/
structure Show.IsWritable (s : Show) : Prop where
  theater : '\n' ∉ s.theater
  movie : '\n' ∉ s.movie
  title : ¬ (" (" : Text) <:+: s.movie
  some_date : s.date ≠ []
  date : '\n' ∉ s.date
  bracket : ')' ∉ s.date

/-- A show that is read back as it was written. -/
structure Show.IsLegible (s : Show) : Prop extends s.IsWritable where
  some_theater : s.theater ≠ []
  no_return : s.theater.getLast? ≠ some '\r'

/-- A show as it is read back; none if nothing is left of the name of its theater. -/
def Show.received? (s : Show) : Option Show :=
  if Text.dropReturn s.theater = [] then none
  else some { s with theater := Text.dropReturn s.theater }

theorem Show.received?_eq_self {s : Show} :
    s.received? = some s ↔ s.theater ≠ [] ∧ s.theater.getLast? ≠ some '\r' := by
  rw [← Text.dropReturn_eq_self]
  unfold received?
  constructor
  · intro same
    split at same
    · cases same
    · rename_i left
      have back := congrArg (Option.map Show.theater) same
      simp only [Option.map_some, Option.some.injEq] at back
      exact ⟨back ▸ left, back⟩
  · rintro ⟨some_theater, same⟩
    rw [same, if_neg some_theater]

theorem Programme.mem_grouped {p : Programme} {s : Show} : s ∈ p.grouped ↔ s ∈ p := by
  simp only [grouped, List.mem_flatMap, showsAt, List.mem_filter, beq_iff_eq, mem_theaters]
  constructor
  · rintro ⟨theater, -, member, -⟩
    exact member
  · intro member
    exact ⟨s.theater, ⟨s, member, rfl⟩, member, rfl⟩

namespace Snapshot

/-! ## The line of seats -/

theorem token_ofNat (n : SeatNumber) :
    (Text.unsigned? 255 (Text.ofNat n.toNat)).map UInt8.ofNat = some n ∧ Text.ofNat n.toNat ≠ [] ∧
      ∀ c ∈ Text.ofNat n.toNat, c ≠ ',' ∧ isBlank c = false := by
  refine ⟨?_, Nat.toDigits_ne_nil, ?_⟩
  · rw [Text.unsigned?_ofNat (Nat.le_of_lt_succ n.toNat_lt), Option.map_some, UInt8.ofNat_toNat]
  · intro c member
    have digit := Text.isDigit_of_mem_ofNat member
    refine ⟨?_, isBlank_of_isDigit digit⟩
    rintro rfl
    exact absurd digit (by decide)

/-- The commas between tokens are blanks to the reader. -/
def commaToBlank (c : Char) : Char := if c = ',' then ' ' else c

theorem words_join {tokens : List Text}
    (each : ∀ token ∈ tokens, token ≠ [] ∧ ∀ c ∈ token, c ≠ ',' ∧ isBlank c = false) :
    Text.words ((Text.join ", " tokens).map commaToBlank) = tokens := by
  have blank : isBlank ' ' := by decide
  induction tokens with
  | nil => rfl
  | cons token rest ih =>
      obtain ⟨filled, plain⟩ := each token (List.mem_cons_self ..)
      have alone := Text.words_of_no_blank filled fun c member => (plain c member).2
      have same : token.map commaToBlank = token := by
        conv => rhs; rw [← List.map_id token]
        exact List.map_congr_left fun c member => if_neg (plain c member).1
      cases rest with
      | nil => simpa [Text.join, same] using alone
      | cons next rest =>
          have later := ih fun token member => each token (List.mem_cons_of_mem _ member)
          rw [Text.join] at later
          rw [Text.join, List.intercalate_cons_cons, List.map_append, List.map_append, same]
          show Text.words (token ++ [' ', ' '] ++ _) = _
          rw [List.append_assoc, List.cons_append, Text.words_append blank, List.cons_append,
            ← List.nil_append (' ' :: _), Text.words_append blank, alone, List.nil_append, later]
          rfl

theorem not_mem_seatList {c : Char} (digit : ¬ c.isDigit) (other : c ∉ ", SOLDUT".toList)
    (free : List SeatNumber) : c ∉ seatList free := by
  unfold seatList
  split
  · intro member
    exact other ((by decide : soldOut ⊆ ", SOLDUT".toList) member)
  · apply Text.not_mem_join
    · intro member
      exact other ((by decide : ", ".toList ⊆ ", SOLDUT".toList) member)
    · intro text member
      obtain ⟨n, -, rfl⟩ := List.mem_map.mp member
      exact Text.not_mem_ofNat digit _

theorem seatTokens_seatsLine (s : Show) :
    seatTokens (seatsLine s) = Text.words ((seatList s.seats.freeSeats).map commaToBlank) := by
  have blank : isBlank ' ' := by decide
  let list := seatList s.seats.freeSeats
  have listed : '(' ∉ ([' '] ++ list ++ [' '] : Text) := by
    have := not_mem_seatList (c := '(') (by decide) (by decide) s.seats.freeSeats
    simp [list, this]
  obtain ⟨rest, parts⟩ : ∃ rest, seatsLine s = "    Available seats".toList ++ [':'] ++
      (([' '] ++ list ++ [' ']) ++ totalMark ++ rest) := by
    refine ⟨" ".toList ++ Text.ofNat s.seats.freeSeats.length ++ "/".toList ++
      Text.ofNat seatCount ++ ")".toList, ?_⟩
    have marks : seatsMark = "    Available seats".toList ++ [':'] := rfl
    have space : " ".toList = [' '] := rfl
    simp only [seatsLine, marks, space, list, List.append_assoc]
  have atColon : Text.cut? ":" (seatsLine s) =
      some ("    Available seats".toList, ([' '] ++ list ++ [' ']) ++ totalMark ++ rest) := by
    rw [parts]
    exact Text.cut?_append (by decide) [] _
  have atTotal : Text.cut? totalMark (([' '] ++ list ++ [' ']) ++ totalMark ++ rest) =
      some ([' '] ++ list ++ [' '], rest) := Text.cut?_append listed "Total:".toList rest
  have tokens : seatTokens (seatsLine s) =
      Text.words (([' '] ++ list ++ [' ']).map commaToBlank) := by
    simp only [seatTokens, atColon, atTotal]
    rfl
  rw [tokens, List.map_append, List.map_append]
  show Text.words (([] ++ ' ' :: list.map commaToBlank) ++ ' ' :: []) = _
  rw [Text.words_append blank, Text.words_append blank]
  simp [Text.words, list]

theorem words_seatList (free : List SeatNumber) :
    (Text.words ((seatList free).map commaToBlank)).filterMap
      (fun token => (Text.unsigned? 255 token).map UInt8.ofNat) = free := by
  unfold seatList
  split
  · rename_i none
    rw [List.isEmpty_iff.mp none]
    decide
  · rw [SeatNumber.list, words_join]
    · rw [List.filterMap_map]
      conv => rhs; rw [← List.filterMap_some (l := free)]
      exact List.filterMap_congr fun n _ => (token_ofNat n).1
    · intro token member
      obtain ⟨n, listed, rfl⟩ := List.mem_map.mp member
      exact (token_ofNat n).2

theorem planOfLine_seatsLine (s : Show) : planOfLine (seatsLine s) = s.seats := by
  rw [planOfLine, seatTokens_seatsLine, words_seatList, SeatPlan.releaseAll_freeSeats]

/-! ## The lines of a rendered snapshot -/

theorem titleAndDate?_eq_some {rest movie date : Text}
    (h : titleAndDate? rest = some (movie, date)) :
    date ≠ [] ∧ ¬ (" (" : Text) <:+: movie ∧ ')' ∉ date ∧ movie ⊆ rest ∧ date ⊆ rest := by
  unfold titleAndDate? at h
  split at h
  · cases h
  · rename_i title dated opened
    split at h
    · cases h
    · rename_i inside after closed
      obtain ⟨whole, untitled⟩ := (Text.cut?_eq_some (by decide)).mp opened
      obtain ⟨bracketed, plain⟩ := (Text.cut?_eq_some (by decide)).mp closed
      split at h
      · cases h
      · rename_i filled
        cases h
        subst whole bracketed
        refine ⟨by simpa using filled, ?_, ?_, ?_, ?_⟩
        · exact fun earlier => untitled (earlier.trans (List.prefix_append ..).isInfix)
        · intro member
          obtain ⟨before, behind, rfl⟩ := List.append_of_mem member
          exact plain ⟨before, behind, by simp⟩
        · simp
        · intro c member
          simp [member]

theorem titleAndDate?_movieLine {s : Show} (h : s.IsWritable) :
    titleAndDate? (s.movie ++ " (" ++ s.date ++ ")") = some (s.movie, s.date) := by
  have opened :
      Text.cut? " (" (s.movie ++ " (" ++ s.date ++ ")") = some (s.movie, s.date ++ ")") := by
    rw [Text.cut?_eq_some (by decide)]
    refine ⟨by simp, fun inside => ?_⟩
    -- the mark ends with a bracket, and so cannot end with the blank that begins it
    show False
    have mark : (" (" : Text).dropLast = [' '] := rfl
    rw [mark, List.infix_concat_iff] at inside
    rcases inside with ⟨before, same⟩ | inside
    · have last := congrArg List.getLast? same
      rw [List.getLast?_append_of_ne_nil _ (by decide), List.getLast?_concat] at last
      revert last
      decide
    · exact h.title inside
  have closed : Text.cut? ")" (s.date ++ ")") = some (s.date, []) := by
    have found := Text.cut?_append h.bracket [] []
    rwa [List.append_nil] at found
  simp only [titleAndDate?, opened, closed, List.isEmpty_iff, h.some_date, if_false]

theorem line_feed_not_mem_movieLine {s : Show} (h : s.IsWritable) : '\n' ∉ movieLine s := by
  have marks : '\n' ∉ movieMark ∧ '\n' ∉ " (".toList ∧ '\n' ∉ ")".toList := by decide
  simp only [movieLine, List.mem_append, marks, h.movie, h.date, or_self, not_false_eq_true]

theorem line_feed_not_mem_seatsLine (s : Show) : '\n' ∉ seatsLine s := by
  have listed := not_mem_seatList (c := '\n') (by decide) (by decide) s.seats.freeSeats
  have count := Text.not_mem_ofNat (c := '\n') (by decide) s.seats.freeSeats.length
  have total := Text.not_mem_ofNat (c := '\n') (by decide) seatCount
  have marks : '\n' ∉ seatsMark ∧ '\n' ∉ totalMark ∧ '\n' ∉ " ".toList ∧ '\n' ∉ "/".toList ∧
      '\n' ∉ ")".toList := by decide
  simp only [seatsLine, List.mem_append, marks, listed, count, total, or_self, not_false_eq_true]

theorem dropReturn_closed (text : Text) : Text.dropReturn (text ++ ")") = text ++ ")" := by
  apply Text.dropReturn_of_getLast?
  rw [List.getLast?_append_of_ne_nil _ (by decide)]
  decide

theorem lines_showLines {s : Show} (h : s.IsWritable) (rest : Text) :
    Text.lines (showLines s ++ rest) = movieLine s :: seatsLine s :: Text.lines rest := by
  have parts : showLines s ++ rest = movieLine s ++ '\n' :: (seatsLine s ++ '\n' :: rest) := by
    simp [showLines]
  have movie : Text.dropReturn (movieLine s) = movieLine s := dropReturn_closed _
  have seats : Text.dropReturn (seatsLine s) = seatsLine s := dropReturn_closed _
  rw [parts, Text.lines_append_of_not_mem (line_feed_not_mem_movieLine h),
    Text.lines_append_of_not_mem (line_feed_not_mem_seatsLine s), movie, seats]

theorem lines_flatMap_showLines {shows : List Show} (writable : ∀ s ∈ shows, s.IsWritable)
    (rest : Text) :
    Text.lines (shows.flatMap showLines ++ rest) =
      (shows.flatMap fun s => [movieLine s, seatsLine s]) ++ Text.lines rest := by
  induction shows with
  | nil => rfl
  | cons s shows ih =>
      rw [List.forall_mem_cons] at writable
      rw [List.flatMap_cons, List.append_assoc, lines_showLines writable.1, ih writable.2]
      rfl

def linesOfTheater (p : Programme) (theater : Text) : List Text :=
  (theaterMark ++ Text.dropReturn theater) ::
    ((p.showsAt theater).flatMap fun s => [movieLine s, seatsLine s]) ++ [[]]

theorem isWritable_of_mem_showsAt {p : Programme} (writable : ∀ s ∈ p, s.IsWritable)
    {theater : Text} {s : Show} (member : s ∈ p.showsAt theater) : s.IsWritable :=
  writable s (List.mem_filter.mp member).1

theorem lines_theaterLines {p : Programme} (writable : ∀ s ∈ p, s.IsWritable) {theater : Text}
    (member : theater ∈ p.theaters) (rest : Text) :
    Text.lines (theaterLines p theater ++ rest) = linesOfTheater p theater ++ Text.lines rest := by
  have plain : '\n' ∉ theaterMark ++ theater := by
    obtain ⟨s, there, rfl⟩ := Programme.mem_theaters.mp member
    have mark : '\n' ∉ theaterMark := by decide
    simp only [List.mem_append, mark, (writable s there).theater, or_self, not_false_eq_true]
  have parts : theaterLines p theater ++ rest = theaterMark ++ theater ++
      '\n' :: ((p.showsAt theater).flatMap showLines ++ ([] ++ '\n' :: rest)) := by
    simp [theaterLines]
  have each (s : Show) (member : s ∈ p.showsAt theater) : s.IsWritable :=
    isWritable_of_mem_showsAt writable member
  rw [parts, Text.lines_append_of_not_mem plain, Text.dropReturn_append (by decide),
    lines_flatMap_showLines each, Text.lines_append_of_not_mem List.not_mem_nil]
  simp [linesOfTheater, Text.dropReturn]

namespace Reader

theorem readLine_theater (r : Reader) (theater : Text) :
    r.readLine (theaterMark ++ theater) = r.enterTheater theater := by
  rw [readLine, Text.after?_append]

theorem readLine_movie (r : Reader) (rest : Text) :
    r.readLine (movieMark ++ rest) = r.addShow rest := by
  have other : Text.after? theaterMark (movieMark ++ rest) = none := rfl
  rw [readLine, other, Text.after?_append]

theorem readLine_seats (r : Reader) (s : Show) :
    r.readLine (seatsLine s) = r.setSeats (seatsLine s) := by
  have noTheater : Text.after? theaterMark (seatsLine s) = none := rfl
  have noMovie : Text.after? movieMark (seatsLine s) = none := rfl
  have seats : Text.has (seatsLine s) seatsMark := by
    simp only [seatsLine, List.append_assoc]
    exact Text.has_append (by decide) _
  rw [readLine, noTheater, noMovie]
  simp only [seats, if_true]

theorem readLine_nil (r : Reader) : r.readLine [] = r := rfl

theorem readLines_cons (r : Reader) (line : Text) (rest : List Text) :
    r.readLines (line :: rest) = (r.readLine line).readLines rest := rfl

theorem readLines_nil (r : Reader) : r.readLines [] = r := rfl

theorem readLines_append (r : Reader) (first second : List Text) :
    r.readLines (first ++ second) = (r.readLines first).readLines second := List.foldl_append

theorem readLines_show {r : Reader} {s : Show} {theater : Text} (h : s.IsWritable)
    (inside : r.theater = some theater) :
    r.readLines [movieLine s, seatsLine s] =
      { r with speaksOfNewest := true, shows := { s with theater } :: r.shows } := by
  have line : movieLine s = movieMark ++ (s.movie ++ " (" ++ s.date ++ ")") := by
    simp only [movieLine, List.append_assoc]
  have shown : r.readLine (movieLine s) =
      { r with speaksOfNewest := true, shows := ⟨theater, s.movie, s.date, .free⟩ :: r.shows } := by
    rw [line, readLine_movie]
    simp only [addShow, inside, titleAndDate?_movieLine h]
  rw [readLines_cons, shown, readLines_cons, readLine_seats, readLines_nil]
  simp only [setSeats, planOfLine_seatsLine]

theorem readLines_shows {r : Reader} {shows : List Show} {theater : Text}
    (writable : ∀ s ∈ shows, s.IsWritable) (inside : r.theater = some theater) :
    (r.readLines (shows.flatMap fun s => [movieLine s, seatsLine s])).shows =
      (shows.map fun s => { s with theater }).reverse ++ r.shows := by
  induction shows generalizing r with
  | nil => rfl
  | cons s shows ih =>
      rw [List.forall_mem_cons] at writable
      have later := ih (r := { r with
        speaksOfNewest := true, shows := { s with theater } :: r.shows }) writable.2 inside
      rw [List.flatMap_cons, readLines_append, readLines_show writable.1 inside, later]
      simp

theorem readLines_nowhere {r : Reader} (shows : List Show) (outside : r.theater = none)
    (silent : r.speaksOfNewest = false) :
    r.readLines (shows.flatMap fun s => [movieLine s, seatsLine s]) = r := by
  induction shows with
  | nil => rfl
  | cons s shows ih =>
      have line : movieLine s = movieMark ++ (s.movie ++ " (" ++ s.date ++ ")") := by
        simp only [movieLine, List.append_assoc]
      have skipped : r.readLine (movieLine s) = r := by
        rw [line, readLine_movie]
        simp only [addShow, outside]
      have silenced : r.readLine (seatsLine s) = r := by
        rw [readLine_seats]
        simp only [setSeats, silent]
      rw [List.flatMap_cons, readLines_append, readLines_cons, skipped, readLines_cons, silenced,
        readLines_nil, ih]

theorem readLines_theater {p : Programme} (writable : ∀ s ∈ p, s.IsWritable) (r : Reader)
    (theater : Text) :
    (r.readLines (linesOfTheater p theater)).shows =
      ((p.showsAt theater).filterMap Show.received?).reverse ++ r.shows := by
  have each (s : Show) (member : s ∈ p.showsAt theater) : s.IsWritable :=
    isWritable_of_mem_showsAt writable member
  rw [linesOfTheater, readLines_append, readLines_cons _ [], readLines_nil, readLine_nil,
    readLines_cons, readLine_theater]
  by_cases gone : Text.dropReturn theater = []
  · have none : (p.showsAt theater).filterMap Show.received? = [] := by
      rw [List.filterMap_eq_nil_iff]
      intro s member
      rw [Show.received?, Programme.theater_of_mem_showsAt member, if_pos gone]
    rw [none, readLines_nowhere _ (by simp [enterTheater, gone]) rfl]
    rfl
  · have all : (p.showsAt theater).filterMap Show.received? =
        (p.showsAt theater).map fun s => { s with theater := Text.dropReturn theater } := by
      rw [← List.filterMap_eq_map]
      refine List.filterMap_congr fun s member => ?_
      rw [Show.received?, Programme.theater_of_mem_showsAt member, if_neg gone, Function.comp_apply]
    have inside : (r.enterTheater (Text.dropReturn theater)).theater =
        some (Text.dropReturn theater) := by simp [enterTheater, gone]
    rw [all, readLines_shows each inside]
    rfl

theorem readLines_theaters {p : Programme} (writable : ∀ s ∈ p, s.IsWritable) (r : Reader)
    (theaters : List Text) :
    (r.readLines (theaters.flatMap (linesOfTheater p))).shows =
      ((theaters.flatMap p.showsAt).filterMap Show.received?).reverse ++ r.shows := by
  induction theaters generalizing r with
  | nil => rfl
  | cons theater theaters ih =>
      rw [List.flatMap_cons, readLines_append, ih, readLines_theater writable, List.flatMap_cons,
        List.filterMap_append, List.reverse_append, List.append_assoc]

end Reader

theorem lines_flatMap_theaterLines {p : Programme} (writable : ∀ s ∈ p, s.IsWritable)
    {theaters : List Text} (known : ∀ theater ∈ theaters, theater ∈ p.theaters) (rest : Text) :
    Text.lines (theaters.flatMap (theaterLines p) ++ rest) =
      theaters.flatMap (linesOfTheater p) ++ Text.lines rest := by
  induction theaters with
  | nil => rfl
  | cons theater theaters ih =>
      rw [List.forall_mem_cons] at known
      rw [List.flatMap_cons, List.append_assoc, lines_theaterLines writable known.1, ih known.2,
        List.flatMap_cons, List.append_assoc]

theorem readLines_frame (kind : Kind) (r : Reader) :
    r.readLines ((kind.header.splitOn '\n').map Text.dropReturn) = r ∧
      r.readLines (Text.lines (kind.footer ++ ['\n'])) = r := by
  cases kind <;> exact ⟨rfl, rfl⟩

/-- What is read back of a rendered programme: every show, in grouped order, in as far as something
    is left of the name of its theater. -/
theorem parse_render {p : Programme} (writable : ∀ s ∈ p, s.IsWritable) (kind : Kind) :
    parse (render kind p) = p.grouped.filterMap Show.received? := by
  have parts : render kind p = kind.header ++
      '\n' :: (p.theaters.flatMap (theaterLines p) ++ (kind.footer ++ ['\n'])) := by
    simp [render]
  have known : ∀ theater ∈ p.theaters, theater ∈ p.theaters := fun _ member => member
  rw [parse, parts, Text.lines_append, lines_flatMap_theaterLines writable known,
    Reader.readLines_append, (readLines_frame kind _).1, Reader.readLines_append,
    (readLines_frame kind _).2, Reader.readLines_theaters writable]
  simp [Reader.start, Programme.grouped]

/-! ## What the reader can make out -/

/-- Every show that is read is writable, and so is the theater that is entered. -/
structure Reader.Sound (r : Reader) : Prop where
  theater : ∀ theater, r.theater = some theater → theater ≠ [] ∧ '\n' ∉ theater
  shows : ∀ s ∈ r.shows, s.IsWritable ∧ s.theater ≠ []

theorem Reader.Sound.readLine {r : Reader} {line : Text} (h : r.Sound) (plain : '\n' ∉ line) :
    (r.readLine line).Sound := by
  unfold Reader.readLine
  split
  · rename_i theater begins
    have whole := Text.after?_eq_some begins
    refine ⟨?_, h.shows⟩
    intro entered same
    simp only [Reader.enterTheater, List.isEmpty_iff, Option.ite_none_left_eq_some,
      Option.some.injEq] at same
    obtain ⟨filled, rfl⟩ := same
    refine ⟨filled, fun inside => plain ?_⟩
    rw [whole]
    exact List.mem_append_right _ inside
  · split
    · rename_i rest begins
      have whole := Text.after?_eq_some begins
      unfold Reader.addShow
      split
      · rename_i theater movie date inside found
        obtain ⟨some_date, title, bracket, movieInside, dateInside⟩ := titleAndDate?_eq_some found
        obtain ⟨some_theater, line⟩ := h.theater theater inside
        have no_feed {part : Text} (within : part ⊆ rest) : '\n' ∉ part := fun member => by
          rw [whole] at plain
          exact plain (List.mem_append_right _ (within member))
        refine ⟨h.theater, ?_⟩
        rw [List.forall_mem_cons]
        exact ⟨⟨⟨line, no_feed movieInside, title, some_date, no_feed dateInside, bracket⟩,
          some_theater⟩, h.shows⟩
      · exact h
    · split
      · unfold Reader.setSeats
        split
        · rename_i newest older same
          have shows := h.shows
          rw [same, List.forall_mem_cons] at shows
          refine ⟨h.theater, ?_⟩
          rw [List.forall_mem_cons]
          obtain ⟨⟨writable, some_theater⟩, others⟩ := shows
          exact ⟨⟨⟨writable.theater, writable.movie, writable.title, writable.some_date,
            writable.date, writable.bracket⟩, some_theater⟩, others⟩
        · exact h
      · exact h

theorem Reader.Sound.readLines {r : Reader} {lines : List Text} (h : r.Sound)
    (plain : ∀ line ∈ lines, '\n' ∉ line) : (r.readLines lines).Sound := by
  induction lines generalizing r with
  | nil => exact h
  | cons line lines ih =>
      rw [List.forall_mem_cons] at plain
      exact ih (h.readLine plain.1) plain.2

theorem isWritable_of_parse {text : Text} {s : Show} (h : s ∈ parse text) :
    s.IsWritable ∧ s.theater ≠ [] := by
  have start : Reader.start.Sound := by
    constructor
    case theater => intro theater same; cases same
    case shows => intro s member; cases member
  have plain (line : Text) (member : line ∈ Text.lines text) : '\n' ∉ line :=
    Text.not_mem_of_mem_lines member
  have sound := start.readLines plain
  exact sound.shows s (List.mem_reverse.mp h)

/-! ## The round trip -/

/-- A list that some of its members are left out of, and others changed, is the same list only if
    each member is left as it is. -/
theorem filterMap_eq_self {α : Type} {f : α → Option α} {l : List α} :
    l.filterMap f = l ↔ ∀ a ∈ l, f a = some a := by
  constructor
  · intro same
    induction l with
    | nil => intro a member; cases member
    | cons a l ih =>
        rw [List.forall_mem_cons]
        cases kept : f a with
        | none =>
            rw [List.filterMap_cons_none kept] at same
            have short := List.length_filterMap_le f l
            rw [same, List.length_cons] at short
            omega
        | some b =>
            rw [List.filterMap_cons_some kept, List.cons.injEq] at same
            exact ⟨by rw [same.1], ih same.2⟩
  · intro kept
    conv => rhs; rw [← List.filterMap_some (l := l)]
    exact List.filterMap_congr kept

theorem parse_render_eq_grouped_iff {p : Programme}
    (writable : ∀ s ∈ p, s.IsWritable ∧ s.theater ≠ []) (kind : Kind) :
    parse (render kind p) = p.grouped ↔ ∀ s ∈ p, s.theater.getLast? ≠ some '\r' := by
  rw [parse_render fun s member => (writable s member).1, filterMap_eq_self]
  simp only [Programme.mem_grouped, Show.received?_eq_self]
  exact forall₂_congr fun s member => and_iff_right (writable s member).2

/-- A programme is read back from its snapshot, of either kind, if and only if each of its shows is
    legible. -/
theorem parse_render_iff (p : Programme) (kind : Kind) :
    parse (render kind p) = p.grouped ↔ ∀ s ∈ p, s.IsLegible := by
  constructor
  · intro same
    -- whatever the reader can read at all is writable, and every show is read
    have writable : ∀ s ∈ p, s.IsWritable := by
      intro s member
      have read : s ∈ parse (render kind p) := same ▸ Programme.mem_grouped.mpr member
      exact (isWritable_of_parse read).1
    rw [parse_render writable, filterMap_eq_self] at same
    intro s member
    obtain ⟨some_theater, no_return⟩ :=
      Show.received?_eq_self.mp (same s (Programme.mem_grouped.mpr member))
    exact ⟨writable s member, some_theater, no_return⟩
  · intro legible
    rw [parse_render fun s member => (legible s member).toIsWritable, filterMap_eq_self]
    intro s member
    have h := legible s (Programme.mem_grouped.mp member)
    exact Show.received?_eq_self.mpr ⟨h.some_theater, h.no_return⟩

end Snapshot

end BoxOffice

import BoxOffice.Proofs.Phantom

/-! # Whose seats a line tells

A snapshot is a list of headings with lines of seats below them: one expects a line of seats to
speak of the movie line nearest above it. The reader goes by shows instead. A movie line that names
no show is passed over, and the lines of seats below it still speak of the show before it
(`parse_eq_showsIn`). So a text is read as one expects if and only if no such line says anything
else of that show than its own lines do (`seats_attributed_iff`).
-/

namespace BoxOffice.Snapshot

def isTheaterLine (line : Text) : Bool := theaterMark.isPrefixOf line

def isMovieLine (line : Text) : Bool := movieMark.isPrefixOf line

def isSeatsLine (line : Text) : Bool :=
  !isTheaterLine line && !isMovieLine line && line.has seatsMark

/-- The title and the date of the show that a movie line names; none if it names no show. -/
def named? (line : Text) : Option (Text × Text) := (Text.after? movieMark line).bind titleAndDate?

/-- A theater line or a movie line, whether it names anything or not. -/
def isHeading (line : Text) : Bool := isTheaterLine line || isMovieLine line

/-- A theater line, or a movie line that names a show. -/
def isReadHeading (line : Text) : Bool := isTheaterLine line || (named? line).isSome

/-- The name in the nearest theater line above. -/
def theaterBelow (above : List Text) : Option Text :=
  ((above.filterMap (Text.after? theaterMark)).getLast?).filter (!·.isEmpty)

/-- What is told below a line, up to the next line that ends it: the last line of seats decides, and
    a plan that no line speaks of stays as it is. -/
def planUntil (ends : Text → Bool) (plan : SeatPlan) (below : List Text) : SeatPlan :=
  ((((below.takeWhile (!ends ·)).filter isSeatsLine).getLast?).map planOfLine).getD plan

/-- The show that line `n` names, with the seats that are told of it below. -/
def showAt? (ends : Text → Bool) (lines : List Text) (n : Nat) : Option Show := do
  let theater ← theaterBelow (lines.take n)
  let (movie, date) ← (lines[n]?).bind named?
  some ⟨theater, movie, date, planUntil ends .free (lines.drop (n + 1))⟩

def showsIn (ends : Text → Bool) (lines : List Text) : List Show :=
  (List.range lines.length).filterMap (showAt? ends lines)

/-- The lines of seats below the first heading that are taken to speak of the show above
    it all the same. -/
def strays (below : List Text) : List Text :=
  ((below.dropWhile (!isHeading ·)).takeWhile (!isReadHeading ·)).filter isSeatsLine

/-- The show with the seats that its last stray line tells of it. -/
def misled (s : Show) (stray? : Option Text) : Show :=
  { s with seats := (stray?.map planOfLine).getD s.seats }

/-! ## Sorts of lines -/

variable {line : Text} {lines above below : List Text} {ends : Text → Bool} {plan : SeatPlan}
  {n : Nat}

theorem isTheaterLine_iff : isTheaterLine line ↔ ∃ theater, line = theaterMark ++ theater := by
  rw [isTheaterLine, List.isPrefixOf_iff_prefix]
  exact ⟨fun ⟨theater, same⟩ => ⟨theater, same.symm⟩, fun ⟨theater, same⟩ => ⟨theater, same.symm⟩⟩

theorem isMovieLine_iff : isMovieLine line ↔ ∃ rest, line = movieMark ++ rest := by
  rw [isMovieLine, List.isPrefixOf_iff_prefix]
  exact ⟨fun ⟨rest, same⟩ => ⟨rest, same.symm⟩, fun ⟨rest, same⟩ => ⟨rest, same.symm⟩⟩

theorem isMovieLine_of_named (named : (named? line).isSome) : isMovieLine line := by
  rw [named?, Option.isSome_bind, Option.any_eq_true] at named
  obtain ⟨rest, after, -⟩ := named
  exact isMovieLine_iff.mpr ⟨rest, Text.after?_eq_some after⟩

theorem isHeading_of_isReadHeading (read : isReadHeading line) : isHeading line := by
  rw [isReadHeading, Bool.or_eq_true] at read
  rw [isHeading, Bool.or_eq_true]
  exact read.imp_right isMovieLine_of_named

theorem not_isSeatsLine_of_isHeading (heading : isHeading line) : isSeatsLine line = false := by
  rw [isSeatsLine, ← Bool.not_or, ← isHeading, heading]
  rfl

/-! ## What is told below a line -/

theorem planUntil_cons : planUntil ends plan (line :: below) =
    if ends line then plan
    else planUntil ends (if isSeatsLine line then planOfLine line else plan) below := by
  by_cases stops : ends line
  · simp [planUntil, stops]
  · by_cases seats : isSeatsLine line
    · simp only [planUntil, stops, seats, List.takeWhile_cons, List.filter_cons,
        Bool.not_false, if_true, List.getLast?_cons, Option.map_some, Option.getD_some,
        Bool.false_eq_true, if_false]
      cases ((below.takeWhile (!ends ·)).filter isSeatsLine).getLast? <;> rfl
    · simp [planUntil, stops, seats]

theorem showAt?_eq_some {s : Show} : showAt? ends lines n = some s ↔
    theaterBelow (lines.take n) = some s.theater ∧
    (lines[n]?).bind named? = some (s.movie, s.date) ∧
      planUntil ends .free (lines.drop (n + 1)) = s.seats := by
  obtain ⟨theater, movie, date, seats⟩ := s
  simp only [showAt?, Option.bind_eq_bind, Option.bind_eq_some_iff, Option.some.injEq,
    Show.mk.injEq, Prod.exists]
  constructor
  · rintro ⟨_, inside, _, _, ⟨text, there, named⟩, rfl, rfl, rfl, told⟩
    exact ⟨inside, ⟨text, there, named⟩, told⟩
  · rintro ⟨inside, named, told⟩
    exact ⟨theater, inside, movie, date, named, rfl, rfl, rfl, told⟩

/-! ## Lines that are taken to speak of another show -/

theorem misled_eq_self_iff {s : Show} {stray? : Option Text} :
    misled s stray? = s ↔ ∀ stray, stray? = some stray → planOfLine stray = s.seats := by
  obtain ⟨theater, movie, date, seats⟩ := s
  cases stray? <;> simp [misled]

theorem planUntil_isReadHeading (plan : SeatPlan) (below : List Text) :
    planUntil isReadHeading plan below =
      ((strays below).getLast?.map planOfLine).getD (planUntil isHeading plan below) := by
  have unread : ∀ line ∈ below.takeWhile (!isHeading ·), !isReadHeading line := by
    intro line own
    have plain := List.mem_takeWhile_imp own
    rw [Bool.not_eq_true'] at plain ⊢
    exact Bool.eq_false_iff.mpr fun read =>
      Bool.eq_false_iff.mp plain (isHeading_of_isReadHeading read)
  have parts : (below.takeWhile (!isReadHeading ·)).filter isSeatsLine =
      (below.takeWhile (!isHeading ·)).filter isSeatsLine ++ strays below := by
    conv => lhs; rw [← List.takeWhile_append_dropWhile (p := (!isHeading ·)) (l := below)]
    rw [List.takeWhile_append_of_pos unread, List.filter_append, strays]
  rw [planUntil, planUntil, parts, List.getLast?_append]
  cases (strays below).getLast? <;> rfl

theorem showAt?_isReadHeading (lines : List Text) (n : Nat) : showAt? isReadHeading lines n =
    (showAt? isHeading lines n).map fun s => misled s (strays (lines.drop (n + 1))).getLast? := by
  simp only [showAt?, planUntil_isReadHeading]
  cases theaterBelow (lines.take n) with
  | none => rfl
  | some theater => cases (lines[n]?).bind named? <;> rfl

/-- Only a movie line that names no show makes a line stray. -/
theorem skipped_of_strays (astray : strays below ≠ []) :
    ∃ line ∈ below, isMovieLine line ∧ named? line = none := by
  cases rest : below.dropWhile (!isHeading ·) with
  | nil =>
      rw [strays, rest] at astray
      exact absurd rfl astray
  | cons first others =>
      have heading : isHeading first := by
        have kept :=
          List.head_dropWhile_not (!isHeading ·) (w := by rw [rest]; exact List.cons_ne_nil _ _)
        simpa [rest] using kept
      have unread : isReadHeading first = false := by
        by_contra read
        rw [Bool.not_eq_false] at read
        rw [strays, rest, List.takeWhile_cons, read] at astray
        exact astray rfl
      rw [isReadHeading, Bool.or_eq_false_iff] at unread
      rw [isHeading, unread.1, Bool.false_or] at heading
      have there : first ∈ below :=
        (List.dropWhile_suffix _).subset (by rw [rest]; exact List.mem_cons_self)
      exact ⟨first, there, heading,
        Option.not_isSome_iff_eq_none.mp (Bool.eq_false_iff.mp unread.2)⟩

theorem filterMap_map_eq_iff {ι α : Type} {f : ι → Option α} {change : ι → α → α} {l : List ι} :
    l.filterMap (fun i => (f i).map (change i)) = l.filterMap f ↔
      ∀ i ∈ l, ∀ a, f i = some a → change i a = a := by
  induction l with
  | nil => simp
  | cons i l ih => cases found : f i <;> simp [found, ih]

theorem showsIn_eq_iff (lines : List Text) : showsIn isReadHeading lines = showsIn isHeading lines ↔
    ∀ n s stray, showAt? isHeading lines n = some s →
      (strays (lines.drop (n + 1))).getLast? = some stray → planOfLine stray = s.seats := by
  have within {n : Nat} {s : Show} (there : showAt? isHeading lines n = some s) :
      n < lines.length := by
    by_contra beyond
    have nothing : lines[n]? = none := List.getElem?_eq_none (Nat.not_lt.mp beyond)
    rw [showAt?_eq_some, nothing] at there
    exact absurd there.2.1 (Option.some_ne_none _).symm
  simp only [showsIn, showAt?_isReadHeading, filterMap_map_eq_iff, List.mem_range,
    misled_eq_self_iff]
  constructor
  · intro agree n s stray there last
    exact agree n (within there) s there stray last
  · intro agree n _ s there stray last
    exact agree n s stray there last

/-! ## What the reader makes of it -/

theorem theaterBelow_of_theaterLine (above : List Text) (theater : Text) :
    theaterBelow (above ++ [theaterMark ++ theater]) =
      if theater.isEmpty then none else some theater := by
  simp only [theaterBelow, List.filterMap_append, List.filterMap_cons, Text.after?_append,
    List.filterMap_nil, List.getLast?_concat]
  cases theater <;> rfl

theorem theaterBelow_of_other (above : List Text) (other : isTheaterLine line = false) :
    theaterBelow (above ++ [line]) = theaterBelow above := by
  have nothing : Text.after? theaterMark line = none := if_neg (Bool.eq_false_iff.mp other)
  simp only [theaterBelow, List.filterMap_append, List.filterMap_cons, nothing, List.filterMap_nil,
    List.append_nil]

namespace Reader

variable {r : Reader}

/-- A show is spoken of only below the name of a theater. -/
def Housed (r : Reader) : Prop := r.theater = none → r.speaksOfNewest = false

/-- The shows read so far, the newest one as it is after the lines to come. -/
def told (r : Reader) (below : List Text) : List Show :=
  match r.speaksOfNewest, r.shows with
  | true, newest :: older =>
      { newest with seats := planUntil isReadHeading newest.seats below } :: older
  | _, shows => shows

/-- The show that a line adds, as it is after the lines to come. -/
def added? (r : Reader) (line : Text) (below : List Text) : Option Show := do
  let theater ← r.theater
  let (movie, date) ← named? line
  some ⟨theater, movie, date, planUntil isReadHeading .free below⟩

theorem told_of_silent (silent : r.speaksOfNewest = false) (below : List Text) :
    r.told below = r.shows := by
  rw [told, silent]

theorem told_cons_of_readHeading (heading : isReadHeading line) (below : List Text) :
    r.told (line :: below) = r.shows := by
  unfold told
  split
  · rename_i shows
    rw [planUntil_cons, if_pos heading, shows]
  · rfl

theorem told_cons_of_plain (plain : isReadHeading line = false) (silent : isSeatsLine line = false)
    (below : List Text) : r.told (line :: below) = r.told below := by
  simp only [told, planUntil_cons, plain, silent, Bool.false_eq_true, if_false]

theorem told_cons_of_seats (plain : isReadHeading line = false) (seats : isSeatsLine line)
    (below : List Text) :
    r.told (line :: below) = (r.setSeats line).told below := by
  obtain ⟨theater, speaks, shows⟩ := r
  cases speaks with
  | false => rfl
  | true =>
      cases shows with
      | nil => rfl
      | cons newest older =>
          simp only [told, setSeats, planUntil_cons, plain, seats, Bool.false_eq_true,
            if_false, if_true]

theorem readLine_of_named {movie date : Text} (named : named? line = some (movie, date)) :
    r.readLine line = match r.theater with
      | some theater =>
          { r with speaksOfNewest := true, shows := ⟨theater, movie, date, .free⟩ :: r.shows }
      | none => r := by
  obtain ⟨rest, rfl⟩ := isMovieLine_iff.mp (isMovieLine_of_named (by rw [named]; rfl))
  rw [named?, Text.after?_append, Option.bind_some] at named
  rw [readLine_movie, addShow, named]
  cases r.theater <;> rfl

theorem readLine_of_nameless (movie : isMovieLine line) (nameless : named? line = none) :
    r.readLine line = r := by
  obtain ⟨rest, rfl⟩ := isMovieLine_iff.mp movie
  rw [named?, Text.after?_append, Option.bind_some] at nameless
  rw [readLine_movie, addShow, nameless]
  cases r.theater <;> rfl

theorem readLine_of_plain (plain : isHeading line = false) :
    r.readLine line = if isSeatsLine line then r.setSeats line else r := by
  have apart : isTheaterLine line = false ∧ isMovieLine line = false :=
    Bool.or_eq_false_iff.mp plain
  have noTheater : Text.after? theaterMark line = none := if_neg (Bool.eq_false_iff.mp apart.1)
  have noMovie : Text.after? movieMark line = none := if_neg (Bool.eq_false_iff.mp apart.2)
  have seats : isSeatsLine line = line.has seatsMark := by simp [isSeatsLine, apart]
  rw [readLine, noTheater, noMovie, seats]

theorem named?_of_plain (other : isMovieLine line = false) : named? line = none := by
  have nothing : Text.after? movieMark line = none := if_neg (Bool.eq_false_iff.mp other)
  rw [named?, nothing]
  rfl

/-- One line, with what is still to come below it. -/
theorem told_readLine (housed : r.Housed) (line : Text) (below : List Text) :
    ((r.readLine line).told below).reverse =
      (r.told (line :: below)).reverse ++ (r.added? line below).toList := by
  by_cases theaterLine : isTheaterLine line
  · have heading : isReadHeading line := by simp [isReadHeading, theaterLine]
    obtain ⟨theater, rfl⟩ := isTheaterLine_iff.mp theaterLine
    have nothing : r.added? (theaterMark ++ theater) below = none := by
      rw [added?, named?_of_plain rfl]
      cases r.theater <;> rfl
    rw [readLine_theater, told_cons_of_readHeading heading, nothing, told_of_silent rfl,
      Option.toList_none, List.append_nil]
    rfl
  · by_cases movieLine : isMovieLine line
    · cases named : named? line with
      | none =>
          have nothing : r.added? line below = none := by
            rw [added?, named]
            cases r.theater <;> rfl
          have plain : isReadHeading line = false := by simp [isReadHeading, theaterLine, named]
          have heading : isHeading line := by simp [isHeading, movieLine]
          have silent := not_isSeatsLine_of_isHeading heading
          rw [readLine_of_nameless movieLine named, told_cons_of_plain plain silent, nothing,
            Option.toList_none, List.append_nil]
      | some names =>
          obtain ⟨movie, date⟩ := names
          have heading : isReadHeading line := by simp [isReadHeading, named]
          rw [readLine_of_named named, told_cons_of_readHeading heading]
          cases inside : r.theater with
          | none =>
              rw [told_of_silent (housed inside), added?, inside]
              exact (List.append_nil _).symm
          | some theater =>
              rw [added?, inside, named]
              exact List.reverse_cons
    · have plain : isHeading line = false := by simp [isHeading, theaterLine, movieLine]
      have unread : isReadHeading line = false :=
        Bool.eq_false_iff.mpr fun read =>
          Bool.eq_false_iff.mp plain (isHeading_of_isReadHeading read)
      have nothing : r.added? line below = none := by
        rw [added?, named?_of_plain (Bool.eq_false_iff.mpr movieLine)]
        cases r.theater <;> rfl
      rw [readLine_of_plain plain, nothing, Option.toList_none, List.append_nil]
      by_cases seats : isSeatsLine line
      · rw [if_pos seats, told_cons_of_seats unread seats]
      · rw [if_neg seats, told_cons_of_plain unread (Bool.eq_false_iff.mpr seats)]

theorem speaksOfNewest_setSeats (r : Reader) (line : Text) :
    (r.setSeats line).speaksOfNewest = r.speaksOfNewest := by
  unfold setSeats
  split <;> rfl

theorem Housed.readLine (housed : r.Housed) (line : Text) : (r.readLine line).Housed := by
  intro outside
  by_cases theaterLine : isTheaterLine line
  · obtain ⟨theater, rfl⟩ := isTheaterLine_iff.mp theaterLine
    rw [readLine_theater]
    rfl
  · rw [theater_readLine (List.isPrefixOf_iff_prefix.not.mp theaterLine)] at outside
    by_cases movieLine : isMovieLine line
    · have same : r.readLine line = r := by
        cases named : named? line with
        | none => exact readLine_of_nameless movieLine named
        | some names => rw [readLine_of_named named, outside]
      rw [same]
      exact housed outside
    · rw [readLine_of_plain (by simp [isHeading, theaterLine, movieLine])]
      split
      · rw [speaksOfNewest_setSeats]
        exact housed outside
      · exact housed outside

theorem theater_readLine_eq (inside : r.theater = theaterBelow above) (line : Text) :
    (r.readLine line).theater = theaterBelow (above ++ [line]) := by
  by_cases theaterLine : isTheaterLine line
  · obtain ⟨theater, rfl⟩ := isTheaterLine_iff.mp theaterLine
    rw [readLine_theater, theaterBelow_of_theaterLine]
    rfl
  · rw [theater_readLine (List.isPrefixOf_iff_prefix.not.mp theaterLine),
      theaterBelow_of_other above (Bool.eq_false_iff.mpr theaterLine), inside]

theorem added?_eq (inside : r.theater = theaterBelow above) (line : Text) (below : List Text) :
    r.added? line below = showAt? isReadHeading (above ++ line :: below) above.length := by
  have later : (above ++ line :: below).drop (above.length + 1) = below := by
    rw [List.append_cons]
    exact List.drop_left' List.length_append
  simp [added?, showAt?, inside, later]

/-- What is read of the lines to come is what they name, wherever the reader stands. -/
theorem shows_readLines (housed : r.Housed) (inside : r.theater = theaterBelow above)
    (below : List Text) :
    (r.readLines below).shows.reverse = (r.told below).reverse ++
      (List.range below.length).filterMap fun n =>
        showAt? isReadHeading (above ++ below) (above.length + n) := by
  induction below generalizing r above with
  | nil =>
      have same : r.told [] = r.shows := by
        unfold told
        split
        · rename_i shows
          rw [shows]
          rfl
        · rfl
      rw [readLines_nil, same]
      exact (List.append_nil _).symm
  | cons line below ih =>
      have later := ih (housed.readLine line) (theater_readLine_eq inside line)
      have shifted (n : Nat) :
          showAt? isReadHeading (above ++ [line] ++ below) ((above ++ [line]).length + n) =
            showAt? isReadHeading (above ++ line :: below) (above.length + (n + 1)) := by
        rw [← List.append_cons, List.length_append, List.length_singleton, Nat.add_assoc,
          Nat.add_comm 1]
      simp only [shifted] at later
      rw [readLines_cons, later, told_readLine housed, added?_eq inside, List.length_cons,
        List.range_succ_eq_map, List.filterMap_cons, List.filterMap_map, List.append_assoc,
        Nat.add_zero]
      cases showAt? isReadHeading (above ++ line :: below) above.length <;> rfl

end Reader

theorem parse_eq_showsIn (text : Text) : parse text = showsIn isReadHeading text.lines := by
  have outside : Reader.start.theater = theaterBelow [] := rfl
  have read := Reader.shows_readLines (fun _ => rfl) outside text.lines
  simp only [List.nil_append, List.length_nil, Nat.zero_add] at read
  exact read

/-- A text is read as it stands, each line of seats with the movie line nearest above it,
    if and only if what is told below a movie line that names no show agrees with what the
    show above it says. -/
theorem seats_attributed_iff (text : Text) :
    parse text = showsIn isReadHeading text.lines ∧
    (∀ n, showAt? isReadHeading text.lines n = (showAt? isHeading text.lines n).map fun s =>
      misled s (strays (text.lines.drop (n + 1))).getLast?) ∧
    (parse text = showsIn isHeading text.lines ↔
      ∀ n s stray, showAt? isHeading text.lines n = some s →
      (strays (text.lines.drop (n + 1))).getLast? = some stray → planOfLine stray = s.seats) ∧
    ((∀ line ∈ text.lines, isMovieLine line → named? line ≠ none) →
      parse text = showsIn isHeading text.lines) := by
  have faithful := showsIn_eq_iff text.lines
  rw [← parse_eq_showsIn] at faithful
  refine ⟨parse_eq_showsIn text, showAt?_isReadHeading text.lines, faithful, fun wellFormed => ?_⟩
  refine faithful.mpr fun n s stray _ last => ?_
  have astray : strays (text.lines.drop (n + 1)) ≠ [] := by
    intro empty
    rw [empty] at last
    exact Option.some_ne_none _ last.symm
  obtain ⟨line, there, movie, nameless⟩ := skipped_of_strays astray
  exact absurd nameless (wellFormed line (List.mem_of_mem_drop there) movie)

/-- A movie line without a date, with an open bracket or with an empty date hands the seats told
    below it to the show above, which has no line of seats of its own. -/
theorem seats_of_skipped_movie :
    (∀ skipped ∈ ["  Movie: Tenet".toList, "  Movie: Tenet (19:30".toList,
      "  Movie: Tenet ()".toList],
      let text : Text := "Theater: PVR\n  Movie: Inception (19:30)\n".toList ++ skipped ++
        "\n    Available seats: 6 (Total: 1/20)\n".toList
      showsIn isHeading text.lines = [⟨"PVR", "Inception", "19:30", .free⟩] ∧
        (parse text).map (fun s => (s.movie, s.seats.freeSeats)) = [("Inception".toList, [6])]) ∧
    ¬ ∀ text, parse text = showsIn isHeading text.lines := by
  refine ⟨by decide +kernel, fun all => ?_⟩
  have orphaned := all ("Theater: PVR\n  Movie: Inception (19:30)\n  Movie: Tenet\n".toList ++
    "    Available seats: 6 (Total: 1/20)\n".toList)
  revert orphaned
  decide +kernel

end BoxOffice.Snapshot

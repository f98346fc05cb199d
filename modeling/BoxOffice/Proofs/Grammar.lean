import BoxOffice.Proofs.Numeral
import BoxOffice.Proofs.Reply
import Mathlib.Data.List.TakeWhile

/-! # How a request is written

The grammar of booking requests, told without the reader, and that the reader follows it to the
letter (`parse_grammar`): which texts make which request, and for every other text which refusal it
meets. Printing writes one of the texts of a request, whenever there is one (`parse_print_iff`).
-/

namespace BoxOffice

namespace Text

/-! ## Blanks around a text -/

/-- The second text is the first one with blanks put around it. -/
def IsPadded (core text : Text) : Prop :=
  ∃ before after, (∀ c ∈ before, isBlank c) ∧ (∀ c ∈ after, isBlank c) ∧
    text = before ++ core ++ after

theorem isPadded_trim (text : Text) : IsPadded text.trim text := by
  refine ⟨text.takeWhile isBlank, ((trimStart text).reverse.takeWhile isBlank).reverse, ?_, ?_, ?_⟩
  · intro c member
    exact List.mem_takeWhile_imp member
  · intro c member
    exact List.mem_takeWhile_imp (List.mem_reverse.mp member)
  · rw [trim, List.append_assoc, ← List.reverse_append, List.takeWhile_append_dropWhile,
      List.reverse_reverse, trimStart, List.takeWhile_append_dropWhile]

theorem dropWhile_padding {padding solid : Text} (blank : ∀ c ∈ padding, isBlank c)
    (filled : solid ≠ []) (plain : ∀ c ∈ solid, isBlank c = false) (rest : Text) :
    (padding ++ (solid ++ rest)).dropWhile isBlank = solid ++ rest := by
  obtain ⟨c, solid, rfl⟩ := List.exists_cons_of_ne_nil filled
  rw [List.dropWhile_append_of_pos blank, List.cons_append, List.dropWhile_cons_of_neg]
  rw [plain c (List.mem_cons_self ..)]
  nofun

theorem trim_of_isPadded {core text : Text} (filled : core ≠ [])
    (plain : ∀ c ∈ core, isBlank c = false) (padded : IsPadded core text) : text.trim = core := by
  obtain ⟨before, after, blank, blank', rfl⟩ := padded
  have back : (after.reverse ++ (core.reverse ++ [])).dropWhile isBlank = core.reverse ++ [] :=
    dropWhile_padding (fun c member => blank' c (List.mem_reverse.mp member))
      (by simpa using filled)
      (fun c member => plain c (List.mem_reverse.mp member)) []
  rw [trim, trimStart, List.append_assoc, dropWhile_padding blank filled plain, List.reverse_append]
  rw [List.append_nil] at back
  rw [back, List.reverse_reverse]

/-- The text is the numeral of an integer, perhaps with blanks around it. -/
def Denotes (text : Text) (value : Int) : Prop :=
  ∃ numeral, Numeral value numeral ∧ IsPadded numeral text

theorem signed?_trim {text : Text} {value : Int} :
    signed? text.trim = some value ↔ Denotes text value := by
  constructor
  · intro read
    exact ⟨text.trim, signed?_eq_some.mp read, isPadded_trim text⟩
  · rintro ⟨numeral, written, padded⟩
    rw [trim_of_isPadded written.ne_nil (fun _ => written.no_blank) padded]
    exact signed?_eq_some.mpr written

theorem Denotes.unique {text : Text} {value other : Int} (h : Denotes text value)
    (h' : Denotes text other) : value = other := by
  have read := signed?_trim.mpr h
  rw [signed?_trim.mpr h', Option.some.injEq] at read
  exact read.symm

end Text

namespace Request

/-! ## Seat fields -/

/-- Whether a number can be held in 64 bits, one of them for the sign. -/
def FitsInt64 (value : Int) : Prop := Int64.minValue.toInt ≤ value ∧ value ≤ Int64.maxValue.toInt

theorem fitsInt64_of_seat {n : Nat} (seat : 1 ≤ n ∧ n ≤ 20) : FitsInt64 n :=
  ⟨(show Int64.minValue.toInt ≤ 0 by decide).trans (by omega),
    le_trans (show (n : Int) ≤ 20 by omega) (by decide)⟩

/-- A field that is good for a seat: its digits, perhaps behind a plus sign, perhaps
    with blanks around. -/
structure Names (field : Text) (n : SeatNumber) : Prop where
  seat : 1 ≤ n.toNat ∧ n.toNat ≤ 20
  numeral : ∃ digits, Text.IsDigits n.toNat digits ∧
    (Text.IsPadded digits field ∨ Text.IsPadded ('+' :: digits) field)

theorem names_iff {field : Text} {n : SeatNumber} :
    Names field n ↔ (1 ≤ n.toNat ∧ n.toNat ≤ 20) ∧ field.Denotes n.toNat := by
  constructor
  · rintro ⟨seat, digits, written, padded | padded⟩
    · exact ⟨seat, digits, .plain written, padded⟩
    · exact ⟨seat, '+' :: digits, .plus written, padded⟩
  · rintro ⟨seat, numeral, written, padded⟩
    refine ⟨seat, ?_⟩
    -- a number with a minus sign is not that of a seat
    generalize same : (n.toNat : Int) = value at written
    cases written with
    | plain digits => exact ⟨numeral, Int.ofNat.inj same ▸ digits, .inl padded⟩
    | plus digits => exact ⟨_, Int.ofNat.inj same ▸ digits, .inr padded⟩
    | minus digits => omega

theorem Names.ne_nil {field : Text} {n : SeatNumber} (h : Names field n) : field ≠ [] := by
  obtain ⟨-, numeral, written, before, after, -, -, rfl⟩ := names_iff.mp h
  simp [written.ne_nil]

theorem Names.no_comma {field : Text} {n : SeatNumber} (h : Names field n) : ',' ∉ field := by
  obtain ⟨-, numeral, written, before, after, blank, blankAfter, rfl⟩ := names_iff.mp h
  intro member
  simp only [List.mem_append] at member
  rcases member with (member | member) | member
  · exact absurd (blank ',' member) (by decide)
  · exact written.no_comma member
  · exact absurd (blankAfter ',' member) (by decide)

theorem exists_names {fields : List Text} {seats : List SeatNumber}
    (h : List.Forall₂ Names fields seats) :
    ∀ field ∈ fields, ∃ n, Names field n := by
  induction h with
  | nil => nofun
  | cons names _ ih => exact List.forall_mem_cons.mpr ⟨⟨_, names⟩, ih⟩

theorem integer?_trim {field : Text} {value : Int} :
    Text.integer? (-9223372036854775808) 9223372036854775807 field.trim = some value ↔
      field.Denotes value ∧ FitsInt64 value := by
  rw [Text.integer?, Option.filter_eq_some_iff, Text.signed?_trim, Bool.and_eq_true,
    decide_eq_true_eq, decide_eq_true_eq]
  rfl

/-- What a field comes to: the seat it names, or a refusal that quotes it. -/
inductive FieldReads (field : Text) : Except Refusal SeatNumber → Prop where
  | seat {n : SeatNumber} (names : Names field n) : FieldReads field (.ok n)
  | noSuchSeat {value : Int} (denotes : field.Denotes value) (fits : FitsInt64 value)
      (outside : ¬ (1 ≤ value ∧ value ≤ 20)) : FieldReads field (.error (.noSuchSeat field))
  | notANumber (none : ∀ value, field.Denotes value → ¬ FitsInt64 value) :
      FieldReads field (.error (.notANumber field))

theorem fieldReads (field : Text) : FieldReads field (seatOfField field) := by
  unfold seatOfField
  split
  case h_1 unread =>
    refine .notANumber fun value denotes fits => ?_
    rw [integer?_trim.mpr ⟨denotes, fits⟩] at unread
    cases unread
  case h_2 value read =>
    obtain ⟨denotes, fits⟩ := integer?_trim.mp read
    -- below 256 the narrowing changes nothing, and above it is not reached
    have narrowed (low : 0 ≤ value) (high : value < 256) :
        ((UInt8.ofNat value.toNat).toNat : Int) = value := by
      rw [UInt8.toNat_ofNat_of_lt' ((Int.toNat_lt low).mpr high), Int.toNat_of_nonneg low]
    split
    · rename_i inside
      refine .seat (names_iff.mpr ⟨SeatNumber.isValid_iff.mp inside.2.2, ?_⟩)
      rw [narrowed inside.1 inside.2.1]
      exact denotes
    · rename_i outside
      refine .noSuchSeat denotes fits fun seat =>
        outside ⟨by omega, by omega, SeatNumber.isValid_iff.mpr ?_⟩
      have := narrowed (by omega) (by omega)
      simp only [seatCount]
      omega

theorem seatOfField_eq_ok {field : Text} {n : SeatNumber} :
    seatOfField field = .ok n ↔ Names field n := by
  have reads := fieldReads field
  generalize seatOfField field = result at reads
  constructor
  · rintro rfl
    cases reads with
    | seat names => exact names
  · intro names
    obtain ⟨seat, denotes⟩ := names_iff.mp names
    cases reads with
    | seat names' =>
        have same := (names_iff.mp names').2.unique denotes
        rw [UInt8.toNat_inj.mp (Int.ofNat.inj same)]
    | noSuchSeat denotes' _ outside =>
        rw [denotes'.unique denotes] at outside
        exact absurd (by omega) outside
    | notANumber none => exact absurd (fitsInt64_of_seat seat) (none _ denotes)

theorem seatOfField_eq_noSuchSeat {field bad : Text} :
    seatOfField field = .error (.noSuchSeat bad) ↔ field = bad ∧
      ∃ value, bad.Denotes value ∧ FitsInt64 value ∧ ¬ (1 ≤ value ∧ value ≤ 20) := by
  have reads := fieldReads field
  generalize seatOfField field = result at reads
  constructor
  · rintro rfl
    cases reads with
    | noSuchSeat denotes fits outside => exact ⟨rfl, _, denotes, fits, outside⟩
  · rintro ⟨rfl, value, denotes, fits, outside⟩
    cases reads with
    | seat names =>
        obtain ⟨seat, denotes'⟩ := names_iff.mp names
        rw [denotes.unique denotes'] at outside
        exact absurd (by omega) outside
    | noSuchSeat => rfl
    | notANumber none => exact absurd fits (none value denotes)

theorem seatOfField_eq_notANumber {field bad : Text} :
    seatOfField field = .error (.notANumber bad) ↔ field = bad ∧
      ∀ value, bad.Denotes value → ¬ FitsInt64 value := by
  have reads := fieldReads field
  generalize seatOfField field = result at reads
  constructor
  · rintro rfl
    cases reads with
    | notANumber none => exact ⟨rfl, none⟩
  · rintro ⟨rfl, none⟩
    cases reads with
    | seat names =>
        exact absurd (fitsInt64_of_seat (names_iff.mp names).1) (none _ (names_iff.mp names).2)
    | noSuchSeat denotes fits => exact absurd fits (none _ denotes)
    | notANumber => rfl

theorem seatOfField_ne_tooFewFields {field : Text} : seatOfField field ≠ .error .tooFewFields := by
  intro same
  have reads := same ▸ fieldReads field
  cases reads

theorem seatsOfFields_eq_ok {fields : List Text} {seats : List SeatNumber} :
    seatsOfFields fields = .ok seats ↔ List.Forall₂ Names fields seats := by
  have names : (fun field n => seatOfField field = .ok n) = Names :=
    funext₂ fun _ _ => propext seatOfField_eq_ok
  rw [← names]
  exact ⟨seatsOfFields_ok, seatsOfFields_of_forall⟩

theorem seatsOfFields_cons_eq_error {field : Text} {fields : List Text} {refusal : Refusal} :
    seatsOfFields (field :: fields) = .error refusal ↔
      seatOfField field = .error refusal ∨ (∃ n, Names field n) ∧
      seatsOfFields fields = .error refusal := by
  simp only [← seatOfField_eq_ok, seatsOfFields]
  cases seatOfField field <;> cases seatsOfFields fields <;> simp

/-- The leftmost bad field decides. -/
theorem seatsOfFields_eq_error {fields : List Text} {refusal : Refusal} :
    seatsOfFields fields = .error refusal ↔ ∃ good bad rest, fields = good ++ bad :: rest ∧
      (∀ field ∈ good, ∃ n, Names field n) ∧ seatOfField bad = .error refusal := by
  induction fields with
  | nil => simp [seatsOfFields]
  | cons field fields ih =>
      rw [seatsOfFields_cons_eq_error, ih]
      constructor
      · rintro (refused | ⟨names, good, bad, rest, rfl, named, refused⟩)
        · exact ⟨[], field, fields, rfl, List.forall_mem_nil _, refused⟩
        · exact ⟨field :: good, bad, rest, rfl, List.forall_mem_cons.mpr ⟨names, named⟩, refused⟩
      · rintro ⟨good, bad, rest, same, named, refused⟩
        cases good with
        | nil =>
            cases same
            exact .inl refused
        | cons g good =>
            cases same
            rw [List.forall_mem_cons] at named
            exact .inr ⟨named.1, good, bad, rest, rfl, named.2, refused⟩

/-! ## Fields of a message -/

/-- The message is these fields with commas between them. A comma at its end belongs
    to none of them. -/
structure HasFields (text : Text) (pieces : List Text) : Prop where
  some_field : pieces ≠ []
  free : ∀ piece ∈ pieces, ',' ∉ piece
  written : text = Text.join [','] pieces ∧ text.getLast? ≠ some ',' ∨
    text = Text.join [','] pieces ++ [',']

theorem splitOn_append_comma (text : Text) :
    (text ++ [',']).splitOn ',' = text.splitOn ',' ++ [[]] := by
  rw [List.splitOn_append_cons_self, List.splitOn_nil]

theorem hasFields_iff {text : Text} {pieces : List Text} :
    HasFields text pieces ↔ fields text = pieces := by
  constructor
  · rintro ⟨some_field, free, ⟨rfl, plain⟩ | rfl⟩
    · rw [fields, if_neg plain, Text.join, List.splitOn_intercalate _ free some_field]
    · rw [fields, if_pos List.getLast?_concat, splitOn_append_comma,
        List.dropLast_concat, Text.join, List.splitOn_intercalate _ free some_field]
  · rintro rfl
    by_cases ends : text.getLast? = some ','
    · obtain ⟨text, rfl⟩ := List.getLast?_eq_some_iff.mp ends
      rw [fields, if_pos ends, splitOn_append_comma, List.dropLast_concat]
      exact ⟨List.splitOn_ne_nil _ _, fun _ => Text.not_mem_of_mem_splitOn,
        .inr (by rw [Text.join, List.intercalate_splitOn])⟩
    · rw [fields, if_neg ends]
      exact ⟨List.splitOn_ne_nil _ _, fun _ => Text.not_mem_of_mem_splitOn,
        .inl ⟨by rw [Text.join, List.intercalate_splitOn], ends⟩⟩

/-! ## Requests -/

/-- A text of the request: its names, one field for each seat in order, and perhaps a
    comma too many. -/
structure Spells (text : Text) (r : Request) : Prop where
  theater : ',' ∉ r.theater
  movie : ',' ∉ r.movie
  some_seat : r.seats ≠ []
  written : ∃ seatFields, List.Forall₂ Names seatFields r.seats ∧
    (text = Text.join [','] (r.theater :: r.movie :: seatFields) ∨
      text = Text.join [','] (r.theater :: r.movie :: seatFields) ++ [','])

/-- What spells the request has its fields: the text does not end in a comma that is not to
    spare. -/
theorem Spells.hasFields {text : Text} {r : Request} (h : Spells text r) :
    ∃ seatFields, List.Forall₂ Names seatFields r.seats ∧
      HasFields text (r.theater :: r.movie :: seatFields) := by
  obtain ⟨seatFields, named, written⟩ := h.written
  have free : ∀ piece ∈ r.theater :: r.movie :: seatFields, ',' ∉ piece := by
    simp only [List.forall_mem_cons]
    refine ⟨h.theater, h.movie, fun field member => ?_⟩
    obtain ⟨n, names⟩ := exists_names named field member
    exact names.no_comma
  refine ⟨seatFields, named, List.cons_ne_nil _ _, free,
    written.imp_left fun same => ⟨same, fun ends => ?_⟩⟩
  have filled : seatFields ≠ [] := by
    rintro rfl
    exact h.some_seat (List.forall₂_nil_left_iff.mp named)
  obtain ⟨n, names⟩ := exists_names named _ (List.getLast_mem filled)
  have last : (r.theater :: r.movie :: seatFields).getLast? = some (seatFields.getLast filled) := by
    rw [List.getLast?_cons_cons, List.getLast?_cons_of_ne_nil filled,
      List.getLast?_eq_some_getLast filled]
  rw [same, Text.join, Text.getLast?_intercalate last names.ne_nil] at ends
  exact names.no_comma (List.mem_of_getLast? ends)

theorem parse_eq_ok_iff {text : Text} {r : Request} : parse text = .ok r ↔ Spells text r := by
  rw [parse_eq_ok]
  constructor
  · rintro ⟨field, rest, split, named⟩
    rw [seatsOfFields_eq_ok] at named
    obtain ⟨-, free, written⟩ := hasFields_iff.mpr split
    simp only [List.forall_mem_cons] at free
    refine ⟨free.1, free.2.1, fun none => ?_, field :: rest, named, written.imp_left And.left⟩
    rw [none] at named
    exact List.cons_ne_nil _ _ (List.forall₂_nil_right_iff.mp named)
  · intro spelled
    obtain ⟨seatFields, named, split⟩ := spelled.hasFields
    cases seatFields with
    | nil => exact absurd (List.forall₂_nil_left_iff.mp named) spelled.some_seat
    | cons field rest => exact ⟨field, rest, hasFields_iff.mp split, seatsOfFields_eq_ok.mpr named⟩

/-- The field is a seat field of the message that names no seat, and there is none to
    the left of it. -/
def LeftmostBad (text bad : Text) : Prop :=
  (∀ n, ¬ Names bad n) ∧ ∃ theater movie good rest,
    HasFields text (theater :: movie :: (good ++ bad :: rest)) ∧ ∀ field ∈ good, ∃ n, Names field n

theorem parse_eq_error {text : Text} {refusal : Refusal} :
    parse text = .error refusal ↔ refusal = .tooFewFields ∧ (fields text).length < 3 ∨
      ∃ theater movie seatFields, fields text = theater :: movie :: seatFields ∧
        seatsOfFields seatFields = .error refusal := by
  unfold parse
  split
  · rename_i theater movie field rest split
    rw [split]
    cases read : seatsOfFields (field :: rest) <;> simp [read, and_assoc]
  · rename_i few
    cases split : fields text with
    | nil => simp [eq_comm]
    | cons theater pieces =>
        cases pieces with
        | nil => simp [eq_comm]
        | cons movie pieces =>
            cases pieces with
            | nil => simp [eq_comm, seatsOfFields]
            | cons field rest => exact absurd split (few _ _ _ _)

theorem parse_refusal_iff {text : Text} {refusal : Refusal} :
    parse text = .error refusal ↔
      refusal = .tooFewFields ∧ (∃ pieces, HasFields text pieces ∧ pieces.length < 3) ∨
      ∃ bad, LeftmostBad text bad ∧ seatOfField bad = .error refusal := by
  simp only [parse_eq_error, hasFields_iff, seatsOfFields_eq_error, exists_eq_left']
  refine or_congr_right ⟨?_, ?_⟩
  · rintro ⟨theater, movie, _, split, good, bad, rest, rfl, named, refused⟩
    refine ⟨bad,
      ⟨fun n names => ?_, theater, movie, good, rest, hasFields_iff.mpr split, named⟩, refused⟩
    rw [seatOfField_eq_ok.mpr names] at refused
    cases refused
  · rintro ⟨bad, ⟨-, theater, movie, good, rest, split, named⟩, refused⟩
    exact ⟨theater, movie, _, hasFields_iff.mp split, good, bad, rest, rfl, named, refused⟩

/-- A message makes exactly the request that it spells. With fewer than three fields it is refused
    for that; every other message is refused for the leftmost field that names no seat, which is
    quoted as it stands. A number that is not that of a seat is not made one by narrowing. -/
theorem parse_grammar (text : Text) :
    (∀ r, parse text = .ok r ↔ Spells text r) ∧
    (parse text = .error .tooFewFields ↔ ∃ pieces, HasFields text pieces ∧ pieces.length < 3) ∧
    (∀ bad, parse text = .error (.noSuchSeat bad) ↔ LeftmostBad text bad ∧
      ∃ value, bad.Denotes value ∧ FitsInt64 value ∧ ¬ (1 ≤ value ∧ value ≤ 20)) ∧
    (∀ bad, parse text = .error (.notANumber bad) ↔ LeftmostBad text bad ∧
      ∀ value, bad.Denotes value → ¬ FitsInt64 value) ∧
    ((∃ r, parse text = .ok r) ∨ parse text = .error .tooFewFields ∨
      ∃ bad, parse text = .error (.noSuchSeat bad) ∨ parse text = .error (.notANumber bad)) ∧
    ∀ theater movie seatFields, HasFields text (theater :: movie :: seatFields) →
      ∀ field ∈ seatFields, ∀ value, field.Denotes value → ¬ (1 ≤ value ∧ value ≤ 20) →
        ∀ r, parse text ≠ .ok r := by
  refine ⟨fun r => parse_eq_ok_iff, ?_, fun bad => ?_, fun bad => ?_, ?_, ?_⟩
  · simp [parse_refusal_iff, seatOfField_ne_tooFewFields]
  · simp [parse_refusal_iff, seatOfField_eq_noSuchSeat]
  · simp [parse_refusal_iff, seatOfField_eq_notANumber]
  · cases read : parse text with
    | ok r => exact .inl ⟨r, rfl⟩
    | error refusal =>
        rcases refusal_of_parse read with rfl | ⟨bad, rfl | rfl⟩
        · exact .inr (.inl rfl)
        · exact .inr (.inr ⟨bad, .inl rfl⟩)
        · exact .inr (.inr ⟨bad, .inr rfl⟩)
  · intro theater movie seatFields split field member value denotes outside r read
    obtain ⟨seatFields', named, split'⟩ := (parse_eq_ok_iff.mp read).hasFields
    rw [hasFields_iff] at split split'
    cases split.symm.trans split'
    obtain ⟨n, names⟩ := exists_names named field member
    obtain ⟨seat, denotes'⟩ := names_iff.mp names
    rw [denotes.unique denotes'] at outside
    exact outside (by omega)

/-- The number 259 is not taken for seat 3, which it is in eight bits. -/
theorem parse_grammar_narrowing :
    (∀ r, parse "PVR,Inception, +259 ".toList ≠ .ok r) ∧
    parse "PVR,Inception, +259 ".toList = .error (.noSuchSeat " +259 ".toList) := by
  have blank : ∀ c ∈ [' '], isBlank c := List.forall_mem_singleton.mpr (by decide)
  have denotes : Text.Denotes " +259 ".toList 259 :=
    ⟨"+259".toList, .plus ⟨0, rfl⟩, [' '], [' '], blank, blank, rfl⟩
  have split :
      HasFields "PVR,Inception, +259 ".toList ["PVR".toList, "Inception".toList, " +259 ".toList] :=
    hasFields_iff.mpr (by decide +kernel)
  obtain ⟨-, -, outside, -, -, narrow⟩ := parse_grammar "PVR,Inception, +259 ".toList
  refine ⟨narrow _ _ _ split _ (List.mem_singleton_self _) 259 denotes (by decide),
    (outside _).mpr ⟨⟨?_, ?_⟩, ?_⟩⟩
  · intro n names
    obtain ⟨seat, denotes'⟩ := names_iff.mp names
    have := denotes.unique denotes'
    omega
  · exact ⟨_, _, [], [], split, nofun⟩
  · exact ⟨259, denotes, ⟨by decide, by decide⟩, by decide⟩

/-! ## Printing -/

theorem readable_iff {r : Request} :
    r.Readable ↔ ',' ∉ r.theater ∧ ',' ∉ r.movie ∧ r.seats ≠ [] ∧ ∀ n ∈ r.seats, 1 ≤ n.toNat ∧
    n.toNat ≤ 20 :=
  ⟨fun h =>
    ⟨h.theater, h.movie, h.some_seat, fun n asked => SeatNumber.isValid_iff.mp (h.valid n asked)⟩,
    fun ⟨theater, movie, some_seat, seats⟩ =>
      ⟨theater, movie, some_seat, fun n asked => SeatNumber.isValid_iff.mpr (seats n asked)⟩⟩

theorem route_congr {text other : Text} {r : Request} (read : parse text = .ok r)
    (read' : parse other = .ok r) (p : Programme) : p.route text = p.route other := by
  rw [Programme.route_of_parse read, Programme.route_of_parse read']
  simp only [Programme.book, read, read']

/-- A request is read back from its printed form if and only if some message makes it. Printing what
    a message asks for makes a message that asks for the same, and is answered alike. -/
theorem parse_print_iff (r : Request) :
    (parse r.print = .ok r ↔
      ',' ∉ r.theater ∧ ',' ∉ r.movie ∧ r.seats ≠ [] ∧ ∀ n ∈ r.seats, 1 ≤ n.toNat ∧ n.toNat ≤ 20) ∧
    ∀ text, parse text = .ok r → parse r.print = .ok r ∧
    ∀ p : Programme, p.route r.print = p.route text := by
  refine ⟨?_, fun text read => ?_⟩
  · rw [← readable_iff]
    exact ⟨readable_of_parse, parse_print⟩
  · have reread := parse_print (readable_of_parse read)
    exact ⟨reread, route_congr reread read⟩

/-- Blanks, a plus sign, a leading zero and a comma too many are gone from the printed form. -/
theorem parse_print_respelled :
    let r : Request := ⟨"PVR".toList, " Inception".toList, [5, 3]⟩
    r.print = "PVR, Inception,5,3".toList ∧ parse r.print = .ok r ∧
      ∀ p : Programme, p.route r.print = p.route "PVR, Inception, +05 ,3,".toList := by
  refine ⟨by decide +kernel,
    (parse_print_iff _).1.mpr ⟨by decide, by decide, by decide, by simp⟩, ?_⟩
  exact ((parse_print_iff _).2 _ (by decide +kernel)).2

end Request

end BoxOffice

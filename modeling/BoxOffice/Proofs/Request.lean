import BoxOffice.Proofs.SeatPlan
import BoxOffice.Request

/-! # What a message can ask for

A request that reads names two texts without a comma and at least one seat, and seats of the hall
only. Every request of this form is read back from its printed form.
-/

namespace BoxOffice

namespace Text

theorem not_mem_of_mem_splitOn {separator : Char} {text piece : Text}
    (h : piece ∈ text.splitOn separator) : separator ∉ piece := by
  induction text generalizing piece with
  | nil =>
      rw [List.splitOn_nil, List.mem_singleton] at h
      simp [h]
  | cons c rest ih =>
      rw [List.splitOn_cons_eq_if_modifyHead] at h
      obtain ⟨first, others, parts⟩ :=
        List.exists_cons_of_ne_nil (List.splitOn_ne_nil separator rest)
      rw [parts] at h ih
      split at h
      · rcases List.mem_cons.mp h with rfl | later
        · simp
        · exact ih later
      · rename_i different
        rw [List.modifyHead_cons] at h
        rcases List.mem_cons.mp h with rfl | later
        · have apart : separator ≠ c := by rintro rfl; simp at different
          simpa [apart] using ih (List.mem_cons_self ..)
        · exact ih (List.mem_cons_of_mem _ later)

/-- A joined text ends as its last piece ends, unless that piece is empty. -/
theorem getLast?_intercalate {separator last : Text} {pieces : List Text}
    (h : pieces.getLast? = some last) (inhabited : last ≠ []) :
    (separator.intercalate pieces).getLast? = last.getLast? := by
  induction pieces with
  | nil => cases h
  | cons piece rest ih =>
      cases rest with
      | nil =>
          cases h
          simp
      | cons next rest =>
          rw [List.getLast?_cons_cons] at h
          have ends := ih h
          have filled : separator.intercalate (next :: rest) ≠ [] := by
            intro empty
            rw [empty] at ends
            exact inhabited (List.getLast?_eq_none_iff.mp ends.symm)
          rw [List.intercalate_cons_cons, List.getLast?_append_of_ne_nil _ filled, ends]

end Text

namespace Request

/-! ## Fields -/

theorem comma_not_mem_of_mem_fields {text field : Text} (h : field ∈ fields text) :
    ',' ∉ field := by
  unfold fields at h
  split at h
  · exact Text.not_mem_of_mem_splitOn (List.dropLast_subset _ h)
  · exact Text.not_mem_of_mem_splitOn h

theorem fields_of_no_comma {text : Text} (h : ',' ∉ text) : fields text = [text] := by
  unfold fields
  rw [if_neg, List.splitOn_eq_singleton h]
  intro ends
  exact h (List.mem_of_getLast? ends)

/-- Fields without a comma, the last of them not empty, are read back from the joined text. -/
theorem fields_intercalate {pieces : List Text} {last : Text} (h : pieces.getLast? = some last)
    (inhabited : last ≠ []) (free : ∀ piece ∈ pieces, ',' ∉ piece) :
    fields (([','] : Text).intercalate pieces) = pieces := by
  have some_piece : pieces ≠ [] := by rintro rfl; cases h
  unfold fields
  rw [if_neg, List.splitOn_intercalate _ free some_piece]
  rw [Text.getLast?_intercalate h inhabited]
  intro ends
  exact free last (List.mem_of_getLast? h) (List.mem_of_getLast? ends)

/-! ## Seats -/

theorem isValid_of_seatOfField {field : Text} {n : SeatNumber} (h : seatOfField field = .ok n) :
    n.isValid := by
  unfold seatOfField at h
  split at h
  · cases h
  · split at h
    · rename_i inside
      cases h
      exact inside.2.2
    · cases h

theorem seatsOfFields_ok {fields : List Text} {seats : List SeatNumber}
    (h : seatsOfFields fields = .ok seats) :
    List.Forall₂ (fun field n => seatOfField field = .ok n) fields seats := by
  induction fields generalizing seats with
  | nil =>
      cases h
      exact .nil
  | cons field rest ih =>
      rw [seatsOfFields] at h
      cases first : seatOfField field with
      | error refusal => simp [first] at h
      | ok n =>
          cases others : seatsOfFields rest with
          | error refusal => simp [first, others] at h
          | ok seats' =>
              simp only [first, others, Except.ok.injEq] at h
              subst h
              exact .cons first (ih others)

theorem seatsOfFields_of_forall {fields : List Text} {seats : List SeatNumber}
    (h : List.Forall₂ (fun field n => seatOfField field = .ok n) fields seats) :
    seatsOfFields fields = .ok seats := by
  induction h with
  | nil => rfl
  | cons first _ ih => simp only [seatsOfFields, first, ih]

theorem isValid_of_seatsOfFields {fields : List Text} {seats : List SeatNumber}
    (h : seatsOfFields fields = .ok seats) : ∀ n ∈ seats, n.isValid := by
  have pairs := seatsOfFields_ok h
  clear h
  induction pairs with
  | nil => simp
  | cons first _ ih =>
      rw [List.forall_mem_cons]
      exact ⟨isValid_of_seatOfField first, ih⟩

/-! ## Requests -/

/-- A request that a message can make. -/
structure Readable (r : Request) : Prop where
  theater : ',' ∉ r.theater
  movie : ',' ∉ r.movie
  some_seat : r.seats ≠ []
  valid : ∀ n ∈ r.seats, n.isValid

theorem parse_eq_ok {text : Text} {r : Request} :
    parse text = .ok r ↔ ∃ field rest, fields text = r.theater :: r.movie :: field :: rest ∧
      seatsOfFields (field :: rest) = .ok r.seats := by
  unfold parse
  split
  · rename_i theater movie field rest split
    rw [split]
    cases seats : seatsOfFields (field :: rest) with
    | error refusal =>
        simp only [reduceCtorEq, false_iff, not_exists, not_and]
        rintro _ _ same
        simp only [List.cons.injEq] at same
        obtain ⟨-, -, rfl, rfl⟩ := same
        simp [seats]
    | ok given =>
        constructor
        · intro h
          cases h
          exact ⟨field, rest, rfl, seats⟩
        · rintro ⟨_, _, same, given'⟩
          simp only [List.cons.injEq] at same
          obtain ⟨rfl, rfl, rfl, rfl⟩ := same
          rw [seats] at given'
          cases given'
          rfl
  · rename_i few
    simp only [reduceCtorEq, false_iff, not_exists, not_and]
    intro field rest same
    exact absurd same (few _ _ _ _)

theorem readable_of_parse {text : Text} {r : Request} (h : parse text = .ok r) : r.Readable := by
  obtain ⟨field, rest, split, seats⟩ := parse_eq_ok.mp h
  have theater : r.theater ∈ fields text := by simp [split]
  have movie : r.movie ∈ fields text := by simp [split]
  refine ⟨comma_not_mem_of_mem_fields theater, comma_not_mem_of_mem_fields movie, ?_,
    isValid_of_seatsOfFields seats⟩
  · intro none
    have pairs := seatsOfFields_ok seats
    rw [none] at pairs
    cases pairs

theorem comma_mem_of_parse {text : Text} {r : Request} (h : parse text = .ok r) : ',' ∈ text := by
  obtain ⟨field, rest, split, -⟩ := parse_eq_ok.mp h
  by_contra free
  rw [fields_of_no_comma free] at split
  cases split

/-! ## Printing -/

def numeral (n : SeatNumber) : Text := Text.ofNat n.toNat

/-- The numeral of a seat reads as that seat; it is not empty and holds no comma. -/
theorem seatOfField_numeral {n : SeatNumber} (valid : n.isValid) :
    seatOfField (numeral n) = .ok n ∧ numeral n ≠ [] ∧ ',' ∉ numeral n := by
  have each : ∀ n ∈ SeatNumber.all,
      seatOfField (numeral n) = .ok n ∧ numeral n ≠ [] ∧ ',' ∉ numeral n := by decide +kernel
  exact each n (SeatNumber.mem_all.mpr valid)

theorem print_eq_intercalate (r : Request) :
    r.print = ([','] : Text).intercalate (r.theater :: r.movie :: r.seats.map numeral) := by
  have tail (first : Text) (seats : List SeatNumber) :
      ([','] : Text).intercalate (first :: seats.map numeral) =
        first ++ seats.flatMap fun n => ',' :: numeral n := by
    induction seats generalizing first with
    | nil => simp
    | cons n rest ih =>
        rw [List.map_cons, List.intercalate_cons_cons, ih, List.flatMap_cons]
        simp
  rw [List.intercalate_cons_cons, tail, print]
  simp [numeral]

theorem fields_print {r : Request} (h : r.Readable) :
    fields r.print = r.theater :: r.movie :: r.seats.map numeral := by
  obtain ⟨n, rest, seats⟩ := List.exists_cons_of_ne_nil h.some_seat
  have last : (r.theater :: r.movie :: r.seats.map numeral).getLast? =
      some (numeral (r.seats.getLast h.some_seat)) := by
    rw [List.getLast?_cons_cons, List.getLast?_cons_of_ne_nil (by simp [seats]), List.getLast?_map,
      List.getLast?_eq_some_getLast h.some_seat, Option.map_some]
  rw [print_eq_intercalate]
  apply fields_intercalate last
  · exact (seatOfField_numeral (h.valid _ (List.getLast_mem h.some_seat))).2.1
  · intro piece member
    simp only [List.mem_cons, List.mem_map] at member
    rcases member with rfl | rfl | ⟨n, asked, rfl⟩
    · exact h.theater
    · exact h.movie
    · exact (seatOfField_numeral (h.valid n asked)).2.2

theorem parse_print {r : Request} (h : r.Readable) : parse r.print = .ok r := by
  have pairs : List.Forall₂ (fun field n => seatOfField field = .ok n) (r.seats.map numeral)
      r.seats := by
    rw [List.forall₂_map_left_iff, List.forall₂_same]
    exact fun n asked => (seatOfField_numeral (h.valid n asked)).1
  have read := seatsOfFields_of_forall pairs
  obtain ⟨n, rest, seats⟩ := List.exists_cons_of_ne_nil h.some_seat
  have split := fields_print h
  rw [seats, List.map_cons] at split read
  rw [parse_eq_ok, seats]
  exact ⟨numeral n, rest.map numeral, split, read⟩

end Request

end BoxOffice

import BoxOffice.Proofs.Programme
import BoxOffice.Snapshot.Rendering
import Mathlib.Data.List.Basic
import Mathlib.Data.List.Induction

/-! # What a snapshot tells

A text that ends with a snapshot tells how many seats of every show are free. It is read from its
end, since names may hold anything and nothing is known of what stands before the snapshot: the last
colon of a line of seats stands before the numbers, and the one before it stands before the list.
-/

namespace BoxOffice

/-- A plan with more seats booked and as many free is the same plan. -/
theorem SeatPlan.eq_of_length_freeSeats {plan other : SeatPlan}
    (more : ∀ n ∈ plan.bookedSeats, n ∈ other.bookedSeats)
    (same : other.freeSeats.length = plan.freeSeats.length) : other = plan := by
  have free_or_booked {n : SeatNumber} (booked : n ∈ other.bookedSeats) :
      n ∈ plan.freeSeats ∨ n ∈ plan.bookedSeats := by
    rw [mem_freeSeats, mem_bookedSeats]
    have valid := isValid_of_isBooked? (mem_bookedSeats.mp booked)
    cases before : plan.isBooked? n with
    | none => simp [isBooked?_eq_none.mp before] at valid
    | some b => cases b <;> simp
  have fewer : other.freeSeats.Sublist plan.freeSeats := by
    apply List.monotone_filter_right
    intro n free
    rw [beq_iff_eq] at free ⊢
    cases before : plan.isBooked? n with
    | none =>
        have valid := isValid_of_isBooked? free
        simp [isBooked?_eq_none.mp before] at valid
    | some b =>
        cases b with
        | false => rfl
        | true =>
            have booked := more n (mem_bookedSeats.mpr before)
            exact absurd (mem_freeSeats.mpr free) (not_mem_freeSeats booked)
  have free := fewer.eq_of_length same
  apply eq_of_bookedSeats
  intro n
  constructor
  · intro booked
    rcases free_or_booked booked with was_free | before
    · rw [← free] at was_free
      exact absurd was_free (not_mem_freeSeats booked)
    · exact before
  · exact more n

namespace Text

/-- A text is cut in one way at the last occurrence of a character. -/
theorem cut_last {c : Char} {before before' after after' : Text} (h : c ∉ after) (h' : c ∉ after')
    (same : before ++ c :: after = before' ++ c :: after') : before = before' ∧ after = after' := by
  have outside {x y between : Text} (absent : c ∉ x) (longer : c :: x = between ++ c :: y) :
      between = [] := by
    cases between with
    | nil => rfl
    | cons d rest =>
        rw [List.cons_append, List.cons.injEq] at longer
        exact absurd (longer.2 ▸ List.mem_append_right rest (List.mem_cons_self ..)) absent
  rcases List.append_eq_append_iff.mp same with ⟨between, first, second⟩ | ⟨between, first, second⟩
  · have none := outside h second
    subst none
    rw [List.nil_append, List.cons.injEq] at second
    rw [first, List.append_nil]
    exact ⟨rfl, second.2⟩
  · have none := outside h' second
    subst none
    rw [List.nil_append, List.cons.injEq] at second
    rw [first, List.append_nil]
    exact ⟨rfl, second.2.symm⟩

theorem not_mem_join {c : Char} {separator : Text} {texts : List Text} (other : c ∉ separator)
    (each : ∀ text ∈ texts, c ∉ text) : c ∉ join separator texts := by
  rw [join]
  induction texts with
  | nil => simp
  | cons text rest ih =>
      cases rest with
      | nil => simpa using each text (List.mem_cons_self ..)
      | cons next rest =>
          rw [List.intercalate_cons_cons]
          have first := each text (List.mem_cons_self ..)
          have others := ih fun text member => each text (List.mem_cons_of_mem _ member)
          simp [first, other, others]

theorem not_mem_ofNat {c : Char} (other : ¬ c.isDigit) (n : Nat) : c ∉ ofNat n := by
  intro member
  exact other (Nat.isDigit_of_mem_toDigits (by omega) (by omega) member)

theorem ofNat_inj {m n : Nat} (same : ofNat m = ofNat n) : m = n := by
  have read := congrArg (Nat.ofDigitChars 10 · 0) same
  simpa only [ofNat, Nat.ofDigitChars_ten_toDigits] using read

end Text

namespace Snapshot

theorem colon_not_mem_seatList (free : List SeatNumber) : ':' ∉ seatList free := by
  unfold seatList
  split
  · decide
  · apply Text.not_mem_join (by decide)
    intro text member
    obtain ⟨n, -, rfl⟩ := List.mem_map.mp member
    exact Text.not_mem_ofNat (by decide) _

/-- Texts that end with a line of seats tell how many seats it lists. -/
theorem seatsLine_cut {before before' : Text} {s s' : Show}
    (same : before ++ seatsLine s = before' ++ seatsLine s') :
    before = before' ∧ s.seats.freeSeats.length = s'.seats.freeSeats.length := by
  -- two colons: one before the numbers, one before the list; neither part holds another
  have total : "/".toList ++ Text.ofNat seatCount ++ ")".toList = "/20)".toList := by decide
  have parts (t : Show) (lead : Text) : lead ++ seatsLine t =
      (lead ++ "    Available seats".toList ++ ':' :: (' ' :: seatList t.seats.freeSeats) ++
        " (Total".toList) ++ ':' ::
        (' ' :: (Text.ofNat t.seats.freeSeats.length ++ "/20)".toList)) := by
    rw [← total]
    have marks : seatsMark = "    Available seats".toList ++ [':'] := rfl
    have totals : totalMark = "(Total".toList ++ [':'] := rfl
    have blank : " ".toList = [' '] := rfl
    have opened : " (Total".toList = ' ' :: "(Total".toList := rfl
    rw [seatsLine, marks, totals, blank, opened]
    simp only [List.append_assoc, List.cons_append, List.nil_append]
  have numbers (k : Nat) : ':' ∉ (' ' :: (Text.ofNat k ++ "/20)".toList) : Text) := by
    have digits : ':' ∉ Text.ofNat k := Text.not_mem_ofNat (by decide) k
    simp [digits]
  have listed (t : Show) : ':' ∉ (' ' :: seatList t.seats.freeSeats : Text) := by
    simp [colon_not_mem_seatList]
  rw [parts, parts] at same
  obtain ⟨leads, counts⟩ := Text.cut_last (numbers _) (numbers _) same
  have leads := List.append_cancel_right leads
  obtain ⟨leads, -⟩ := Text.cut_last (listed s) (listed s') leads
  refine ⟨List.append_cancel_right leads, Text.ofNat_inj ?_⟩
  rw [List.cons.injEq] at counts
  exact List.append_cancel_right counts.2

/-- What can be read from the end of each piece can be read from the end of all of them. -/
theorem flatMap_cut {α : Type} {f g : α → Text} {told : α → Prop} {pieces : List α}
    (each : ∀ a ∈ pieces, ∀ before before' : Text, before ++ f a = before' ++ g a →
      before = before' ∧ told a) {before before' : Text}
    (same : before ++ pieces.flatMap f = before' ++ pieces.flatMap g) :
    before = before' ∧ ∀ a ∈ pieces, told a := by
  -- the last piece first: what stands before it is not known, and is compared next
  induction pieces using List.reverseRecOn with
  | nil =>
      rw [List.flatMap_nil, List.flatMap_nil, List.append_nil, List.append_nil] at same
      refine ⟨same, ?_⟩
      intro a member
      cases member
  | append_singleton rest last ih =>
      rw [List.flatMap_append, List.flatMap_append, List.flatMap_singleton, List.flatMap_singleton,
        ← List.append_assoc, ← List.append_assoc] at same
      obtain ⟨leads, ends⟩ :=
        each last (List.mem_append_right rest (List.mem_cons_self ..)) _ _ same
      have earlier : ∀ a ∈ rest, ∀ before before' : Text, before ++ f a = before' ++ g a →
          before = before' ∧ told a := by
        intro a member
        exact each a (List.mem_append_left [last] member)
      obtain ⟨leads, others⟩ := ih earlier leads
      refine ⟨leads, ?_⟩
      intro a member
      rw [List.mem_append, List.mem_singleton] at member
      rcases member with member | rfl
      · exact others a member
      · exact ends

theorem showLines_cut {before before' : Text} {s s' : Show} (movie : s'.movie = s.movie)
    (date : s'.date = s.date) (same : before ++ showLines s = before' ++ showLines s') :
    before = before' ∧ s.seats.freeSeats.length = s'.seats.freeSeats.length := by
  have names : movieLine s' = movieLine s := by rw [movieLine, movieLine, movie, date]
  simp only [showLines, names, ← List.append_assoc] at same
  have same := List.append_cancel_right same
  obtain ⟨leads, counts⟩ := seatsLine_cut same
  exact ⟨List.append_cancel_right (List.append_cancel_right leads), counts⟩

theorem names_of_pair {p q : Programme} (bills : q.bill = p.bill) {pair : Show × Show}
    (member : pair ∈ p.zip q) :
    pair.2.theater = pair.1.theater ∧ pair.2.movie = pair.1.movie ∧ pair.2.date = pair.1.date := by
  obtain ⟨i, there⟩ := List.mem_iff_getElem?.mp member
  obtain ⟨first, second⟩ := List.getElem?_zip_eq_some.mp there
  obtain ⟨s, found, names⟩ := Programme.show_of_bill bills first
  rw [second, Option.some.injEq] at found
  rw [found]
  exact names

theorem showsAt_pairs {p q : Programme} (bills : q.bill = p.bill) (theater : Text) :
    p.showsAt theater = ((p.zip q).filter (·.1.theater == theater)).map (·.1) ∧
      q.showsAt theater = ((p.zip q).filter (·.1.theater == theater)).map (·.2) := by
  have lengths := Programme.length_eq_of_bill bills
  have first : p = (p.zip q).map (·.1) := (List.map_fst_zip (by omega)).symm
  have second : q = (p.zip q).map (·.2) := (List.map_snd_zip (by omega)).symm
  constructor
  · conv => lhs; rw [Programme.showsAt, first, List.filter_map]
    rfl
  · conv => lhs; rw [Programme.showsAt, second, List.filter_map]
    congr 1
    apply List.filter_congr
    intro pair member
    simp only [Function.comp_apply, (names_of_pair bills member).1]

theorem theaterLines_cut {p q : Programme} (bills : q.bill = p.bill) {theater before before' : Text}
    (same : before ++ theaterLines p theater = before' ++ theaterLines q theater) :
    before = before' ∧ ∀ pair ∈ p.zip q, pair.1.theater = theater →
      pair.1.seats.freeSeats.length = pair.2.seats.freeSeats.length := by
  obtain ⟨first, second⟩ := showsAt_pairs bills theater
  simp only [theaterLines, first, second, List.flatMap_map, ← List.append_assoc] at same
  have same := List.append_cancel_right same
  have each : ∀ pair ∈ (p.zip q).filter (·.1.theater == theater), ∀ before before' : Text,
      before ++ showLines pair.1 = before' ++ showLines pair.2 →
        before = before' ∧ pair.1.seats.freeSeats.length = pair.2.seats.freeSeats.length := by
    intro pair member before before' same
    obtain ⟨-, movie, date⟩ := names_of_pair bills (List.mem_of_mem_filter member)
    exact showLines_cut movie date same
  obtain ⟨leads, counts⟩ := flatMap_cut each same
  refine ⟨List.append_cancel_right (List.append_cancel_right (List.append_cancel_right leads)), ?_⟩
  intro pair member here
  apply counts pair
  rw [List.mem_filter, beq_iff_eq]
  exact ⟨member, here⟩

/-- The footer tells what a snapshot is sent for. -/
theorem footer_cut {before before' : Text} {kind kind' : Kind}
    (same : before ++ kind.footer ++ ['\n'] = before' ++ kind'.footer ++ ['\n']) :
    kind = kind' ∧ before = before' := by
  have same := List.append_cancel_right same
  have apart {before before' : Text} (same : before ++ initialFooter = before' ++ updateFooter) :
      False := by
    have first : initialFooter = "=== END CINEMA".toList ++ " DATA ===".toList := rfl
    have second : updateFooter = "=== END UPDATED".toList ++ " DATA ===".toList := rfl
    rw [first, second, ← List.append_assoc, ← List.append_assoc] at same
    have last := congrArg List.getLast? (List.append_cancel_right same)
    rw [List.getLast?_append_of_ne_nil _ (by decide),
      List.getLast?_append_of_ne_nil _ (by decide)] at last
    revert last
    decide
  cases kind with
  | initial =>
      cases kind' with
      | initial => exact ⟨rfl, List.append_cancel_right same⟩
      | update => exact (apart same).elim
  | update =>
      cases kind' with
      | initial => exact (apart same.symm).elim
      | update => exact ⟨rfl, List.append_cancel_right same⟩

/-- A text that ends with the snapshots of two programmes of one bill tells that they have as many
    free seats. -/
theorem render_cut {p q : Programme} (bills : q.bill = p.bill) {before before' : Text}
    {kind kind' : Kind} (same : before ++ render kind p = before' ++ render kind' q) :
    ∀ pair ∈ p.zip q, pair.1.seats.freeSeats.length = pair.2.seats.freeSeats.length := by
  simp only [render, Programme.theaters_of_bill bills, ← List.append_assoc] at same
  obtain ⟨-, same⟩ := footer_cut same
  have each : ∀ theater ∈ p.theaters, ∀ before before' : Text,
      before ++ theaterLines p theater = before' ++ theaterLines q theater →
        before = before' ∧ ∀ pair ∈ p.zip q, pair.1.theater = theater →
          pair.1.seats.freeSeats.length = pair.2.seats.freeSeats.length := by
    intro theater _ before before' same
    exact theaterLines_cut bills same
  obtain ⟨-, counts⟩ := flatMap_cut each same
  intro pair member
  have here : pair.1 ∈ p := (List.of_mem_zip member).1
  exact counts pair.1.theater (Programme.mem_theaters.mpr ⟨pair.1, here, rfl⟩) pair member rfl

/-- Whether a text ends with the snapshot of a programme, of either kind. -/
def Shows (text : Text) (p : Programme) : Prop :=
  ∃ lead kind, text = lead ++ render kind p

theorem shows_of_suffix {text : Text} {kind : Kind} {p : Programme}
    (ends : render kind p <:+ text) : Shows text p := by
  obtain ⟨lead, same⟩ := ends
  exact ⟨lead, kind, same.symm⟩

/-- A text that shows a programme does not show any other that it grows to. -/
theorem Shows.eq_of_growsTo {text : Text} {p q : Programme} (first : Shows text p)
    (second : Shows text q) (grows : p.GrowsTo q) : q = p := by
  obtain ⟨before, kind, ends⟩ := first
  obtain ⟨before', kind', ends'⟩ := second
  have counts := render_cut grows.bill (ends.symm.trans ends')
  apply Programme.eq_of_bill grows.bill
  intro i s s' here there
  have member : (s, s') ∈ p.zip q := by
    rw [List.mem_iff_getElem?]
    exact ⟨i, List.getElem?_zip_eq_some.mpr ⟨here, there⟩⟩
  exact SeatPlan.eq_of_length_freeSeats (grows.keeps i s s' here there) (counts _ member).symm

end Snapshot

end BoxOffice

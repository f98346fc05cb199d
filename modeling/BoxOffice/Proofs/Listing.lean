import BoxOffice.Proofs.Foreword
import BoxOffice.Proofs.Notice
import BoxOffice.Proofs.Received

/-! # Programmes that can be read back

The shows of a legible programme are those that its snapshot tells of, in grouped order. Names and
dates never change under bookings, so neither does what can be said of them alone: whether the shows
are legible, and whether a mark stands in a name.
-/

namespace BoxOffice

/-! ## Legible shows -/

namespace Show

variable {s : Show}

theorem isWritable_iff : s.IsWritable ↔ '\n' ∉ s.theater ∧ '\n' ∉ s.movie ∧
    ¬ (" (" : Text) <:+: s.movie ∧ s.date ≠ [] ∧ '\n' ∉ s.date ∧ ')' ∉ s.date :=
  ⟨fun h => ⟨h.theater, h.movie, h.title, h.some_date, h.date, h.bracket⟩,
    fun ⟨theater, movie, title, some_date, date, bracket⟩ =>
      ⟨theater, movie, title, some_date, date, bracket⟩⟩

theorem isLegible_iff :
    s.IsLegible ↔ s.IsWritable ∧ s.theater ≠ [] ∧ s.theater.getLast? ≠ some '\r' :=
  ⟨fun h => ⟨h.toIsWritable, h.some_theater, h.no_return⟩,
    fun ⟨writable, some_theater, no_return⟩ => ⟨writable, some_theater, no_return⟩⟩

instance : Decidable s.IsWritable := decidable_of_iff' _ isWritable_iff

instance : Decidable s.IsLegible := decidable_of_iff' _ isLegible_iff

end Show

/-! ## What depends on the bill only -/

namespace Programme

variable {p q : Programme}

theorem legible_of_bill (bills : q.bill = p.bill) (legible : ∀ s ∈ p, s.IsLegible) :
    ∀ s ∈ q, s.IsLegible := by
  intro s member
  obtain ⟨i, here⟩ := List.mem_iff_getElem?.mp member
  obtain ⟨t, there, theater, movie, date⟩ := show_of_bill bills.symm here
  have h := legible t (List.mem_of_getElem? there)
  rwa [Show.isLegible_iff, Show.isWritable_iff, theater, movie, date, ← Show.isWritable_iff,
    ← Show.isLegible_iff] at h

theorem silent_of_bill {marks : List Text} (bills : q.bill = p.bill)
    (silent : ∀ mark ∈ marks, ¬ p.Mentions mark) : ∀ mark ∈ marks, ¬ q.Mentions mark := by
  intro mark looked ⟨s, member, mentions⟩
  obtain ⟨i, here⟩ := List.mem_iff_getElem?.mp member
  obtain ⟨t, there, theater, movie, date⟩ := show_of_bill bills.symm here
  refine silent mark looked ⟨t, List.mem_of_getElem? there, ?_⟩
  rwa [Show.Mentions, theater, movie, date]

end Programme

/-! ## Grouped programmes -/

namespace Programme

variable {p q : Programme}

theorem growsTo_of_pairs {pairs : List (Show × Show)}
    (names : ∀ pair ∈ pairs, pair.2.theater = pair.1.theater ∧ pair.2.movie = pair.1.movie ∧
      pair.2.date = pair.1.date)
    (keeps : ∀ pair ∈ pairs, ∀ n ∈ pair.1.seats.bookedSeats, n ∈ pair.2.seats.bookedSeats) :
    GrowsTo (pairs.map (·.1)) (pairs.map (·.2)) where
  bill := by
    simp only [bill, List.map_map]
    refine List.map_congr_left fun pair member => ?_
    obtain ⟨theater, movie, date⟩ := names pair member
    simp only [Function.comp_apply, theater, movie, date]
  keeps := by
    intro i s s' before after
    rw [List.getElem?_map, Option.map_eq_some_iff] at before after
    obtain ⟨pair, there, rfl⟩ := before
    obtain ⟨pair', there', rfl⟩ := after
    cases there.symm.trans there'
    exact keeps pair (List.mem_of_getElem? there)

theorem GrowsTo.grouped (h : p.GrowsTo q) : GrowsTo p.grouped q.grouped := by
  let pairs := p.theaters.flatMap fun theater => (p.zip q).filter (·.1.theater == theater)
  have first : p.grouped = pairs.map (·.1) := by
    rw [List.map_flatMap]
    exact congrArg p.theaters.flatMap
      (funext fun theater => (Snapshot.showsAt_pairs h.bill theater).1)
  have second : q.grouped = pairs.map (·.2) := by
    rw [Programme.grouped, theaters_of_bill h.bill, List.map_flatMap]
    exact congrArg p.theaters.flatMap
      (funext fun theater => (Snapshot.showsAt_pairs h.bill theater).2)
  have paired {pair : Show × Show} (member : pair ∈ pairs) : pair ∈ p.zip q := by
    obtain ⟨theater, -, member⟩ := List.mem_flatMap.mp member
    exact List.mem_of_mem_filter member
  rw [first, second]
  refine growsTo_of_pairs (fun pair member => Snapshot.names_of_pair h.bill (paired member)) ?_
  intro pair member
  obtain ⟨i, there⟩ := List.mem_iff_getElem?.mp (paired member)
  obtain ⟨before, after⟩ := List.getElem?_zip_eq_some.mp there
  exact h.keeps i pair.1 pair.2 before after

end Programme

/-! ## Legible programmes -/

namespace Snapshot

variable {p : Programme}

theorem parse_render_of_legible (legible : ∀ s ∈ p, s.IsLegible) (kind : Kind) :
    parse (render kind p) = p.grouped := by
  have writable (s : Show) (member : s ∈ p) : s.IsWritable ∧ s.theater ≠ [] :=
    ⟨(legible s member).toIsWritable, (legible s member).some_theater⟩
  exact (parse_render_eq_grouped_iff writable kind).mpr fun s member => (legible s member).no_return

end Snapshot

end BoxOffice

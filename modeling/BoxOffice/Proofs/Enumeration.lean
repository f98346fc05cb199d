import BoxOffice.Proofs.Grouping
import BoxOffice.Snapshot.Rendering

/-! # The order of announcement, position by position

Shows may be equal, so that each is announced once is said of their positions: the order of
announcement takes every position once, those of one theater next to each other and in programme
order (`enumerates_positions`). A snapshot renders the shows at just these positions, and a search
in the order of announcement stops at the position at which a search in programme order does
(`find?_positions`).
-/

namespace BoxOffice

namespace Programme

variable {p : Programme} {theater movie : Text} {i j : Nat}

/-- A position is announced before another: its theater is first seen earlier, or it is the earlier
    one of a theater. -/
def Precedes (p : Programme) (i j : Nat) : Prop :=
  ∃ s t, p[i]? = some s ∧ p[j]? = some t ∧
    (p.firstSeen s.theater < p.firstSeen t.theater ∨ s.theater = t.theater ∧ i < j)

/-- Positions in an order of announcement: each position of the programme once, by the first show of
    its theater, with the positions of each theater next to each other and ascending. -/
structure Enumerates (p : Programme) (order : List Nat) : Prop where
  perm : order.Perm (List.range p.length)
  shows : order.map (p[·]?) = (p.theaters.flatMap p.showsAt).map some
  ordered : order.Pairwise p.Precedes
  together : ∀ theater, ∃ before own after, order = before ++ own ++ after ∧ own.Pairwise (· < ·) ∧
    own.map (p[·]?) = (p.showsAt theater).map some ∧ ∀ i, i ∈ own ↔ ∃ s, p[i]? = some s ∧
      s.theater = theater

/-! ## The positions of one theater -/

theorem mem_positionsAt :
    i ∈ p.positionsAt theater ↔ ∃ s, p[i]? = some s ∧ s.theater = theater := by
  rw [positionsAt, List.mem_filter, List.mem_range, Option.any_eq_true, and_iff_right_of_imp]
  · simp only [beq_iff_eq]
  · rintro ⟨s, here, -⟩
    exact (List.getElem?_eq_some_iff.mp here).1

theorem positionsAt_pairwise (p : Programme) (theater : Text) :
    (p.positionsAt theater).Pairwise (· < ·) :=
  List.pairwise_lt_range.filter _

theorem map_getElem?_range (p : Programme) : (List.range p.length).map (p[·]?) = p.map some := by
  apply List.ext_getElem
  · simp only [List.length_map, List.length_range]
  · intro i _ inside
    rw [List.length_map] at inside
    rw [List.getElem_map, List.getElem_map, List.getElem_range, List.getElem?_eq_getElem inside]

theorem map_positionsAt (p : Programme) (theater : Text) :
    (p.positionsAt theater).map (p[·]?) = (p.showsAt theater).map some := by
  have by_theater :=
    congrArg (List.filter (Option.any fun s : Show => s.theater == theater)) p.map_getElem?_range
  rwa [List.filter_map, List.filter_map] at by_theater

/-! ## All positions -/

theorem positions_pairwise (p : Programme) : p.positions.Pairwise p.Precedes := by
  rw [positions, List.pairwise_flatMap]
  constructor
  · intro theater _
    refine (p.positionsAt_pairwise theater).imp_of_mem fun {i j} here there less => ?_
    obtain ⟨s, at_i, rfl⟩ := mem_positionsAt.mp here
    obtain ⟨t, at_j, same⟩ := mem_positionsAt.mp there
    exact ⟨s, t, at_i, at_j, .inr ⟨same.symm, less⟩⟩
  · refine p.theaters_pairwise.imp fun {a b} less i here j there => ?_
    obtain ⟨s, at_i, rfl⟩ := mem_positionsAt.mp here
    obtain ⟨t, at_j, rfl⟩ := mem_positionsAt.mp there
    exact ⟨s, t, at_i, at_j, .inl less⟩

theorem Precedes.ne (h : p.Precedes i j) : i ≠ j := by
  rintro rfl
  obtain ⟨s, t, here, there, order⟩ := h
  rw [here] at there
  cases there
  omega

theorem positions_perm (p : Programme) : p.positions.Perm (List.range p.length) := by
  have once : p.positions.Nodup := p.positions_pairwise.imp Precedes.ne
  refine (List.perm_ext_iff_of_nodup once List.nodup_range).mpr fun i => ?_
  rw [mem_positions, List.mem_range]

theorem map_positions (p : Programme) : p.positions.map (p[·]?) = p.grouped.map some := by
  rw [positions, grouped, List.map_flatMap, List.map_flatMap]
  exact List.flatMap_congr fun theater _ => p.map_positionsAt theater

/-- The positions of a theater stand next to each other, and there are none elsewhere. -/
theorem positions_split (p : Programme) (theater : Text) :
    ∃ before after, p.positions = before ++ p.positionsAt theater ++ after ∧
      ∀ i ∈ before ++ after, i ∉ p.positionsAt theater := by
  by_cases known : theater ∈ p.theaters
  · -- the theater is listed once, and the positions before and after its own are those
    -- of other theaters
    obtain ⟨earlier, later, split⟩ := List.append_of_mem known
    have once := p.theaters_nodup
    rw [split, List.nodup_middle, List.nodup_cons] at once
    refine ⟨earlier.flatMap p.positionsAt, later.flatMap p.positionsAt, ?_, ?_⟩
    · rw [positions, split, List.flatMap_append, List.flatMap_cons, List.append_assoc]
    · intro i elsewhere here
      rw [← List.flatMap_append, List.mem_flatMap] at elsewhere
      obtain ⟨other, listed, there⟩ := elsewhere
      obtain ⟨s, at_i, rfl⟩ := mem_positionsAt.mp here
      obtain ⟨t, at_i', rfl⟩ := mem_positionsAt.mp there
      rw [at_i] at at_i'
      cases at_i'
      exact once.1 listed
  · have nowhere : ∀ i, i ∉ p.positionsAt theater := by
      intro i here
      obtain ⟨s, at_i, rfl⟩ := mem_positionsAt.mp here
      exact known (mem_theaters.mpr ⟨s, List.mem_of_getElem? at_i, rfl⟩)
    refine ⟨p.positions, [], ?_, fun i _ => nowhere i⟩
    rw [List.eq_nil_iff_forall_not_mem.mpr nowhere, List.append_nil, List.append_nil]

theorem enumerates_positions (p : Programme) : p.Enumerates p.positions where
  perm := p.positions_perm
  shows := p.map_positions
  ordered := p.positions_pairwise
  together theater := by
    obtain ⟨before, after, split, -⟩ := p.positions_split theater
    exact ⟨before, _, after, split, p.positionsAt_pairwise theater, p.map_positionsAt theater,
      fun i => mem_positionsAt⟩

example : Programme.positions [⟨"PVR", "Tenet", "19:30", .free⟩, ⟨"IMAX", "Tenet", "19:30", .free⟩,
    ⟨"PVR", "Tenet", "19:30", .free⟩, ⟨"IMAX", "Dune", "19:30", .full⟩] = [0, 2, 1, 3] := by
  decide

/-! ## Searching -/

def isCalledAt (p : Programme) (theater movie : Text) (i : Nat) : Bool :=
  p[i]?.any (·.isCalled theater movie)

theorem isCalledAt_iff :
    p.isCalledAt theater movie i ↔ ∃ s, p[i]? = some s ∧ s.theater = theater ∧ s.movie = movie := by
  rw [isCalledAt, Option.any_eq_true]
  simp only [isCalled_iff]

theorem position?_eq_find? (p : Programme) (theater movie : Text) :
    p.position? theater movie = (List.range p.length).find? (p.isCalledAt theater movie) := by
  apply Option.ext
  intro i
  rw [position?_eq_some, List.find?_range_eq_some, isCalledAt_iff]
  constructor
  · rintro ⟨⟨s, here, names⟩, first⟩
    refine ⟨⟨s, here, names⟩, List.mem_range.mpr (List.getElem?_eq_some_iff.mp here).1,
      fun j less => ?_⟩
    rw [Bool.not_eq_true', Bool.eq_false_iff, ne_eq, isCalledAt_iff]
    rintro ⟨t, there, names⟩
    exact first j less t there names
  · rintro ⟨called, -, first⟩
    refine ⟨called, fun j less t there names => ?_⟩
    have other := first j less
    rw [isCalledAt_iff.mpr ⟨t, there, names⟩] at other
    cases other

/-- The first position of these names in the order of announcement is the first one in
    programme order. -/
theorem find?_positions (p : Programme) (theater movie : Text) :
    p.positions.find? (p.isCalledAt theater movie) = p.position? theater movie := by
  obtain ⟨before, after, split, elsewhere⟩ := p.positions_split theater
  have own {i : Nat} (called : p.isCalledAt theater movie i) : i ∈ p.positionsAt theater := by
    obtain ⟨s, here, house, -⟩ := isCalledAt_iff.mp called
    exact mem_positionsAt.mpr ⟨s, here, house⟩
  have silent {part : List Nat} (outside : ∀ i ∈ part, i ∉ p.positionsAt theater) :
      part.find? (p.isCalledAt theater movie) = none :=
    List.find?_eq_none.mpr fun i here called => outside i here (own called)
  -- so the search passes over everything but the positions of the theater, and those are
  -- in programme order
  rw [List.forall_mem_append] at elsewhere
  rw [split, List.find?_append, List.find?_append, silent elsewhere.1, silent elsewhere.2,
    Option.none_or, Option.or_none, position?_eq_find?, positionsAt, List.find?_filter]
  congr 1
  funext i
  rw [Bool.eq_iff_iff, decide_eq_true_iff, and_iff_right_of_imp]
  intro called
  exact (List.mem_filter.mp (own called)).2

theorem find_grouped (p : Programme) (theater movie : Text) :
    find p.grouped theater movie = p.find theater movie := by
  have located {order : List Nat} {shows : List Show} (same : order.map (p[·]?) = shows.map some) :
      (find shows theater movie).map some = (order.find? (p.isCalledAt theater movie)).map
      (p[·]?) := by
    have found := congrArg (List.find? (Option.any (·.isCalled theater movie))) same
    rw [List.find?_map, List.find?_map] at found
    exact found.symm
  apply Option.map_injective (Option.some_injective Show)
  rw [located p.map_positions, located p.map_getElem?_range, find?_positions, position?_eq_find?]

end Programme

/-! ## Rendering -/

namespace Snapshot

/-- A piece of the shows in a snapshot. -/
inductive Piece where
  /-- The line of a theater. -/
  | heading (theater : Text)
  /-- Both lines of the show at a position. -/
  | entry (position : Nat)
  /-- The empty line after the shows of a theater. -/
  | gap
  deriving Repr, DecidableEq

/-- The position of the show that a piece renders. -/
def Piece.position? : Piece → Option Nat
  | .entry i => some i
  | .heading _ | .gap => none

def Piece.text (p : Programme) : Piece → Text
  | .heading theater => theaterMark ++ theater ++ ['\n']
  | .entry i => p[i]?.elim [] showLines
  | .gap => ['\n']

/-- The pieces of the shows of a theater. -/
def piecesAt (p : Programme) (theater : Text) : List Piece :=
  .heading theater :: (p.positionsAt theater).map .entry ++ [.gap]

/-- The pieces between the header and the footer of a snapshot. -/
def pieces (p : Programme) : List Piece := p.theaters.flatMap (piecesAt p)

theorem theaterLines_eq (p : Programme) (theater : Text) :
    theaterLines p theater = (piecesAt p theater).flatMap (Piece.text p) := by
  have entries : (p.showsAt theater).flatMap showLines =
      ((p.positionsAt theater).map .entry).flatMap (Piece.text p) := by
    have lines :=
      congrArg (List.flatMap fun s : Option Show => s.elim [] showLines) (p.map_positionsAt theater)
    rw [List.flatMap_map, List.flatMap_map] at lines
    rw [List.flatMap_map]
    exact lines.symm
  rw [theaterLines, entries, piecesAt, List.flatMap_append, List.flatMap_cons]
  simp [Piece.text]

theorem render_eq_pieces (kind : Kind) (p : Programme) :
    render kind p = kind.header ++ ['\n'] ++ (pieces p).flatMap (Piece.text p) ++ kind.footer ++
      ['\n'] := by
  rw [render, pieces, List.flatMap_assoc]
  congr 4
  funext theater
  exact theaterLines_eq p theater

/-- The shows are rendered at each position once, in the order of announcement. -/
theorem positions_pieces (p : Programme) : (pieces p).filterMap Piece.position? = p.positions := by
  rw [pieces, Programme.positions, List.filterMap_flatMap]
  refine List.flatMap_congr fun theater _ => ?_
  have entries :
      (p.positionsAt theater).filterMap (Piece.position? ∘ .entry) = p.positionsAt theater :=
    List.filterMap_some
  rw [piecesAt, List.filterMap_append, List.filterMap_cons_none rfl, List.filterMap_map, entries]
  exact List.append_nil _

end Snapshot

/-- The theaters are listed once each, by the position of their first show. The shows of one
    theater after another are the shows at all positions, each once, those of a theater next to
    each other and in programme order. A snapshot renders the shows at these positions in this
    order and no others. Two names mean the same show in this order as in programme order, the
    first one so called. -/
theorem Programme.enumerated (p : Programme) :
    (p.theaters.Nodup ∧ (∀ theater, theater ∈ p.theaters ↔ ∃ s ∈ p, s.theater = theater) ∧
      p.theaters.Pairwise fun a b => p.firstSeen a < p.firstSeen b) ∧
    p.Enumerates p.positions ∧
    (∀ kind, Snapshot.render kind p = kind.header ++ ['\n'] ++
        (Snapshot.pieces p).flatMap (Snapshot.Piece.text p) ++ kind.footer ++ ['\n']) ∧
    (Snapshot.pieces p).filterMap Snapshot.Piece.position? = p.positions ∧
    ∀ theater movie, p.positions.find? (p.isCalledAt theater movie) = p.position? theater movie ∧
      (List.range p.length).find? (p.isCalledAt theater movie) = p.position? theater movie ∧
      find p.grouped theater movie = p.find theater movie ∧
      p.find theater movie = (p.position? theater movie).bind (p[·]?) := by
  refine ⟨⟨p.theaters_nodup, fun theater => mem_theaters, p.theaters_pairwise⟩,
    p.enumerates_positions, fun kind => Snapshot.render_eq_pieces kind p,
    Snapshot.positions_pieces p, fun theater movie => ?_⟩
  refine ⟨p.find?_positions theater movie, ?_, p.find_grouped theater movie,
    p.find_eq theater movie⟩
  rw [position?_eq_find?]

end BoxOffice

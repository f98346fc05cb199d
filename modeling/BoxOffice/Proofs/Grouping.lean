import BoxOffice.Proofs.Programme
import Mathlib.Data.List.Induction
import Mathlib.Data.List.Perm.Basic

/-! # Shows in groups

The order of announcement is got theater by theater. Here it is said what such an order is, without
saying how it is got: the same shows, the theaters by the position of their first show, the shows of
each theater in their own order. There is one such order and no other (`isGrouping_iff`).
-/

namespace BoxOffice.Programme

variable {p q : Programme} {theater other : Text} {s t : Show}

/-- The position of the first show of a theater. -/
def firstSeen (p : Programme) (theater : Text) : Nat := p.findIdx fun s => s.theater == theater

/-- A programme with the shows of another, theater by theater as each is first seen there, and those
    of one theater in the order they have there. -/
structure IsGrouping (p q : Programme) : Prop where
  perm : q.Perm p
  ordered : q.Pairwise fun s t => p.firstSeen s.theater ≤ p.firstSeen t.theater
  stable : ∀ theater, q.showsAt theater = p.showsAt theater

/-! ## First shows -/

theorem firstSeen_lt (member : s ∈ p) : p.firstSeen s.theater < p.length :=
  List.findIdx_lt_length_of_exists ⟨s, member, beq_self_eq_true _⟩

theorem theater_of_firstSeen (inside : p.firstSeen theater < p.length) :
    p[p.firstSeen theater].theater = theater :=
  beq_iff_eq.mp (List.findIdx_getElem (w := inside))

theorem firstSeen_inj (here : s ∈ p) (there : t ∈ p)
    (same : p.firstSeen s.theater = p.firstSeen t.theater) :
    s.theater = t.theater := by
  have first := theater_of_firstSeen (firstSeen_lt here)
  have second := theater_of_firstSeen (firstSeen_lt there)
  simp only [same] at first
  exact first.symm.trans second

theorem theaters_concat (p : Programme) (s : Show) : theaters (p ++ [s]) =
    if s.theater ∈ p.theaters then p.theaters else p.theaters ++ [s.theater] := by
  rw [theaters, List.foldl_concat, ← theaters]
  simp only [List.contains_iff_mem]

theorem firstSeen_concat (known : theater ∈ p.theaters) (s : Show) :
    firstSeen (p ++ [s]) theater = p.firstSeen theater := by
  obtain ⟨t, member, rfl⟩ := mem_theaters.mp known
  have inside := firstSeen_lt member
  rw [firstSeen] at inside ⊢
  rw [List.findIdx_append, if_pos inside, firstSeen]

theorem length_le_firstSeen (unknown : theater ∉ p.theaters) (s : Show) :
    p.length ≤ firstSeen (p ++ [s]) theater := by
  rw [firstSeen, List.findIdx_append, if_neg]
  · exact Nat.le_add_left ..
  · intro inside
    exact unknown (mem_theaters.mpr ⟨_, List.getElem_mem inside, theater_of_firstSeen inside⟩)

theorem theaters_pairwise (p : Programme) :
    p.theaters.Pairwise fun a b => p.firstSeen a < p.firstSeen b := by
  induction p using List.reverseRecOn with
  | nil => exact .nil
  | append_singleton p s ih =>
      have earlier :
          (theaters p).Pairwise fun a b => firstSeen (p ++ [s]) a < firstSeen (p ++ [s]) b := by
        refine ih.imp_of_mem fun {a b} here there less => ?_
        rwa [firstSeen_concat here, firstSeen_concat there]
      rw [theaters_concat]
      split
      · exact earlier
      · rename_i unknown
        rw [List.pairwise_append]
        refine ⟨earlier, List.pairwise_singleton .., ?_⟩
        intro a here b there
        rw [List.mem_singleton.mp there, firstSeen_concat here]
        obtain ⟨t, member, rfl⟩ := mem_theaters.mp here
        exact (firstSeen_lt member).trans_le (length_le_firstSeen unknown s)

theorem theaters_nodup (p : Programme) : p.theaters.Nodup :=
  p.theaters_pairwise.imp fun less same => by
    rw [same] at less
    exact Nat.lt_irrefl _ less

/-! ## The grouped order -/

theorem showsAt_cons_of_eq (own : s.theater = theater) (l : List Show) :
    showsAt (s :: l) theater = s :: showsAt l theater :=
      List.filter_cons_of_pos (beq_iff_eq.mpr own)

theorem showsAt_cons_of_ne (apart : s.theater ≠ theater) (l : List Show) :
    showsAt (s :: l) theater = showsAt l theater :=
      List.filter_cons_of_neg (beq_iff_eq.not.mpr apart)

theorem showsAt_of_unknown (unknown : theater ∉ p.theaters) : p.showsAt theater = [] := by
  rw [showsAt, List.filter_eq_nil_iff]
  intro s member here
  exact unknown (mem_theaters.mpr ⟨s, member, beq_iff_eq.mp here⟩)

theorem showsAt_showsAt (p : Programme) (theater : Text) :
    showsAt (p.showsAt theater) theater = p.showsAt theater := by
  simp only [showsAt, List.filter_filter, Bool.and_self]

theorem showsAt_showsAt_of_ne (apart : other ≠ theater) :
    showsAt (p.showsAt other) theater = [] := by
  rw [showsAt, List.filter_eq_nil_iff]
  intro s member here
  exact apart ((theater_of_mem_showsAt member).symm.trans (beq_iff_eq.mp here))

theorem flatMap_eq_of_single {α β : Type} {f : α → List β} {l : List α} {a : α} (once : l.Nodup)
    (member : a ∈ l) (others : ∀ b ≠ a, f b = []) : l.flatMap f = f a := by
  obtain ⟨before, after, rfl⟩ := List.append_of_mem member
  rw [List.nodup_middle, List.nodup_cons, List.mem_append, not_or] at once
  have silent {part : List α} (apart : a ∉ part) : part.flatMap f = [] := by
    rw [List.flatMap_eq_nil_iff]
    intro b there
    exact others b fun same => apart (same ▸ there)
  rw [List.flatMap_append, List.flatMap_cons, silent once.1.1, silent once.1.2, List.nil_append,
    List.append_nil]

theorem showsAt_grouped (p : Programme) (theater : Text) :
    showsAt p.grouped theater = p.showsAt theater := by
  have pieces : showsAt p.grouped theater = p.theaters.flatMap fun other =>
      showsAt (p.showsAt other) theater :=
    List.filter_flatMap ..
  rw [pieces]
  by_cases known : theater ∈ p.theaters
  · rw [flatMap_eq_of_single p.theaters_nodup known fun other => showsAt_showsAt_of_ne,
      showsAt_showsAt]
  · rw [showsAt_of_unknown known, List.flatMap_eq_nil_iff]
    intro other here
    exact showsAt_showsAt_of_ne fun same => known (same ▸ here)

theorem grouped_pairwise (p : Programme) :
    p.grouped.Pairwise fun s t => p.firstSeen s.theater ≤ p.firstSeen t.theater := by
  rw [grouped, List.pairwise_flatMap]
  constructor
  · intro theater _
    refine List.pairwise_of_forall_mem_list fun s here t there => ?_
    rw [theater_of_mem_showsAt here, theater_of_mem_showsAt there]
  · refine p.theaters_pairwise.imp fun {a b} less s here t there => ?_
    rw [theater_of_mem_showsAt here, theater_of_mem_showsAt there]
    exact less.le

theorem perm_of_showsAt (same : ∀ theater, q.showsAt theater = p.showsAt theater) : q.Perm p := by
  rw [List.perm_iff_count]
  intro s
  have among (l : List Show) : (showsAt l s.theater).count s = l.count s :=
    List.count_filter (beq_self_eq_true _)
  rw [← among q, same, among p]

theorem isGrouping_grouped (p : Programme) : p.IsGrouping p.grouped where
  perm := perm_of_showsAt p.showsAt_grouped
  ordered := p.grouped_pairwise
  stable := p.showsAt_grouped

/-! ## The only such order -/

section Ordered

variable {rank : Text → Nat} {l l' : List Show}

theorem rank_le_of_mem (ordered : (s :: l).Pairwise fun s t => rank s.theater ≤ rank t.theater)
    (member : t ∈ s :: l) :
    rank s.theater ≤ rank t.theater := by
  rcases List.mem_cons.mp member with rfl | later
  · exact Nat.le_refl _
  · exact List.rel_of_pairwise_cons ordered later

theorem head_eq_of_showsAt (house : s.theater = t.theater)
    (same : showsAt (s :: l) s.theater = showsAt (t :: l') s.theater) : s = t := by
  rw [showsAt_cons_of_eq rfl, showsAt_cons_of_eq house.symm] at same
  exact (List.cons.inj same).1

theorem showsAt_tail (same : showsAt (s :: l) theater = showsAt (s :: l') theater) :
    showsAt l theater = showsAt l' theater := by
  by_cases own : s.theater = theater
  · rw [showsAt_cons_of_eq own, showsAt_cons_of_eq own] at same
    exact (List.cons.inj same).2
  · rwa [showsAt_cons_of_ne own, showsAt_cons_of_ne own] at same

/-- Lists that are ordered by a rank of theaters, no two theaters having one rank, are known by the
    shows of each theater. -/
theorem eq_of_ordered
    (apart : ∀ s ∈ l, ∀ t ∈ l, rank s.theater = rank t.theater → s.theater = t.theater)
    (first : l.Pairwise fun s t => rank s.theater ≤ rank t.theater)
    (second : l'.Pairwise fun s t => rank s.theater ≤ rank t.theater)
    (same : ∀ theater, showsAt l theater = showsAt l' theater) : l = l' := by
  have perm : l.Perm l' := perm_of_showsAt same
  induction l generalizing l' with
  | nil => exact perm.nil_eq
  | cons s l ih =>
      cases l' with
      | nil => exact absurd perm.eq_nil (List.cons_ne_nil s l)
      | cons t l' =>
          have t_here : t ∈ s :: l := perm.mem_iff.mpr List.mem_cons_self
          have s_there : s ∈ t :: l' := perm.mem_iff.mp List.mem_cons_self
          -- neither head comes after the other, so they are of one theater, and each
          -- is the first of it
          have house : s.theater = t.theater := apart s List.mem_cons_self t t_here
            (Nat.le_antisymm (rank_le_of_mem first t_here) (rank_le_of_mem second s_there))
          have heads : s = t := head_eq_of_showsAt house (same s.theater)
          subst heads
          have inner : ∀ u ∈ l, ∀ v ∈ l, rank u.theater = rank v.theater → u.theater = v.theater :=
            fun u hu v hv => apart u (List.mem_cons_of_mem s hu) v (List.mem_cons_of_mem s hv)
          rw [ih inner first.of_cons second.of_cons
            (fun theater => showsAt_tail (same theater)) perm.cons_inv]

end Ordered

/-- A programme has one grouped order and no other. -/
theorem isGrouping_iff : p.IsGrouping q ↔ q = p.grouped := by
  constructor
  · intro h
    refine eq_of_ordered ?_ h.ordered p.grouped_pairwise fun theater => ?_
    · intro s here t there
      exact firstSeen_inj (h.perm.mem_iff.mp here) (h.perm.mem_iff.mp there)
    · rw [h.stable, showsAt_grouped]
  · rintro rfl
    exact p.isGrouping_grouped

end BoxOffice.Programme

import BoxOffice.Proofs.Request
import BoxOffice.Text.Line
import Mathlib.Data.List.Infix

/-! # Cutting texts into lines and words

A text that was put together from pieces is cut into the same pieces again, as long as no piece
holds what the cut looks for. Cutting finds the first occurrence of its mark and no other
(`cut?_eq_some`).
-/

namespace BoxOffice.Text

theorem after?_append (lead rest : Text) : after? lead (lead ++ rest) = some rest := by
  simp [after?]

theorem after?_eq_some {lead text rest : Text} (h : after? lead text = some rest) :
    text = lead ++ rest := by
  unfold after? at h
  split at h
  · rename_i begins
    obtain ⟨tail, rfl⟩ := List.isPrefixOf_iff_prefix.mp begins
    simpa using h
  · cases h

/-! ## Cutting at a mark -/

/-- A mark that stands first also stands in the text without the end of the mark that was put
    later. -/
theorem prefix_append_iff {mark before after : Text} (some_before : before ≠ []) :
    mark <+: before ++ mark ++ after ↔ mark <+: before ++ mark.dropLast := by
  have ends : before ++ mark.dropLast <+: before ++ mark ++ after := by
    rw [List.append_assoc, List.prefix_append_right_inj]
    exact (List.dropLast_prefix mark).trans (List.prefix_append ..)
  constructor
  · intro begins
    refine List.prefix_of_prefix_length_le begins ends ?_
    have := List.length_pos_iff.mpr some_before
    simp only [List.length_append, List.length_dropLast]
    omega
  · intro begins
    exact begins.trans ends

/-- The part before the cut holds no occurrence of the mark, not even one that runs into the
    mark. -/
theorem cut?_eq_some {mark text before after : Text} (filled : mark ≠ []) :
    cut? mark text = some (before, after) ↔
      text = before ++ mark ++ after ∧ ¬ mark <:+: before ++ mark.dropLast := by
  induction text generalizing before with
  | nil => simp [cut?, filled]
  | cons c rest ih =>
      simp only [cut?, List.isPrefixOf_iff_prefix]
      cases before with
      | nil =>
          have short : ¬ mark <:+: mark.dropLast := fun inside => by
            have := List.length_pos_iff.mpr filled
            have := inside.length_le
            rw [List.length_dropLast] at this
            omega
          by_cases begins : mark <+: c :: rest
          · obtain ⟨tail, whole⟩ := begins
            simp [← whole, short]
          · have apart : c :: rest ≠ mark ++ after :=
              fun same => begins (same ▸ List.prefix_append ..)
            simp [begins, apart]
      | cons d before =>
          have begins_iff (same : c :: rest = d :: before ++ mark ++ after) :
              mark <+: c :: rest ↔ mark <+: d :: (before ++ mark.dropLast) := by
            rw [same, prefix_append_iff (List.cons_ne_nil d before), List.cons_append]
          by_cases begins : mark <+: c :: rest
          · have elsewhere (same : c :: rest = d :: before ++ mark ++ after) :
                mark <:+: d :: before ++ mark.dropLast := ((begins_iff same).mp begins).isInfix
            simpa [begins] using elsewhere
          · have later : (cut? mark rest).map (fun parts => (c :: parts.1, parts.2)) =
                some (d :: before, after) ↔ c = d ∧ cut? mark rest = some (before, after) := by
              cases cut? mark rest with
              | none => simp
              | some parts => simp [Prod.ext_iff, and_assoc]
            rw [if_neg begins]
            refine later.trans ?_
            rw [ih, show d :: before ++ mark.dropLast = d :: (before ++ mark.dropLast) from rfl,
              List.infix_cons_iff, not_or]
            constructor
            · rintro ⟨rfl, rfl, none⟩
              exact ⟨rfl, (begins_iff rfl).not.mp begins, none⟩
            · rintro ⟨same, -, none⟩
              simp only [List.cons_append, List.cons.injEq] at same
              exact ⟨same.1, same.2, none⟩

/-- A mark is found where it was put if what stands before it does not hold its first character. -/
theorem cut?_append {c : Char} {before : Text} (plain : c ∉ before) (mark after : Text) :
    cut? (c :: mark) (before ++ c :: mark ++ after) = some (before, after) := by
  induction before with
  | nil => simp [cut?]
  | cons d before ih =>
      rw [List.mem_cons, not_or] at plain
      rw [List.cons_append, List.cons_append, cut?, if_neg (by simp [plain.1]), ih plain.2]
      rfl

theorem has_append {mark : Text} (filled : mark ≠ []) (after : Text) :
    has (mark ++ after) mark := by
  obtain ⟨c, mark, rfl⟩ := List.exists_cons_of_ne_nil filled
  simp [has, cut?]

/-! ## Lines -/

theorem linesOfPieces_append (ended : List Text) {pieces : List Text} (some_piece : pieces ≠ []) :
    linesOfPieces (ended ++ pieces) = ended.map dropReturn ++ linesOfPieces pieces := by
  induction ended with
  | nil => rfl
  | cons piece ended ih =>
      obtain ⟨next, rest, later⟩ :=
        List.exists_cons_of_ne_nil (List.append_ne_nil_of_right_ne_nil ended some_piece)
      rw [later] at ih
      rw [List.cons_append, later, linesOfPieces, ih, List.map_cons, List.cons_append]

theorem lines_append (first rest : Text) :
    lines (first ++ '\n' :: rest) = (first.splitOn '\n').map dropReturn ++ lines rest := by
  rw [lines, List.splitOn_append_cons_self, linesOfPieces_append _ (List.splitOn_ne_nil '\n' rest),
    lines]

theorem lines_append_of_not_mem {line : Text} (plain : '\n' ∉ line) (rest : Text) :
    lines (line ++ '\n' :: rest) = dropReturn line :: lines rest := by
  rw [lines_append, List.splitOn_eq_singleton plain]
  rfl

theorem dropReturn_of_getLast? {line : Text} (other : line.getLast? ≠ some '\r') :
    dropReturn line = line := if_neg other

theorem dropReturn_eq_self {line : Text} : dropReturn line = line ↔ line.getLast? ≠ some '\r' := by
  constructor
  · intro same ends
    rw [dropReturn, if_pos ends] at same
    have shorter := congrArg List.length same
    have filled := List.length_pos_iff.mpr (List.ne_nil_of_mem (List.mem_of_getLast? ends))
    rw [List.length_dropLast] at shorter
    omega
  · exact dropReturn_of_getLast?

theorem dropReturn_concat (line : Text) : dropReturn (line ++ ['\r']) = line := by
  rw [dropReturn, List.getLast?_concat, if_pos rfl, List.dropLast_concat]

theorem dropReturn_append {lead line : Text} (other : lead.getLast? ≠ some '\r') :
    dropReturn (lead ++ line) = lead ++ dropReturn line := by
  cases line with
  | nil => simp [dropReturn, other]
  | cons c line =>
      unfold dropReturn
      rw [List.getLast?_append_of_ne_nil _ (List.cons_ne_nil c line),
        List.dropLast_append_of_ne_nil (List.cons_ne_nil c line)]
      split <;> rfl

theorem dropReturn_subset (line : Text) : dropReturn line ⊆ line := by
  unfold dropReturn
  split
  · exact List.dropLast_subset line
  · exact List.Subset.refl line

theorem not_mem_of_mem_lines {text line : Text} (h : line ∈ lines text) : '\n' ∉ line := by
  have ofPieces (pieces : List Text) (plain : ∀ piece ∈ pieces, '\n' ∉ piece)
      (member : line ∈ linesOfPieces pieces) : '\n' ∉ line := by
    fun_induction linesOfPieces pieces with
    | case1 => simp at member
    | case2 => simp at member
    | case3 last filled =>
        rw [List.mem_singleton] at member
        exact plain line (member ▸ List.mem_singleton_self last)
    | case4 piece next rest ih =>
        rcases List.mem_cons.mp member with rfl | later
        · exact fun inside => plain piece (List.mem_cons_self ..) (dropReturn_subset piece inside)
        · exact ih (fun piece there => plain piece (List.mem_cons_of_mem _ there)) later
  exact ofPieces _ (fun piece => not_mem_of_mem_splitOn) h

/-! ## Words -/

theorem words_append {c : Char} (blank : isBlank c) (first rest : Text) :
    words (first ++ c :: rest) = words first ++ words rest := by
  rw [words, List.splitOnP_append_cons _ _ blank, List.filter_append, words, words]

theorem words_of_no_blank {word : Text} (filled : word ≠ [])
    (plain : ∀ c ∈ word, isBlank c = false) :
    words word = [word] := by
  simp [words, List.splitOnP_eq_singleton plain, filled]

end BoxOffice.Text

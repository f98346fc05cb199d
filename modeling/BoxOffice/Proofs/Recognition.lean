import BoxOffice.Proofs.Mark

/-! # What frames are taken for

Frames are sorted by the marks they hold, looked for in a fixed order, and whether a frame carries a
snapshot is asked apart from that. The two never disagree: a frame that is taken for a snapshot
carries one, and a frame that is taken for nothing carries none (`Notice.sorts`). A rendered
snapshot is taken for what it is unless a name or a date holds a mark (`Snapshot.recognised_iff`).
-/

namespace BoxOffice

/-- Whether a frame holds a mark of the answer to a booking. -/
def answersBooking (frame : Text) : Bool := frame.has successMark || frame.has errorMark

namespace Notice

/-- What a frame can be taken for, by what it holds. -/
inductive Sorts (frame : Text) : Notice → Prop where
  | booking {granted : Bool} (answers : answersBooking frame) : Sorts frame (.booking granted)
  | snapshot {kind : Snapshot.Kind} (silent : ¬ answersBooking frame)
      (carries : carriesSnapshot frame) :
      Sorts frame (.snapshot kind)
  | other (silent : ¬ answersBooking frame) (bare : ¬ carriesSnapshot frame) : Sorts frame .other

theorem sorts (frame : Text) : Sorts frame (ofText frame) := by
  unfold ofText
  by_cases success : frame.has successMark
  · rw [if_pos success]
    exact .booking (by simp [answersBooking, success])
  · rw [if_neg success]
    by_cases error : frame.has errorMark
    · rw [if_pos error]
      exact .booking (by simp [answersBooking, error])
    · rw [if_neg error]
      have silent : ¬ answersBooking frame := by simp [answersBooking, success, error]
      split
      · rename_i update
        rw [Bool.and_eq_true] at update
        exact .snapshot silent (by simp [carriesSnapshot, update.2])
      · split
        · rename_i carries
          exact .snapshot silent carries
        · rename_i bare
          exact .other silent bare

end Notice

namespace Snapshot

theorem carriesSnapshot_render (kind : Kind) (p : Programme) : carriesSnapshot (render kind p) := by
  have initial : initialHeader ∈ marks := by decide
  have update : updateHeader ∈ marks := by decide
  rw [carriesSnapshot, Bool.or_eq_true, has_render initial, has_render update]
  cases kind with
  | initial => exact .inl (.inl (by decide +kernel))
  | update => exact .inr (.inl (by decide +kernel))

theorem carriesSnapshot_of_suffix {kind : Kind} {p : Programme} {text : Text}
    (ends : render kind p <:+ text) :
    carriesSnapshot text := by
  have inside (mark : Text) (held : (render kind p).has mark) : text.has mark := by
    rw [Text.has_iff] at held ⊢
    exact held.trans ends.isInfix
  have carries := carriesSnapshot_render kind p
  rw [carriesSnapshot, Bool.or_eq_true] at carries ⊢
  exact carries.imp (inside _) (inside _)

theorem answers_render_iff {mark : Text} (answer : mark ∈ [successMark, errorMark]) (kind : Kind)
    (p : Programme) :
    (render kind p).has mark ↔ p.Mentions mark := by
  have headers : ∀ mark ∈ [successMark, errorMark], mark ∈ marks ∧
      ∀ kind ∈ [Kind.initial, .update], ¬ kind.header.has mark := by
    decide +kernel
  obtain ⟨known, silent⟩ := headers mark answer
  rw [has_render known, or_iff_right (silent kind (by cases kind <;> decide))]

/-- The header of an update holds both its marks, that of an initial snapshot neither. -/
theorem updates_render_iff {mark : Text} (update : mark ∈ [updateMark, updateHeader]) (kind : Kind)
    (p : Programme) :
    (render kind p).has mark ↔ kind = .update ∨ p.Mentions mark := by
  have headers : ∀ mark ∈ [updateMark, updateHeader], mark ∈ marks ∧
      ∀ kind ∈ [Kind.initial, .update], kind.header.has mark ↔ kind = .update := by
    decide +kernel
  obtain ⟨known, header⟩ := headers mark update
  rw [has_render known, header kind (by cases kind <;> decide)]

/-- What a snapshot is taken for is told by its kind and by the marks in its names and dates. -/
theorem ofText_render (kind : Kind) (p : Programme) : Notice.ofText (render kind p) =
    if p.Mentions successMark then .booking true
    else if p.Mentions errorMark then .booking false
    else if kind = .update ∨ p.Mentions updateMark ∧ p.Mentions updateHeader then .snapshot .update
    else .snapshot .initial := by
  have answers : successMark ∈ [successMark, errorMark] ∧
      errorMark ∈ [successMark, errorMark] := by decide
  have updates : updateMark ∈ [updateMark, updateHeader] ∧
      updateHeader ∈ [updateMark, updateHeader] := by decide
  simp only [Notice.ofText, answers_render_iff answers.1, answers_render_iff answers.2,
    Bool.and_eq_true, updates_render_iff updates.1, updates_render_iff updates.2, ← or_and_left,
    carriesSnapshot_render, if_true]

example : Notice.ofText (render .initial [⟨"BOOKING_UPDATE:", "Inception", "19:30", .free⟩,
    ⟨"PVR", "=== UPDATED CINEMA DATA ===", "19:30", .full⟩]) = .snapshot .update := by
  decide +kernel

/-- An update is taken for an update unless a name or a date holds a mark of an answer. An initial
    snapshot is taken for one unless, besides, both marks of an update stand in names or dates, be
    it of one show or of two. Each carries a snapshot in any case. -/
theorem recognised_iff (p : Programme) :
    (Notice.ofText (render .update p) = .snapshot .update ↔
      ¬ p.Mentions successMark ∧ ¬ p.Mentions errorMark) ∧
    (Notice.ofText (render .initial p) = .snapshot .initial ↔
      (¬ p.Mentions successMark ∧ ¬ p.Mentions errorMark) ∧
        ¬ (p.Mentions updateMark ∧ p.Mentions updateHeader)) ∧
    ∀ kind, carriesSnapshot (render kind p) := by
  refine ⟨?_, ?_, fun kind => carriesSnapshot_render kind p⟩
  · rw [ofText_render]
    split_ifs with success error update
    · simp [success]
    · simp [error]
    · simp [success, error]
    · exact absurd (.inl rfl) update
  · rw [ofText_render]
    split_ifs with success error update
    · simp [success]
    · simp [error]
    · rw [false_or] at update
      simp [update]
    · rw [false_or] at update
      exact iff_of_true rfl ⟨⟨success, error⟩, update⟩

end Snapshot

end BoxOffice

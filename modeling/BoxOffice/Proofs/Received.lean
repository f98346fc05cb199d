import BoxOffice.Client.Received
import BoxOffice.Proofs.Recognition
import Mathlib.Data.List.Induction

/-! # What a history of frames leaves

A client keeps four things, and each is told by the frames alone: the last frame, the last one that
answers a booking, the shows of the last one that carries a snapshot, and how many there were
(`takeAll_summary`). What a frame does to each is said once (`take_eq`); everything else about
frames follows from it.
-/

namespace BoxOffice.Client.Received

variable {frame : Text}

/-- Whatever a frame is taken for, the shows are replaced if and only if it carries a snapshot. -/
theorem take_eq (r : Received) (frame : Text) : r.take frame =
    { lastResponse := frame
      lastBookingResponse := if answersBooking frame then frame else r.lastBookingResponse
      shows := if carriesSnapshot frame then Snapshot.parse frame else r.shows
      frames := r.frames + 1 } := by
  have sorts := Notice.sorts frame
  unfold take
  generalize Notice.ofText frame = notice at sorts
  cases sorts with
  | booking answers =>
      rw [if_pos answers]
      dsimp only
      split <;> rfl
  | snapshot silent carries => rw [if_neg silent, if_pos carries]
  | other silent bare => rw [if_neg silent, if_neg bare]

/-! ## One frame -/

theorem shows_take (carries : carriesSnapshot frame) (r : Received) :
    (r.take frame).shows = Snapshot.parse frame := by
  rw [take_eq, if_pos carries]

/-- A snapshot whose names hold no mark of an answer is not taken for one. -/
theorem lastBookingResponse_take_render {p : Programme}
    (silent : ∀ mark ∈ [successMark, errorMark], ¬ p.Mentions mark) (kind : Snapshot.Kind)
    (r : Received) :
    (r.take (Snapshot.render kind p)).lastBookingResponse = r.lastBookingResponse := by
  have unmarked : ¬ answersBooking (Snapshot.render kind p) := by
    rw [answersBooking, Bool.or_eq_true, Snapshot.answers_render_iff (by decide),
      Snapshot.answers_render_iff (by decide)]
    exact not_or.mpr ⟨silent _ (by decide), silent _ (by decide)⟩
  rw [take_eq, if_neg unmarked]

/-! ## All frames -/

theorem takeAll_concat (r : Received) (frames : List Text) (frame : Text) :
    r.takeAll (frames ++ [frame]) = (r.takeAll frames).take frame := List.foldl_concat ..

/-- The last of the frames that are looked for. -/
def lastWith (looked : Text → Bool) (frames : List Text) : Option Text :=
  (frames.filter looked).getLast?

theorem lastWith_concat (looked : Text → Bool) (frames : List Text) (frame : Text) :
    lastWith looked (frames ++ [frame]) =
      if looked frame then some frame else lastWith looked frames := by
  rw [lastWith, List.filter_append]
  by_cases sought : looked frame
  · rw [List.filter_cons_of_pos sought, List.filter_nil, List.getLast?_concat, if_pos sought]
  · rw [List.filter_cons_of_neg sought, List.filter_nil, List.append_nil, if_neg sought, lastWith]

theorem takeAll_eq (r : Received) (frames : List Text) : r.takeAll frames =
    { lastResponse := frames.getLast?.getD r.lastResponse
      lastBookingResponse := (lastWith answersBooking frames).getD r.lastBookingResponse
      shows := ((lastWith carriesSnapshot frames).map Snapshot.parse).getD r.shows
      frames := r.frames + frames.length } := by
  induction frames using List.reverseRecOn with
  | nil => rfl
  | append_singleton frames frame ih =>
      rw [takeAll_concat, ih, take_eq, List.getLast?_concat, lastWith_concat, lastWith_concat,
        List.length_append]
      congr 1
      · split <;> rfl
      · split <;> rfl

/-- What a client holds after frames: the last one, the last one with a mark of an answer, the shows
    of the last one with the header of a snapshot, and their number. A frame without such a header
    never changes the shows, and one with it always replaces them. -/
theorem takeAll_summary (frames : List Text) :
    let held := nothing.takeAll frames
    held.lastResponse = frames.getLast?.getD [] ∧
    held.lastBookingResponse =
      (lastWith (fun frame => frame.has successMark || frame.has errorMark) frames).getD [] ∧
    held.shows = ((lastWith carriesSnapshot frames).map Snapshot.parse).getD [] ∧
    held.frames = frames.length ∧
    ∀ (r : Received) frame,
      (r.take frame).shows = if carriesSnapshot frame then Snapshot.parse frame else r.shows := by
  intro held
  have sum := takeAll_eq nothing frames
  have number : held.frames = 0 + frames.length := congrArg Received.frames sum
  exact ⟨congrArg lastResponse sum, congrArg lastBookingResponse sum, congrArg shows sum,
    number.trans (Nat.zero_add _), fun r frame => congrArg shows (take_eq r frame)⟩

end BoxOffice.Client.Received

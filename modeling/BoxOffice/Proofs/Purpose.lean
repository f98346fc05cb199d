import BoxOffice.Proofs.Foyer

/-! # What calls are for

However far a call has come, what it was begun for stays the same. Calls keep their places, and only
a call that begins adds one (`purposes_of_moves`).
-/

namespace BoxOffice.Hub

inductive Purpose where
  | connect (id : SessionId)
  | inbound (sender : SessionId) (message : Text)
  | broadcast (frame : Text)
  | disconnect (id : SessionId)
  | closeAll (ids : List SessionId)
  deriving Repr, DecidableEq

def Errand.purpose : Errand → Purpose
  | .greeting id _ _ | .connecting id _ | .entering id | .connected id _ => .connect id
  | .inbound sender message _ => .inbound sender message
  | .broadcasting frame | .crying ⟨frame, _, _⟩ | .cried frame _ => .broadcast frame
  | .disconnecting id _ | .disconnected id _ => .disconnect id
  | .closingAll ids _ => .closeAll ids

/-- What a call for a message is for, it is for whatever has become of it. -/
theorem Errand.inbound_of_purpose {d : Errand} {sender : SessionId} {message : Text}
    (same : d.purpose = .inbound sender message) :
    ∃ service, d = .inbound sender message service := by
  cases d with
  | inbound =>
      cases same
      exact ⟨_, rfl⟩
  | crying round =>
      obtain ⟨frame, ahead, reached⟩ := round
      cases same
  | greeting | connecting | entering | connected | broadcasting | cried | disconnecting
  | disconnected | closingAll => cases same

namespace Foyer

def purposes (f : Foyer) : List Purpose := f.errands.map (·.purpose)

/-- What the call is for that an event begins. -/
def begun? (f : Foyer) : Event → Option Purpose
  | .begin (.connect ..) => some (.connect f.hub.nextId)
  | .begin (.inbound sender message) => some (.inbound sender message)
  | .begin (.broadcast frame) => some (.broadcast frame)
  | .begin (.disconnect id) => some (.disconnect id)
  | .begin .closeAll => some (.closeAll f.hub.drain.1)
  | _ => none

variable {f f' : Foyer} {events : List Event} {e : Event} {n : Nat} {d d' : Errand}

theorem purposes_of_moves (moves : f.Moves e f') :
    f'.purposes = f.purposes ++ (f.begun? e).toList := by
  have kept {n : Nat} {d next : Errand} (turn : f.errands[n]? = some d)
      (same : next.purpose = d.purpose) :
      (f.errands.set n next).map (·.purpose) = f.purposes ++ [] := by
    obtain ⟨after, cut, changed⟩ := exists_cut turn
    rw [changed, purposes]
    conv => rhs; rw [cut]
    simp only [List.map_append, List.map_cons, same, List.append_nil]
  cases moves with
  | assign | refuse | lookUp | broadcast | remove | miss | drain => exact List.map_append
  | look turn | greet turn | dismiss turn | activate turn | enter turn | serve turn | reach turn
  | comeBack turn | tell turn | tellAll turn | announce turn | cry turn => exact kept turn rfl
  | write | transport => exact (List.append_nil _).symm

theorem getElem?_purposes (f : Foyer) (n : Nat) :
    f.purposes[n]? = (f.errands[n]?).map (·.purpose) :=
  List.getElem?_map

theorem purposes_prefix (run : f.run? events = some f') : f.purposes <+: f'.purposes := by
  refine runs.induction
    (motive := fun _ now => f.purposes <+: now.purposes) (List.prefix_refl _) ?_ run
  intro _ u e v _ grown step
  rw [purposes_of_moves (moves_of_step? step)]
  exact grown.trans (List.prefix_append _ _)

theorem purposes_stay {purpose : Purpose} (run : f.run? events = some f')
    (before : f.purposes[n]? = some purpose) :
    f'.purposes[n]? = some purpose := by
  obtain ⟨rest, grown⟩ := purposes_prefix run
  rw [← grown, List.getElem?_append_left (List.getElem?_eq_some_iff.mp before).1, before]

theorem purpose_stays (run : f.run? events = some f') (turn : f.errands[n]? = some d) :
    ∃ d', f'.errands[n]? = some d' ∧ d'.purpose = d.purpose := by
  have before : f.purposes[n]? = some d.purpose := by rw [getElem?_purposes, turn, Option.map_some]
  have after := purposes_stay run before
  rwa [getElem?_purposes, Option.map_eq_some_iff] at after

theorem purpose_before (moves : f.Moves e f') (turn : f'.errands[n]? = some d') :
    (∃ d, f.errands[n]? = some d ∧ d.purpose = d'.purpose) ∨
      n = f.errands.length ∧ f.begun? e = some d'.purpose := by
  have now : f'.purposes[n]? = some d'.purpose := by rw [getElem?_purposes, turn, Option.map_some]
  rw [purposes_of_moves moves] at now
  cases begun : f.begun? e with
  | none =>
      rw [begun, Option.toList_none, List.append_nil, getElem?_purposes,
        Option.map_eq_some_iff] at now
      exact .inl now
  | some purpose =>
      rw [begun, Option.toList_some] at now
      rcases of_getElem?_append now with old | ⟨place, same⟩
      · rw [getElem?_purposes, Option.map_eq_some_iff] at old
        exact .inl old
      · exact .inr ⟨place.trans (List.length_map _), congrArg some same.symm⟩

end Foyer

end BoxOffice.Hub

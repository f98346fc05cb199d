import BoxOffice.Snapshot.Rendering

/-! # What a customer takes a frame for

A customer sees texts only, and sorts them by the marks they contain. The answer to a booking
carries a snapshot too, so whether a frame replaces the list of shows is asked separately.
-/

namespace BoxOffice

/-- Begins the answer to a booking that was granted. -/
def successMark : Text := "SUCCESS:"

/-- Begins the answer to a booking that was refused. -/
def errorMark : Text := "ERROR:"

/-- Whether a text holds the header of a snapshot. -/
def carriesSnapshot (text : Text) : Bool :=
  text.has Snapshot.initialHeader || text.has Snapshot.updateHeader

/-- The sorts of frames. -/
inductive Notice where
  /-- The answer to a booking. -/
  | booking (granted : Bool)
  /-- A snapshot by itself. -/
  | snapshot (kind : Snapshot.Kind)
  /-- Any other text. -/
  | other
  deriving Repr, DecidableEq

/-- The sort of a frame. The marks of an answer come before those of a snapshot. -/
def Notice.ofText (text : Text) : Notice :=
  if text.has successMark then .booking true
  else if text.has errorMark then .booking false
  else if text.has Snapshot.updateMark && text.has Snapshot.updateHeader then .snapshot .update
  else if carriesSnapshot text then .snapshot .initial
  else .other

end BoxOffice

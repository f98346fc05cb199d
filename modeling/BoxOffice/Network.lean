import BoxOffice.Text.Basic

/-! # The network

Whether a host can be reached is not up to the box office. What a dial comes to is given from
outside.
-/

namespace BoxOffice

inductive Network where
  /-- Every host can be reached, the own one included. -/
  | routed
  /-- No host can be reached, not even the own one, and what the transport says of it. -/
  | cut (cause : Text)
  deriving Repr, DecidableEq

end BoxOffice

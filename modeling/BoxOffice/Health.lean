import BoxOffice.Text.Basic

/-! # Health

A check tells the condition of one component. A report is as bad as its worst check.
-/

namespace BoxOffice.Health

/-- How well a component works, from best to worst. -/
inductive Status where
  /-- Fully. -/
  | healthy
  /-- Within narrower limits. -/
  | degraded
  /-- Not at all. -/
  | unhealthy
  deriving Repr, DecidableEq

namespace Status

def severity : Status → Nat
  | .healthy => 0
  | .degraded => 1
  | .unhealthy => 2

def worst (a b : Status) : Status := if a.severity < b.severity then b else a

/-- How two compare, where worse is greater. -/
def compare (a b : Status) : Ordering := Ord.compare a.severity b.severity

def name : Status → Text
  | .healthy => "healthy"
  | .degraded => "degraded"
  | .unhealthy => "unhealthy"

end Status

/-- The condition of a component. Only one that is not healthy has something to say. -/
inductive Condition where
  | healthy
  | degraded (message : Text)
  | unhealthy (message : Text)
  deriving Repr, DecidableEq

namespace Condition

def status : Condition → Status
  | .healthy => .healthy
  | .degraded _ => .degraded
  | .unhealthy _ => .unhealthy

def message? : Condition → Option Text
  | .healthy => none
  | .degraded message => some message
  | .unhealthy message => some message

end Condition

/-- What is known of one component; the details keep the order in which they were given. -/
structure Check where
  component : Text
  condition : Condition
  details : List (Text × Text)
  deriving Repr, DecidableEq

/-- The first detail of that key. -/
def Check.detail? (check : Check) (key : Text) : Option Text := check.details.lookup key

/-- The worst status of the checks; healthy if there are none. -/
def overall (checks : List Check) : Status :=
  checks.foldl (fun status check => status.worst check.condition.status) .healthy

end BoxOffice.Health

import BoxOffice.Text.Decimal

/-! # The environment

An environment gives bytes to names. A value that is not UTF-8 counts as not set; the empty value
counts as set.
-/

namespace BoxOffice

/-- The text that bytes write in UTF-8. -/
def Text.ofBytes? (bytes : List UInt8) : Option Text :=
  (String.fromUTF8? ⟨bytes.toArray⟩).map String.toList

/-- Names and the bytes they are set to. -/
abbrev Environment := List (Text × List UInt8)

namespace Environment

def text? (env : Environment) (name : Text) : Option Text := env.lookup name >>= Text.ofBytes?

/-- The number up to `max` that a name is set to. -/
def number? (env : Environment) (name : Text) (max : Nat) : Option Nat :=
  env.text? name >>= Text.unsigned? max

end Environment

end BoxOffice

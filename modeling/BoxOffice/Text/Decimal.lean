import BoxOffice.Text.Basic

/-! # Decimal numerals

A numeral is a non-empty run of ASCII digits with any number of leading zeros, after an optional
sign. A reader is given the range of the number it wants; a numeral outside it does not read.
Printing writes no sign for a number that is not negative and no leading zeros.
-/

namespace BoxOffice

namespace Text

/-- The number a run of ASCII digits denotes. -/
def digits? (text : Text) : Option Nat :=
  if !text.isEmpty && text.all Char.isDigit then some (Nat.ofDigitChars 10 text 0) else none

/-- An optionally signed numeral, of any size. -/
def signed? : Text → Option Int
  | '+' :: digits => (digits? digits).map Int.ofNat
  | '-' :: digits => (digits? digits).map fun n => -(Int.ofNat n)
  | digits => (digits? digits).map Int.ofNat

/-- A numeral with an optional plus sign that is at most `max`. -/
def unsigned? (max : Nat) (text : Text) : Option Nat :=
  match text with
  | '+' :: digits => (digits? digits).filter (· ≤ max)
  | digits => (digits? digits).filter (· ≤ max)

/-- An optionally signed numeral from `min` to `max`. -/
def integer? (min max : Int) (text : Text) : Option Int :=
  (signed? text).filter fun value => min ≤ value && value ≤ max

def ofNat (n : Nat) : Text := Nat.toDigits 10 n

end Text

end BoxOffice

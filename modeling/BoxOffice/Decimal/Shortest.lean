import BoxOffice.Text.Decimal

/-! # The shortest decimal of a binary fraction

A finite binary64 value stands for every real that rounds to it. It is printed with the fewest
digits of any decimal in that range, and of those with the one nearest to the value, the greater of
two that are equally near. The notation is always positional. Everything is computed with natural
numbers.
-/

namespace BoxOffice.Decimal

/-- A value that is not negative, as `mantissa * 2 ^ exponent`, with the distance to its neighbours:
    the gap below is half the gap above at the least mantissa of a binade. -/
structure Binary where
  mantissa : Nat
  exponent : Int
  narrowBelow : Bool
  deriving Repr, DecidableEq

/-- The magnitude of a finite binary64 value. -/
def Binary.ofBits (bits : UInt64) : Binary :=
  let field := ((bits >>> 52) &&& 0x7ff).toNat
  let fraction := (bits &&& 0xfffffffffffff).toNat
  if field = 0 then ⟨fraction, -1074, false⟩
  else ⟨0x10000000000000 + fraction, (field : Int) - 1075, fraction = 0 && field ≠ 1⟩

/-- A positive fraction and the bounds of the range that rounds to it, over one denominator. The
    bounds themselves belong to the range iff `closed`. -/
structure Range where
  low : Nat
  value : Nat
  high : Nat
  denominator : Nat
  closed : Bool
  deriving Repr, DecidableEq

/-- The range of a binary value: half way to each neighbour, with the ends iff the mantissa is
    even. -/
def Range.ofBinary (b : Binary) : Range :=
  let scale := if 0 ≤ b.exponent then Nat.pow 2 b.exponent.toNat else 1
  let denominator := if 0 ≤ b.exponent then 4 else 4 * Nat.pow 2 (-b.exponent).toNat
  { low := (4 * b.mantissa - (if b.narrowBelow then 1 else 2)) * scale
    value := 4 * b.mantissa * scale
    high := (4 * b.mantissa + 2) * scale
    denominator
    closed := b.mantissa % 2 = 0 }

/-- Whether the decimal `digits / 10 ^ places` lies in the range. -/
def Range.contains (r : Range) (digits places : Nat) : Bool :=
  let point := digits * r.denominator
  let low := r.low * Nat.pow 10 places
  let high := r.high * Nat.pow 10 places
  if r.closed then low ≤ point && point ≤ high else low < point && point < high

/-- Of the two multiples of `step` around the value with so many places the nearest in the range,
    the greater one of two that are equally near. -/
def Range.nearest? (r : Range) (step places : Nat) : Option Nat :=
  let scaled := r.value * Nat.pow 10 places
  let below := scaled / (r.denominator * step)
  let belowPoint := below * step
  let abovePoint := (below + 1) * step
  let toBelow := scaled - belowPoint * r.denominator
  let toAbove := abovePoint * r.denominator - scaled
  match r.contains belowPoint places, r.contains abovePoint places with
  | true, true => some (if toBelow < toAbove then belowPoint else abovePoint)
  | true, false => some belowPoint
  | false, true => some abovePoint
  | false, false => none

/-- The coarsest grid with a point in the range: steps of a power of ten while the value has whole
    digits to spare, then more and more places. The grids that are left to try bound the search. -/
def Range.search (r : Range) : Nat → Nat → Nat → Nat × Nat
  | 0, _, places => (0, places)
  | tries + 1, power, places =>
      match r.nearest? (Nat.pow 10 power) places with
      | some digits => (digits, places)
      | none =>
          match power with
          | power + 1 => r.search tries power places
          | 0 => r.search tries 0 (places + 1)

/-- Digits in positional notation with so many places, without zeros at the end. -/
def positional (digits places : Nat) : Text :=
  let unit := Nat.pow 10 places
  let whole := Text.ofNat (digits / unit)
  if places = 0 || digits % unit = 0 then whole
  else
    let fraction := Text.ofNat (digits % unit)
    let padded := List.replicate (places - fraction.length) '0' ++ fraction
    whole ++ '.' :: (padded.reverse.dropWhile (· == '0')).reverse

/-- The shortest decimal of a finite value that is not negative. -/
def shortest (value : Float) : Text :=
  let b := Binary.ofBits value.toBits
  if b.mantissa = 0 then ['0']
  else
    let r := Range.ofBinary b
    let (digits, places) := r.search 1500 (Text.ofNat (r.value / r.denominator)).length 0
    positional digits places

end BoxOffice.Decimal

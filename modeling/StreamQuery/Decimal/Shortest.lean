import StreamQuery.Decimal.Binary64
/-!
# Shortest decimals

The fewest decimal digits that read back as a given double, and among those the nearest ones. The
reals that round to the double form an interval around it, closed when its significand is even. For
one digit, two digits and so on up to seventeen, the two neighbours of the value on the grid of that
many digits are tried; the first grid with a neighbour inside the interval decides. A value halfway
between two neighbours goes by the tie rule of the notation that asks.
-/

namespace StreamQuery.Decimal

/-- The decimal `digits · 10 ^ exponent`. -/
structure Scaled where
  digits : Nat
  exponent : Int
  deriving DecidableEq, Repr

/-- Where a value halfway between two decimals goes: away from zero, or to the even last digit. -/
inductive Tie where
  | away
  | even
  deriving DecidableEq, Repr

/-- The interval of reals that round to a double, over one common denominator. -/
structure RoundingInterval where
  low : Nat
  value : Nat
  high : Nat
  denominator : Nat
  closed : Bool

/-- Neighbours of `significand · 2 ^ power` are half a unit away, a quarter below a power of two. -/
def Binary64.interval (value : Binary64) : RoundingInterval :=
  let s := value.significand
  let below := if s = twoTo 52 && 1 < value.exponentBits then 1 else 2
  let scaled := scaledBy 1 4 (-value.power)
  { low := (4 * s - below) * scaled.1
    value := 4 * s * scaled.1
    high := (4 * s + 2) * scaled.1
    denominator := scaled.2
    closed := s % 2 = 0 }

/-- True when `digits · unit` lies in the interval, all over the interval's denominator. -/
def RoundingInterval.holds (range : RoundingInterval) (point : Nat) : Bool :=
  if range.closed then range.low ≤ point && point ≤ range.high
  else range.low < point && point < range.high

/-- The interval with the decimal power divided out. -/
def RoundingInterval.onGrid (range : RoundingInterval) (exponent : Int) :
    RoundingInterval × Nat :=
  if 0 ≤ exponent then
    (range, range.denominator * tenTo exponent.toNat)
  else
    let factor := tenTo (-exponent).toNat
    ({ range with
        low := range.low * factor
        value := range.value * factor
        high := range.high * factor }, range.denominator)

/-- True when the lower of two neighbours at these distances is taken. -/
def Tie.takesBelow (tie : Tie) (below toBelow toAbove : Nat) : Bool :=
  toBelow < toAbove || (toBelow == toAbove && tie == .even && below % 2 == 0)

/-- The nearest grid point to the value that reads back, if there is one. -/
def RoundingInterval.nearest? (tie : Tie) (range : RoundingInterval) (exponent : Int) :
    Option Nat :=
  let (grid, unit) := range.onGrid exponent
  let below := grid.value / unit
  let above := below + 1
  let belowHolds := 0 < below && grid.holds (below * unit)
  let aboveHolds := grid.holds (above * unit)
  if belowHolds && aboveHolds then
    if tie.takesBelow below (grid.value - below * unit) (above * unit - grid.value) then
      some below
    else
      some above
  else if belowHolds then some below
  else if aboveHolds then some above
  else none

/-- The exponent of the leading decimal digit of a positive fraction. -/
def leadingExponent (numerator denominator : Nat) : Int :=
  let guess : Int := ((numerator.log2 : Int) - denominator.log2) * 30103 / 100000 - 1
  let reaches (exponent : Int) : Bool :=
    if 0 ≤ exponent then denominator * tenTo exponent.toNat ≤ numerator
    else denominator ≤ numerator * tenTo (-exponent).toNat
  if reaches (guess + 2) then guess + 2
  else if reaches (guess + 1) then guess + 1
  else guess

def searchGrids (tie : Tie) (range : RoundingInterval) (leading : Int) : Nat → Nat → Scaled
  | 0, _ => ⟨0, 0⟩
  | fuel + 1, count =>
      let exponent := leading + 1 - count
      match range.nearest? tie exponent with
      | some digits => ⟨digits, exponent⟩
      | none => searchGrids tie range leading fuel (count + 1)

/-- Trailing zeros of the digits belong to the exponent. -/
def Scaled.trimZeros : Nat → Scaled → Scaled
  | 0, decimal => decimal
  | fuel + 1, decimal =>
      if decimal.digits ≠ 0 ∧ decimal.digits % 10 = 0 then
        trimZeros fuel ⟨decimal.digits / 10, decimal.exponent + 1⟩
      else
        decimal

/-- The shortest decimal of the magnitude of a finite double. -/
def Binary64.shortest (tie : Tie) (value : Binary64) : Scaled :=
  if value.significand = 0 then
    ⟨0, 0⟩
  else
    let range := value.interval
    let leading := leadingExponent range.value range.denominator
    (searchGrids tie range leading 17 1).trimZeros 17

end StreamQuery.Decimal

/-!
# Double precision numbers

A double is kept as its 64 bits, so that equality, sign of zero and NaN are plain data. A finite one
is `± significand · 2 ^ power` with natural significand, and the rounding operations here go through
exact fractions of naturals: nearest value, ties to the even significand.
-/

namespace StreamQuery.Decimal

def twoTo (exponent : Nat) : Nat :=
  Nat.pow 2 exponent

def tenTo (exponent : Nat) : Nat :=
  Nat.pow 10 exponent

structure Binary64 where
  bits : UInt64
  deriving DecidableEq, Repr

namespace Binary64

def negative (value : Binary64) : Bool :=
  twoTo 63 ≤ value.bits.toNat

/-- The eleven bits of the biased exponent. -/
def exponentBits (value : Binary64) : Nat :=
  value.bits.toNat / twoTo 52 % twoTo 11

/-- The low 52 bits. -/
def fractionBits (value : Binary64) : Nat :=
  value.bits.toNat % twoTo 52

def isFinite (value : Binary64) : Bool :=
  value.exponentBits != 2047

def isNaN (value : Binary64) : Bool :=
  value.exponentBits == 2047 && value.fractionBits != 0

def significand (value : Binary64) : Nat :=
  if value.exponentBits = 0 then value.fractionBits else twoTo 52 + value.fractionBits

/-- The power of two that scales the significand. -/
def power (value : Binary64) : Int :=
  (if value.exponentBits = 0 then 1 else (value.exponentBits : Int)) - 1075

def isZero (value : Binary64) : Bool :=
  value.isFinite && value.significand == 0

/-- The magnitude of a finite double as a fraction of naturals. -/
def fraction (value : Binary64) : Nat × Nat :=
  if 0 ≤ value.power then
    (value.significand * twoTo value.power.toNat, 1)
  else
    (value.significand, twoTo (-value.power).toNat)

/-- True for a finite double without fractional part. -/
def isIntegral (value : Binary64) : Bool :=
  value.isFinite && value.fraction.1 % value.fraction.2 == 0

/-- The whole part of the magnitude. -/
def wholePart (value : Binary64) : Nat :=
  value.fraction.1 / value.fraction.2

def signBit (isNegative : Bool) : Nat :=
  if isNegative then twoTo 63 else 0

def infinity (isNegative : Bool) : Binary64 :=
  ⟨UInt64.ofNat (signBit isNegative + 2047 * twoTo 52)⟩

def nan : Binary64 :=
  ⟨UInt64.ofNat (2047 * twoTo 52 + twoTo 51)⟩

def neg (value : Binary64) : Binary64 :=
  if value.negative then ⟨UInt64.ofNat (value.bits.toNat - twoTo 63)⟩
  else ⟨UInt64.ofNat (value.bits.toNat + twoTo 63)⟩

end Binary64

/-- The natural nearest to a fraction, a tie going to the even one. -/
def roundHalfEven (numerator denominator : Nat) : Nat :=
  let whole := numerator / denominator
  let rest := numerator % denominator
  if denominator < 2 * rest || (2 * rest == denominator && whole % 2 == 1) then
    whole + 1
  else
    whole

/-- `numerator / denominator / 2 ^ power` as a fraction. -/
def scaledBy (numerator denominator : Nat) (power : Int) : Nat × Nat :=
  if 0 ≤ power then
    (numerator, denominator * twoTo power.toNat)
  else
    (numerator * twoTo (-power).toNat, denominator)

/-- Shape of a binary format: bits of the significand and least power. -/
structure BinaryFormat where
  precision : Nat
  leastPower : Int
  greatestPower : Int

def BinaryFormat.double : BinaryFormat := ⟨53, -1074, 971⟩

def BinaryFormat.single : BinaryFormat := ⟨24, -149, 104⟩

/-- The power of two at which the whole part of a positive fraction has `precision` bits, or the
least power of the format. -/
def BinaryFormat.powerFor (format : BinaryFormat) (numerator denominator : Nat) : Int :=
  let guess : Int := (numerator.log2 : Int) - denominator.log2 - format.precision
  let scaled := scaledBy numerator denominator guess
  let fitted := if twoTo format.precision ≤ scaled.1 / scaled.2 then guess + 1 else guess
  max fitted format.leastPower

/-- The significand and power nearest to a positive fraction; `none` past the greatest one. -/
def BinaryFormat.round (format : BinaryFormat) (numerator denominator : Nat) :
    Option (Nat × Int) :=
  let power := format.powerFor numerator denominator
  let scaled := scaledBy numerator denominator power
  let rounded := roundHalfEven scaled.1 scaled.2
  let carried :=
    if rounded = twoTo format.precision then (rounded / 2, power + 1) else (rounded, power)
  if format.greatestPower < carried.2 then none else some carried

namespace Binary64

/-- Packs a significand below `2 ^ 53` and a power in range. -/
def pack (isNegative : Bool) (significand : Nat) (power : Int) : Binary64 :=
  let magnitude :=
    if significand < twoTo 52 then significand
    else (power + 1075).toNat * twoTo 52 + (significand - twoTo 52)
  ⟨UInt64.ofNat (signBit isNegative + magnitude)⟩

/-- The double nearest to a fraction. -/
def ofFraction (isNegative : Bool) (numerator denominator : Nat) : Binary64 :=
  if numerator = 0 then
    pack isNegative 0 (-1074)
  else
    match BinaryFormat.double.round numerator denominator with
    | some (significand, power) => pack isNegative significand power
    | none => infinity isNegative

def ofInt (value : Int) : Binary64 :=
  ofFraction (value < 0) value.natAbs 1

/-- The double that a fraction becomes when it is first rounded to single precision. -/
def ofFractionThroughSingle (isNegative : Bool) (numerator denominator : Nat) : Binary64 :=
  if numerator = 0 then
    pack isNegative 0 (-1074)
  else
    match BinaryFormat.single.round numerator denominator with
    | some (significand, power) =>
        let whole := scaledBy significand 1 (-power)
        ofFraction isNegative whole.1 whole.2
    | none => infinity isNegative

/-- Rounds a finite double to single precision. -/
def throughSingle (value : Binary64) : Binary64 :=
  if value.isFinite then
    ofFractionThroughSingle value.negative value.fraction.1 value.fraction.2
  else
    value

end Binary64

end StreamQuery.Decimal

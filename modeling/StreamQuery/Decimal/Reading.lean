import StreamQuery.Decimal.Binary64
import StreamQuery.Text.Numeral
/-!
# Reading decimals

Two readers of decimal text. The exact one gives the double (or the single) nearest to the number
written. The stepwise one, used for data exchange, keeps as many leading digits as fit a 64-bit word
and scales their double by the double of a power of ten, rounding at each step.
-/

namespace StreamQuery.Decimal

open StreamQuery.Text

/-- A decimal number taken apart: all digits, and the power of ten of the last one. -/
structure Scanned where
  negative : Bool
  digits : List Char
  exponent : Int

def splitSign : List Char → Bool × List Char
  | '-' :: rest => (true, rest)
  | '+' :: rest => (false, rest)
  | rest => (false, rest)

def isExponentMark (c : Char) : Bool :=
  c == 'e' || c == 'E'

/-- Digits, an optional point with digits, an optional exponent; at least one digit in front. -/
def scanDecimal? (text : List Char) : Option Scanned := do
  let (negative, body) := splitSign text
  let whole := body.takeWhile Char.isDigit
  let afterWhole := body.dropWhile Char.isDigit
  let (places, rest) :=
    match afterWhole with
    | '.' :: more => (more.takeWhile Char.isDigit, more.dropWhile Char.isDigit)
    | _ => ([], afterWhole)
  if (whole ++ places).isEmpty then
    none
  else
    match rest with
    | [] => pure ⟨negative, whole ++ places, -(places.length : Int)⟩
    | mark :: exponent =>
        if isExponentMark mark then
          let exponent ← readInt? exponent
          pure ⟨negative, whole ++ places, exponent - places.length⟩
        else
          none

/-- The fraction of a scanned number, or `none` when it is too large or too small to matter; the
bounds lie far outside both binary formats. -/
def Scanned.fraction? (scanned : Scanned) : Option (Nat × Nat) :=
  let digits := readDigits scanned.digits
  let reach : Int := scanned.exponent + scanned.digits.length
  if digits = 0 then some (0, 1)
  else if reach < -400 then some (0, 1)
  else if 400 < scanned.exponent then none
  else if 0 ≤ scanned.exponent then some (digits * tenTo scanned.exponent.toNat, 1)
  else some (digits, tenTo (-scanned.exponent).toNat)

/-- The double nearest to a decimal text, or a special value by its name. -/
def readDouble? (text : String) : Option Binary64 :=
  match text with
  | "NaN" => some Binary64.nan
  | "inf" => some (Binary64.infinity false)
  | "-inf" => some (Binary64.infinity true)
  | _ => do
      let scanned ← scanDecimal? text.toList
      match scanned.fraction? with
      | some (numerator, denominator) =>
          pure (Binary64.ofFraction scanned.negative numerator denominator)
      | none => pure (Binary64.infinity scanned.negative)

/-- The single nearest to a decimal text, widened. -/
def readSingle? (text : String) : Option Binary64 :=
  match text with
  | "NaN" => some Binary64.nan
  | "inf" => some (Binary64.infinity false)
  | "-inf" => some (Binary64.infinity true)
  | _ => do
      let scanned ← scanDecimal? text.toList
      match scanned.fraction? with
      | some (numerator, denominator) =>
          pure (Binary64.ofFractionThroughSingle scanned.negative numerator denominator)
      | none => pure (Binary64.infinity scanned.negative)

/-- The double of a power of ten up to `10 ^ 308`. -/
def powerOfTen (exponent : Nat) : Binary64 :=
  Binary64.ofFraction false (tenTo exponent) 1

/-- Product of two non-negative finite doubles. -/
def timesPower (value power : Binary64) : Binary64 :=
  let (a, b) := value.fraction
  let (c, d) := power.fraction
  Binary64.ofFraction false (a * c) (b * d)

/-- Quotient of a non-negative finite double by a positive one. -/
def overPower (value power : Binary64) : Binary64 :=
  let (a, b) := value.fraction
  let (c, d) := power.fraction
  Binary64.ofFraction false (a * d) (b * c)

/-- Divides by `10 ^ 308` as long as the exponent is below `-308`. -/
def scaleDown : Nat → Binary64 → Nat → Binary64
  | 0, value, _ => value
  | fuel + 1, value, exponent =>
      if exponent ≤ 308 then
        overPower value (powerOfTen exponent)
      else if value.isZero then
        value
      else
        scaleDown fuel (overPower value (powerOfTen 308)) (exponent - 308)

/-- `significand · 10 ^ exponent` in steps; `none` when it grows past the finite doubles. -/
def scaleStepwise? (significand : Nat) (exponent : Int) : Option Binary64 :=
  let start := Binary64.ofFraction false significand 1
  if exponent < 0 then
    some (scaleDown 8 start exponent.natAbs)
  else if exponent ≤ 308 then
    let scaled := timesPower start (powerOfTen exponent.toNat)
    if scaled.isFinite then some scaled else none
  else if significand = 0 then
    some start
  else
    none

end StreamQuery.Decimal

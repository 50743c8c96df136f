import StreamQuery.Decimal.Shortest
/-!
# Written forms of a double

Two notations share the shortest digits. The positional one never uses an exponent, drops the point
of a whole number and takes ties away from zero. The exchange one keeps at least one fractional
digit, turns to an exponent, with its sign, outside `1e-5 … 1e16`, and takes ties to the even digit.
-/

namespace StreamQuery.Decimal

def digitsOf (value : Nat) : List Char :=
  Nat.toDigits 10 value

def zeros (count : Nat) : List Char :=
  List.replicate count '0'

def signText (isNegative : Bool) : List Char :=
  if isNegative then ['-'] else []

/-- Digits with the decimal point where the exponent puts it. -/
def Scaled.positional (decimal : Scaled) : List Char :=
  let digits := digitsOf decimal.digits
  if 0 ≤ decimal.exponent then
    if decimal.digits = 0 then digits else digits ++ zeros decimal.exponent.toNat
  else
    let places := (-decimal.exponent).toNat
    if places < digits.length then
      digits.take (digits.length - places) ++ '.' :: digits.drop (digits.length - places)
    else
      '0' :: '.' :: (zeros (places - digits.length) ++ digits)

/-- The exponent of the first digit. -/
def Scaled.leadingPlace (decimal : Scaled) : Int :=
  decimal.exponent + (digitsOf decimal.digits).length - 1

def signedExponent (exponent : Int) : List Char :=
  if exponent < 0 then '-' :: digitsOf exponent.natAbs else '+' :: digitsOf exponent.natAbs

/-- One digit, the rest after a point, and the exponent of the first. -/
def Scaled.scientific (decimal : Scaled) : List Char :=
  let mantissa :=
    match digitsOf decimal.digits with
    | [] => []
    | [digit] => [digit]
    | first :: rest => first :: '.' :: rest
  mantissa ++ 'e' :: signedExponent decimal.leadingPlace

/-- Positional text of any double; special values have names. -/
def Binary64.toPositional (value : Binary64) : String :=
  if value.isFinite then
    String.ofList (signText value.negative ++ (value.shortest .away).positional)
  else if value.isNaN then
    "NaN"
  else
    String.ofList (signText value.negative ++ ['i', 'n', 'f'])

/-- Text of a finite double in data exchange. -/
def Binary64.toExchange (value : Binary64) : String :=
  let decimal := value.shortest .even
  let body :=
    if decimal.digits = 0 then ['0', '.', '0']
    else if -5 ≤ decimal.leadingPlace ∧ decimal.leadingPlace < 16 then
      if 0 ≤ decimal.exponent then decimal.positional ++ ['.', '0'] else decimal.positional
    else
      decimal.scientific
  String.ofList (signText value.negative ++ body)

end StreamQuery.Decimal

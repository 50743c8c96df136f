import StreamQuery.Json.Basic
import StreamQuery.Decimal.Reading
/-!
# Numbers of data exchange text

A numeral without point and exponent that fits a 64-bit word is an integer. Every other numeral is a
double, and so is minus zero. Leading digits are gathered into an unsigned 64-bit word; digits that
no longer fit count as powers of ten before the point and are dropped after it.
-/

namespace StreamQuery.Json

open Decimal Text

/-- The parts of a numeral as written. -/
structure Numeral where
  negative : Bool
  whole : List Char
  /-- Digits after the point, when there is a point. -/
  places : Option (List Char)
  /-- Sign and digits of the exponent, when there is one. -/
  exponent : Option (Bool × List Char)

/-- Gathers digits while the word has room: the word, the digits taken, the digits left. -/
def gather (word : Nat) : List Char → Nat × Nat × List Char
  | [] => (word, 0, [])
  | c :: rest =>
      let next := 10 * word + digitValue c
      if next < wordSize 64 then
        let (final, taken, left) := gather next rest
        (final, taken + 1, left)
      else
        (word, 0, c :: rest)

def splitDigits (text : List Char) : List Char × List Char :=
  (text.takeWhile Char.isDigit, text.dropWhile Char.isDigit)

/-- Digits of the whole part: a zero stands alone. -/
def scanWhole? (text : List Char) : Option (List Char × List Char) :=
  match splitDigits text with
  | ([], _) => none
  | ('0' :: _ :: _, _) => none
  | found => some found

/-- A point must be followed by a digit. -/
def scanPlaces? : List Char → Option (Option (List Char) × List Char)
  | '.' :: rest =>
      match splitDigits rest with
      | ([], _) => none
      | (digits, left) => some (some digits, left)
  | rest => some (none, rest)

/-- An exponent mark must be followed by a digit, after at most one sign. -/
def scanExponent? : List Char → Option (Option (Bool × List Char) × List Char)
  | [] => some (none, [])
  | mark :: rest =>
      if isExponentMark mark then
        let (negative, body) := splitSign rest
        match splitDigits body with
        | ([], _) => none
        | (digits, left) => some (some (negative, digits), left)
      else
        some (none, mark :: rest)

/-- Scans a numeral off the front of a text. -/
def scanNumeral? (text : List Char) : Option (Numeral × List Char) := do
  let (negative, body) :=
    match text with
    | '-' :: rest => (true, rest)
    | rest => (false, rest)
  let (whole, rest) ← scanWhole? body
  let (places, rest) ← scanPlaces? rest
  let (exponent, rest) ← scanExponent? rest
  pure (⟨negative, whole, places, exponent⟩, rest)

def signed (isNegative : Bool) (value : Binary64) : Binary64 :=
  if isNegative then value.neg else value

/-- The double of a word scaled by a written exponent; `none` past the finite doubles. -/
def scaleBy? (numeral : Numeral) (word : Nat) (shift : Int) : Option Binary64 :=
  match numeral.exponent with
  | none => (scaleStepwise? word shift).map (signed numeral.negative)
  | some (negative, digits) =>
      let size := readDigits digits
      if wordSize 31 ≤ size then
        if word ≠ 0 ∧ negative = false then
          none
        else
          some (signed numeral.negative (Binary64.ofFraction false 0 1))
      else
        let exponent : Int := if negative then shift - size else shift + size
        (scaleStepwise? word exponent).map (signed numeral.negative)

/-- The value of a numeral; `none` when no finite double is near it. -/
def Numeral.value? (numeral : Numeral) : Option Json :=
  let (word, _, long) := gather 0 numeral.whole
  match numeral.places, numeral.exponent, long with
  | none, none, [] =>
      if numeral.negative then
        if 0 < word ∧ word ≤ wordSize 63 then
          some (.int (-(word : Int)))
        else
          some (.double (signed true (Binary64.ofFraction false word 1)))
      else
        some (.int word)
  | places, _, _ =>
      let (word, taken, _) := gather word (places.getD [])
      (scaleBy? numeral word ((long.length : Int) - taken)).map .double

end StreamQuery.Json

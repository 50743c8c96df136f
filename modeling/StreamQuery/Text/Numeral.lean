/-!
# Decimal integers

Reads an integer written with decimal digits and an optional sign, and names the ranges that
columns and records can hold.
-/

namespace StreamQuery.Text

def digitValue (c : Char) : Nat :=
  c.toNat - '0'.toNat

/-- The number that a list of decimal digits writes, most significant first. -/
def readDigits (digits : List Char) : Nat :=
  digits.foldl (fun value c => 10 * value + digitValue c) 0

/-- One or more decimal digits and nothing else. -/
def readNat? (text : List Char) : Option Nat :=
  if !text.isEmpty && text.all Char.isDigit then
    some (readDigits text)
  else
    none

/-- Decimal digits after at most one sign. -/
def readInt? : List Char → Option Int
  | '-' :: digits => (readNat? digits).map fun value => -(value : Int)
  | '+' :: digits => (readNat? digits).map fun value => (value : Int)
  | digits => (readNat? digits).map fun value => (value : Int)

/-- How many values a word of the given width has. -/
def wordSize (width : Nat) : Nat :=
  Nat.pow 2 width

/-- The integers of a signed word of the given width. -/
def fitsSigned (width : Nat) (value : Int) : Bool :=
  -(wordSize (width - 1) : Int) ≤ value && value < (wordSize (width - 1) : Int)

/-- The integers of an unsigned word of the given width. -/
def fitsUnsigned (width : Nat) (value : Int) : Bool :=
  0 ≤ value && value < (wordSize width : Int)

end StreamQuery.Text

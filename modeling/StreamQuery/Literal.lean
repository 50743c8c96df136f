import StreamQuery.ColumnType
import StreamQuery.Decimal.Notation
import StreamQuery.Keyed
import StreamQuery.Text.Ascii
import StreamQuery.Text.Hex
import StreamQuery.Text.Numeral
import StreamQuery.Text.Quoted
/-!
# Literals

A constant embedded in a statement, and its text in the dialect. The entries of a map stand in the
order of their keys, one for each key.
-/

namespace StreamQuery

open Decimal Text

inductive Literal where
  | null
  | boolean (value : Bool)
  | integer (value : Int)
  | double (value : Binary64)
  | string (content : String)
  | bytes (content : List UInt8)
  | array (items : List Literal)
  | map (entries : List (String × Literal))
  deriving Repr, Inhabited

namespace Literal

/-- A map of entries given in any order; a later one wins. -/
def ofEntries (entries : List (String × Literal)) : Literal :=
  .map (Keyed.ofList entries)

def isNull : Literal → Bool
  | .null => true
  | _ => false

/-- Literals that the dialect compares by order. -/
def isOrderable : Literal → Bool
  | .integer _ | .double _ | .string _ | .bytes _ => true
  | _ => false

/-- Literals that list the members of a set. -/
def isIterable : Literal → Bool
  | .array _ => true
  | _ => false

/-- Literals that take part in arithmetic. -/
def isScalar : Literal → Bool
  | .null | .array _ | .map _ => false
  | _ => true

mutual

/-- The type of a literal. Null and containers without a typed member have none. -/
def type? : Literal → Option ColumnType
  | .null => none
  | .boolean _ => some .boolean
  | .integer value => some (if fitsSigned 32 value then .int else .bigint)
  | .double _ => some .double
  | .string _ => some .string
  | .bytes _ => some .bytes
  | .array items => (firstType? items).map .array
  | .map entries => (firstEntryType? entries).map .map

def firstType? : List Literal → Option ColumnType
  | [] => none
  | item :: rest =>
      match type? item with
      | some type => some type
      | none => firstType? rest

def firstEntryType? : List (String × Literal) → Option ColumnType
  | [] => none
  | (_, value) :: rest =>
      match type? value with
      | some type => some type
      | none => firstEntryType? rest

end

/-- A whole number below `10 ^ 15` keeps one decimal place; all else has no place it does not
need. -/
def doubleText (value : Binary64) : String :=
  if value.isIntegral && value.wholePart < tenTo 15 then
    String.ofList (signText value.negative ++ digitsOf value.wholePart ++ ['.', '0'])
  else
    value.toPositional

mutual

/-- The text of a literal in the dialect. -/
def text : Literal → String
  | .null => "NULL"
  | .boolean true => "TRUE"
  | .boolean false => "FALSE"
  | .integer value => toString value
  | .double value => doubleText value
  | .string content => quote content
  | .bytes content => "TO_BYTES('" ++ Hex.encode content ++ "', 'hex')"
  | .array items => "ARRAY[" ++ joinWith ", " (itemTexts items) ++ "]"
  | .map entries => "MAP(" ++ joinWith ", " (entryTexts entries) ++ ")"

def itemTexts : List Literal → List String
  | [] => []
  | item :: rest => text item :: itemTexts rest

def entryTexts : List (String × Literal) → List String
  | [] => []
  | (key, value) :: rest => (quote key ++ " := " ++ text value) :: entryTexts rest

end

mutual

/-- The first double, in reading order, that has no literal form. -/
def notFinite? : Literal → Option Binary64
  | .double value => if value.isFinite then none else some value
  | .array items => notFiniteItem? items
  | .map entries => notFiniteEntry? entries
  | _ => none

def notFiniteItem? : List Literal → Option Binary64
  | [] => none
  | item :: rest =>
      match notFinite? item with
      | some value => some value
      | none => notFiniteItem? rest

def notFiniteEntry? : List (String × Literal) → Option Binary64
  | [] => none
  | (_, value) :: rest =>
      match notFinite? value with
      | some value => some value
      | none => notFiniteEntry? rest

end

end Literal

end StreamQuery

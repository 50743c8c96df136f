import StreamQuery.ColumnType
import StreamQuery.Json.Printer
/-!
# Failures of conversion

Why a value of data exchange does not suit a column type. Inside containers the place is named from
the outside in.
-/

namespace StreamQuery

inductive ConversionError where
  | mismatch (expected : ColumnType) (found : Json)
  | outOfRange (value : Int)
  | nullElement (expected : ColumnType)
  | nullValue
  | notBase64
  | inElement (index : Nat) (reason : ConversionError)
  | inEntry (key : String) (reason : ConversionError)

def ConversionError.message : ConversionError → String
  | mismatch expected found => "expected " ++ expected.text ++ ", got " ++ found.print
  | outOfRange value => toString value ++ " is out of BIGINT range"
  | nullElement expected => "null element where " ++ expected.text ++ " expected"
  | nullValue => "null value for a non-nullable field"
  | notBase64 => "invalid base64"
  | inElement index reason => "element " ++ toString index ++ ": " ++ reason.message
  | inEntry key reason => "entry " ++ key ++ ": " ++ reason.message

/-- A number from 0 to 255. -/
def Json.asByte? (json : Json) : Option UInt8 :=
  match json with
  | .int value => if Text.fitsUnsigned 8 value then some (UInt8.ofNat value.toNat) else none
  | _ => none

end StreamQuery

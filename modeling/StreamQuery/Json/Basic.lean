import StreamQuery.Decimal.Binary64
import StreamQuery.Keyed
import StreamQuery.Text.Numeral
/-!
# Data exchange values

A tree of null, truth values, numbers, strings, arrays and objects. A number is an integer of a
64-bit word, signed or not, or a double; `1` and `1.0` differ. The members of an object stand in the
order of their keys, one for each key.
-/

namespace StreamQuery

open Decimal Text

inductive Json where
  | null
  | bool (value : Bool)
  | int (value : Int)
  | double (value : Binary64)
  | string (text : String)
  | array (items : List Json)
  | object (members : List (String × Json))
  deriving Repr, Inhabited

namespace Json

/-- An object of members given in any order; a later one wins. -/
def ofMembers (members : List (String × Json)) : Json :=
  .object (Keyed.ofList members)

def isNull : Json → Bool
  | .null => true
  | _ => false

def asBool? : Json → Option Bool
  | .bool value => some value
  | _ => none

/-- An integer of a signed 64-bit word. -/
def asSigned? : Json → Option Int
  | .int value => if fitsSigned 64 value then some value else none
  | _ => none

/-- An integer of an unsigned 64-bit word. -/
def asUnsigned? : Json → Option Int
  | .int value => if fitsUnsigned 64 value then some value else none
  | _ => none

/-- Any number, as the nearest double. -/
def asDouble? : Json → Option Binary64
  | .int value => some (Binary64.ofInt value)
  | .double value => some value
  | _ => none

def asString? : Json → Option String
  | .string text => some text
  | _ => none

/-- An optional text: missing and null are none; another value is refused. -/
def textOrNull? : Option Json → Option (Option String)
  | none | some .null => some none
  | some (.string text) => some (some text)
  | some _ => none

def asArray? : Json → Option (List Json)
  | .array items => some items
  | _ => none

def asObject? : Json → Option (Keyed Json)
  | .object members => some members
  | _ => none

/-- A double as a number; the special values have none and become null. -/
def ofDouble (value : Binary64) : Json :=
  if value.isFinite then .double value else .null

/-- The member of an object under a key. -/
def member? (key : String) : Json → Option Json
  | .object members => Keyed.find? key members
  | _ => none

end Json

end StreamQuery

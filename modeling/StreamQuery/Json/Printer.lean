import StreamQuery.Json.Basic
import StreamQuery.Decimal.Notation
import StreamQuery.Text.Hex
import StreamQuery.Text.Ascii
/-!
# Compact text of data exchange values

No blanks between tokens, members in key order, all characters raw but the quote, the backslash and
the control characters, of which five have short escapes.
-/

namespace StreamQuery.Json

open Text

def escapeControl (code : Nat) : List Char :=
  ['\\', 'u', '0', '0', Hex.digit (code / 16), Hex.digit (code % 16)]

def escapeChar (c : Char) : List Char :=
  if c = '"' then ['\\', '"']
  else if c = '\\' then ['\\', '\\']
  else if c = '\x08' then ['\\', 'b']
  else if c = '\x0C' then ['\\', 'f']
  else if c = '\n' then ['\\', 'n']
  else if c = '\r' then ['\\', 'r']
  else if c = '\t' then ['\\', 't']
  else if c.toNat < 0x20 then escapeControl c.toNat
  else [c]

/-- A string between double quotes. -/
def printString (text : String) : String :=
  "\"" ++ String.ofList (text.toList.flatMap escapeChar) ++ "\""

mutual

def print : Json → String
  | .null => "null"
  | .bool true => "true"
  | .bool false => "false"
  | .int value => toString value
  | .double value => value.toExchange
  | .string text => printString text
  | .array items => "[" ++ joinWith "," (printItems items) ++ "]"
  | .object members => "\x7b" ++ joinWith "," (printMembers members) ++ "\x7d"

def printItems : List Json → List String
  | [] => []
  | item :: rest => print item :: printItems rest

def printMembers : List (String × Json) → List String
  | [] => []
  | (key, value) :: rest => (printString key ++ ":" ++ print value) :: printMembers rest

end

end StreamQuery.Json

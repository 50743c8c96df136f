import StreamQuery.Text.Hex
import StreamQuery.Text.Visible.Table
/-!
# Texts made visible

A text between double quotes in which quotes, backslashes and everything that would not show stand
as escapes. Marks that would join the character before them are escaped too.
-/

namespace StreamQuery.Text

def hexDigits (code : Nat) : List Char :=
  (Nat.toDigits 16 code)

/-- The escape of any character by its code point. -/
def codeEscape (c : Char) : List Char :=
  ['\\', 'u', '\x7b'] ++ hexDigits c.toNat ++ ['\x7d']

def visibleChar (c : Char) : List Char :=
  if c = '\x00' then ['\\', '0']
  else if c = '\t' then ['\\', 't']
  else if c = '\r' then ['\\', 'r']
  else if c = '\n' then ['\\', 'n']
  else if c = '\\' then ['\\', '\\']
  else if c = '"' then ['\\', '"']
  else if 0x20 ≤ c.toNat && c.toNat ≤ 0x7E then [c]
  else if inRanges extendingRanges c.toNat || inRanges invisibleRanges c.toNat then codeEscape c
  else [c]

def visible (text : String) : String :=
  "\"" ++ String.ofList (text.toList.flatMap visibleChar) ++ "\""

end StreamQuery.Text

/-!
# Base 64

Reads bytes from the standard alphabet with padding. A group is four characters; only the last one
may be padded, and the bits that padding leaves over must be zero, so each byte list has one text.
-/

namespace StreamQuery.Text.Base64

def digitValue? (c : Char) : Option Nat :=
  if 'A' ≤ c && c ≤ 'Z' then some (c.toNat - 'A'.toNat)
  else if 'a' ≤ c && c ≤ 'z' then some (c.toNat - 'a'.toNat + 26)
  else if '0' ≤ c && c ≤ '9' then some (c.toNat - '0'.toNat + 52)
  else if c == '+' then some 62
  else if c == '/' then some 63
  else none

/-- Two digits before padding: one byte and four bits that must be zero. -/
def decodeOne? (a b : Char) : Option (List UInt8) := do
  let a ← digitValue? a
  let b ← digitValue? b
  if b % 16 = 0 then
    pure [UInt8.ofNat (a * 4 + b / 16)]
  else
    none

/-- Three digits before padding: two bytes and two bits that must be zero. -/
def decodeTwo? (a b c : Char) : Option (List UInt8) := do
  let a ← digitValue? a
  let b ← digitValue? b
  let c ← digitValue? c
  if c % 4 = 0 then
    pure [UInt8.ofNat (a * 4 + b / 16), UInt8.ofNat (b % 16 * 16 + c / 4)]
  else
    none

def decodeGroup? (a b c d : Char) : Option (List UInt8) := do
  let a ← digitValue? a
  let b ← digitValue? b
  let c ← digitValue? c
  let d ← digitValue? d
  pure [UInt8.ofNat (a * 4 + b / 16), UInt8.ofNat (b % 16 * 16 + c / 4),
    UInt8.ofNat (c % 4 * 64 + d)]

def decode? : List Char → Option (List UInt8)
  | [] => some []
  | [a, b, '=', '='] => decodeOne? a b
  | [a, b, c, '='] => decodeTwo? a b c
  | a :: b :: c :: d :: rest => do
      let group ← decodeGroup? a b c d
      let bytes ← decode? rest
      pure (group ++ bytes)
  | _ => none

end StreamQuery.Text.Base64

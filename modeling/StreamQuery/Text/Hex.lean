/-!
# Hexadecimal bytes

Two lower-case digits for each byte.
-/

namespace StreamQuery.Text.Hex

def digit (value : Nat) : Char :=
  if value < 10 then Char.ofNat ('0'.toNat + value) else Char.ofNat ('a'.toNat + (value - 10))

def digitValue? (c : Char) : Option Nat :=
  if c.isDigit then some (c.toNat - '0'.toNat)
  else if 'a' ≤ c && c ≤ 'f' then some (c.toNat - 'a'.toNat + 10)
  else if 'A' ≤ c && c ≤ 'F' then some (c.toNat - 'A'.toNat + 10)
  else none

def encodeByte (byte : UInt8) : List Char :=
  [digit (byte.toNat / 16), digit (byte.toNat % 16)]

def encodeBytes (bytes : List UInt8) : List Char :=
  bytes.flatMap encodeByte

def encode (bytes : List UInt8) : String :=
  String.ofList (encodeBytes bytes)

def decode? : List Char → Option (List UInt8)
  | [] => some []
  | high :: low :: rest => do
      let high ← digitValue? high
      let low ← digitValue? low
      let bytes ← decode? rest
      pure (UInt8.ofNat (16 * high + low) :: bytes)
  | [_] => none

/-- The number written by hexadecimal digits, most significant first. -/
def readNat? (digits : List Char) : Option Nat :=
  if digits.isEmpty then
    none
  else
    digits.foldlM (fun value c => (digitValue? c).map (16 * value + ·)) 0

end StreamQuery.Text.Hex

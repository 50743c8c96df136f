/-!
# Bytes as text

UTF-8 read with replacement: every maximal run of bytes that begins a character but cannot end it
stands for one U+FFFD, and so does every byte that begins none. Valid input reads as it is.
-/

namespace StreamQuery.Text.Utf8

def replacement : Char := Char.ofNat 0xFFFD

def isTail (byte : UInt8) : Bool :=
  0x80 ≤ byte && byte ≤ 0xBF

/-- How many bytes a character with this first byte has, `0` when no character starts so. -/
def width (first : UInt8) : Nat :=
  if first < 0x80 then 1
  else if first < 0xC2 then 0
  else if first < 0xE0 then 2
  else if first < 0xF0 then 3
  else if first < 0xF5 then 4
  else 0

/-- The second bytes that may follow a first byte: overlong forms, surrogates and codes past the
last plane are cut off here. -/
def isSecond (first second : UInt8) : Bool :=
  if first == 0xE0 then 0xA0 ≤ second && second ≤ 0xBF
  else if first == 0xED then 0x80 ≤ second && second ≤ 0x9F
  else if first == 0xF0 then 0x90 ≤ second && second ≤ 0xBF
  else if first == 0xF4 then 0x80 ≤ second && second ≤ 0x8F
  else isTail second

def payload (byte : UInt8) : Nat :=
  byte.toNat % 64

/-- The first character of a sequence and how many bytes after the first one belong to it. -/
def readFirst (first : UInt8) (rest : List UInt8) : Char × Nat :=
  match width first, rest with
  | 1, _ => (Char.ofNat first.toNat, 0)
  | 2, b :: _ =>
      if isTail b then (Char.ofNat ((first.toNat % 32) * 64 + payload b), 1)
      else (replacement, 0)
  | 3, b :: more =>
      if isSecond first b then
        match more with
        | c :: _ =>
            if isTail c then
              (Char.ofNat ((first.toNat % 16) * 4096 + payload b * 64 + payload c), 2)
            else (replacement, 1)
        | [] => (replacement, 1)
      else (replacement, 0)
  | 4, b :: more =>
      if isSecond first b then
        match more with
        | c :: most =>
            if isTail c then
              match most with
              | d :: _ =>
                  if isTail d then
                    (Char.ofNat
                      ((first.toNat % 8) * 262144 + payload b * 4096 + payload c * 64 +
                        payload d), 3)
                  else (replacement, 2)
              | [] => (replacement, 2)
            else (replacement, 1)
        | [] => (replacement, 1)
      else (replacement, 0)
  | _, _ => (replacement, 0)

def readOnto (text : String) : List UInt8 → String
  | [] => text
  | first :: rest =>
      let (c, extra) := readFirst first rest
      readOnto (text.push c) (rest.drop extra)
termination_by bytes => bytes.length
decreasing_by exact Nat.lt_succ_of_le (List.drop_sublist _ _).length_le

/-- Bytes read as text with replacement. -/
def decodeLossy (bytes : ByteArray) : String :=
  match String.fromUTF8? bytes with
  | some text => text
  | none => readOnto "" bytes.toList

end StreamQuery.Text.Utf8

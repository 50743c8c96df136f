import StreamQuery.Text.Base64
/-!
# Writing base 64

The text of a byte list in the standard alphabet with padding, and that the reader gives the bytes
back.
-/

namespace StreamQuery.Text.Base64

/-- The standard alphabet. -/
def digit (value : Nat) : Char :=
  if value < 26 then Char.ofNat ('A'.toNat + value)
  else if value < 52 then Char.ofNat ('a'.toNat + (value - 26))
  else if value < 62 then Char.ofNat ('0'.toNat + (value - 52))
  else if value = 62 then '+'
  else '/'

/-- Three bytes are four digits; a group that is cut short is padded. -/
def encode : List UInt8 → List Char
  | [] => []
  | [a] => [digit (a.toNat / 4), digit (a.toNat % 4 * 16), '=', '=']
  | [a, b] =>
      [digit (a.toNat / 4), digit (a.toNat % 4 * 16 + b.toNat / 16), digit (b.toNat % 16 * 4), '=']
  | a :: b :: c :: rest =>
      digit (a.toNat / 4) :: digit (a.toNat % 4 * 16 + b.toNat / 16) ::
        digit (b.toNat % 16 * 4 + c.toNat / 64) :: digit (c.toNat % 64) :: encode rest

theorem digitValue?_digit {value : Nat} (small : value < 64) :
    digitValue? (digit value) = some value := by
  have all : ∀ value : Fin 64, digitValue? (digit value) = some value.val := by decide +kernel
  exact all ⟨value, small⟩

theorem digit_ne_padding {value : Nat} (small : value < 64) : digit value ≠ '=' := by
  intro padding
  have none : digitValue? '=' = .none := by decide
  cases none.symm.trans (padding ▸ digitValue?_digit small)

theorem decodeOne?_encoded (a : UInt8) :
    decodeOne? (digit (a.toNat / 4)) (digit (a.toNat % 4 * 16)) = some [a] := by
  have bound := a.toNat_lt
  rw [decodeOne?, digitValue?_digit (by omega), digitValue?_digit (by omega)]
  have first : a.toNat / 4 * 4 + a.toNat % 4 * 16 / 16 = a.toNat := by omega
  have spare : a.toNat % 4 * 16 % 16 = 0 := by omega
  simp only [Option.bind_eq_bind, Option.bind_some, first, spare, UInt8.ofNat_toNat, if_true]
  rfl

theorem decodeTwo?_encoded (a b : UInt8) :
    decodeTwo? (digit (a.toNat / 4)) (digit (a.toNat % 4 * 16 + b.toNat / 16))
      (digit (b.toNat % 16 * 4)) = some [a, b] := by
  have boundA := a.toNat_lt
  have boundB := b.toNat_lt
  rw [decodeTwo?, digitValue?_digit (by omega), digitValue?_digit (by omega),
    digitValue?_digit (by omega)]
  have first : a.toNat / 4 * 4 + (a.toNat % 4 * 16 + b.toNat / 16) / 16 = a.toNat := by omega
  have second : (a.toNat % 4 * 16 + b.toNat / 16) % 16 * 16 + b.toNat % 16 * 4 / 4 =
      b.toNat := by omega
  have spare : b.toNat % 16 * 4 % 4 = 0 := by omega
  simp only [Option.bind_eq_bind, Option.bind_some, first, second, spare, UInt8.ofNat_toNat,
    if_true]
  rfl

theorem decodeGroup?_encoded (a b c : UInt8) :
    decodeGroup? (digit (a.toNat / 4)) (digit (a.toNat % 4 * 16 + b.toNat / 16))
      (digit (b.toNat % 16 * 4 + c.toNat / 64)) (digit (c.toNat % 64)) = some [a, b, c] := by
  have boundA := a.toNat_lt
  have boundB := b.toNat_lt
  have boundC := c.toNat_lt
  rw [decodeGroup?, digitValue?_digit (by omega), digitValue?_digit (by omega),
    digitValue?_digit (by omega), digitValue?_digit (by omega)]
  have first : a.toNat / 4 * 4 + (a.toNat % 4 * 16 + b.toNat / 16) / 16 = a.toNat := by omega
  have second : (a.toNat % 4 * 16 + b.toNat / 16) % 16 * 16 +
      (b.toNat % 16 * 4 + c.toNat / 64) / 4 = b.toNat := by omega
  have third : (b.toNat % 16 * 4 + c.toNat / 64) % 4 * 64 + c.toNat % 64 = c.toNat := by omega
  simp only [Option.bind_eq_bind, Option.bind_some, first, second, third, UInt8.ofNat_toNat]
  rfl

theorem decode?_group {a b c d : Char} (unpadded : d ≠ '=') (rest : List Char) :
    decode? (a :: b :: c :: d :: rest) =
      (decodeGroup? a b c d).bind fun group => (decode? rest).bind fun bytes =>
        some (group ++ bytes) := by
  rw [decode?]
  · rfl
  · exact fun _ padding => absurd padding unpadded
  · exact fun padding => absurd padding unpadded

theorem decode?_two {a b c : Char} (unpadded : c ≠ '=') :
    decode? [a, b, c, '='] = decodeTwo? a b c := by
  rw [decode?]
  exact unpadded

theorem decode?_encode (bytes : List UInt8) : decode? (encode bytes) = some bytes := by
  induction bytes using encode.induct with
  | case1 => rfl
  | case2 a => exact decodeOne?_encoded a
  | case3 a b =>
      have last : digit (b.toNat % 16 * 4) ≠ '=' := digit_ne_padding (by omega)
      rw [encode, decode?_two last, decodeTwo?_encoded]
  | case4 a b c rest ih =>
      have last : digit (c.toNat % 64) ≠ '=' := digit_ne_padding (by omega)
      rw [encode, decode?_group last, decodeGroup?_encoded, ih]
      rfl

end StreamQuery.Text.Base64

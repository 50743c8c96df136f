import StreamQuery.Literal.Checked
import StreamQuery.Proofs.Text.Scanner
/-!
# What a literal shows to a scan

Numbers hold no character that means anything to a scan, and every string of a literal, at any
depth, is quoted on its own. A byte string is shown as two literals, its digits and the name of
their notation.
-/

namespace StreamQuery

open Decimal Text

/-! ### Numbers -/

theorem isInert_digit {c : Char} (digit : c.isDigit = true) : isInert c = true := by
  simp only [isInert, Bool.and_eq_true, decide_eq_true_eq]
  refine ⟨⟨⟨⟨⟨?_, ?_⟩, ?_⟩, ?_⟩, ?_⟩, ?_⟩ <;> rintro rfl <;> revert digit <;> decide

theorem digitsOf_inert (value : Nat) : (digitsOf value).all isInert = true :=
  List.all_eq_true.mpr fun _ member =>
    isInert_digit (Nat.isDigit_of_mem_toDigits (by decide) (by decide) member)

theorem zeros_inert (count : Nat) : (zeros count).all isInert = true := by
  refine List.all_eq_true.mpr fun c member => ?_
  rw [List.eq_of_mem_replicate member]
  decide

theorem signText_inert (isNegative : Bool) : (signText isNegative).all isInert = true := by
  cases isNegative <;> decide

theorem take_inert {text : List Char} (inert : text.all isInert = true) (count : Nat) :
    (text.take count).all isInert = true :=
  List.all_eq_true.mpr fun c member => List.all_eq_true.mp inert c (List.mem_of_mem_take member)

theorem drop_inert {text : List Char} (inert : text.all isInert = true) (count : Nat) :
    (text.drop count).all isInert = true :=
  List.all_eq_true.mpr fun c member => List.all_eq_true.mp inert c (List.mem_of_mem_drop member)

theorem positional_inert (decimal : Scaled) : decimal.positional.all isInert = true := by
  have digits := digitsOf_inert decimal.digits
  unfold Scaled.positional
  simp only
  split
  · split
    · exact digits
    · simp [digits, zeros_inert]
  · split
    · simp [take_inert digits, drop_inert digits, isInert]
    · simp [digits, zeros_inert, isInert]

theorem doubleText_inert (value : Binary64) : IsInert (Literal.doubleText value) := by
  unfold Literal.doubleText Binary64.toPositional IsInert
  split
  · simp [signText_inert, digitsOf_inert, isInert]
  · split
    · simp [signText_inert, positional_inert]
    · split
      · decide
      · simp [signText_inert, isInert]

theorem nat_inert (value : Nat) : IsInert (toString value) := by
  have digits : (toString value).toList = digitsOf value := Nat.toList_repr
  unfold IsInert
  rw [digits]
  exact digitsOf_inert value

theorem int_inert (value : Int) : IsInert (toString value) := by
  cases value with
  | ofNat value => exact nat_inert value
  | negSucc value =>
      have signed : (toString (Int.negSucc value)).toList = '-' :: digitsOf (value + 1) := by
        have minus : toString (Int.negSucc value) = "-" ++ Nat.repr (value + 1) := rfl
        rw [minus, String.toList_append, Nat.toList_repr]
        rfl
      unfold IsInert
      rw [signed]
      simp [digitsOf_inert, isInert]

theorem hexDigit_unquoted (value : Nat) (small : value < 16) : Hex.digit value ≠ '\'' := by
  have each : ∀ digit : Fin 16, Hex.digit digit ≠ '\'' := by decide
  exact each ⟨value, small⟩

/-! ### Strings -/

namespace Literal

mutual

/-- The strings of a literal in the order in which they are written, a byte string as its
hexadecimal digits and the word `hex`. -/
def strings : Literal → List String
  | .string content => [content]
  | .bytes content => [Hex.encode content, "hex"]
  | .array items => itemStrings items
  | .map entries => entryStrings entries
  | _ => []

def itemStrings : List Literal → List String
  | [] => []
  | item :: rest => strings item ++ itemStrings rest

def entryStrings : List (String × Literal) → List String
  | [] => []
  | (key, value) :: rest => key :: (strings value ++ entryStrings rest)

end

end Literal

/-- Text without quotes is its own inside. -/
theorem doubleQuotes_unquoted {text : List Char} (unquoted : '\'' ∉ text) :
    doubleQuotes text = text := by
  induction text with
  | nil => rfl
  | cons c rest induction =>
      have first : c ≠ '\'' := by
        rintro rfl
        exact unquoted List.mem_cons_self
      rw [doubleQuotes, if_neg first,
        induction fun member => unquoted (List.mem_cons_of_mem _ member)]

theorem hex_unquoted (bytes : List UInt8) : '\'' ∉ (Hex.encode bytes).toList := by
  intro member
  rw [Hex.encode, String.toList_ofList, Hex.encodeBytes, List.mem_flatMap] at member
  obtain ⟨byte, _, digit⟩ := member
  have bound := byte.toNat_lt
  simp only [Hex.encodeByte, List.mem_cons, List.not_mem_nil, or_false] at digit
  rcases digit with high | low
  · exact hexDigit_unquoted _ (by omega) high.symm
  · exact hexDigit_unquoted _ (by omega) low.symm

theorem bytes_text (bytes : List UInt8) :
    "TO_BYTES('" ++ Hex.encode bytes ++ "', 'hex')" =
      "TO_BYTES(" ++ quote (Hex.encode bytes) ++ ", " ++ quote "hex" ++ ")" := by
  apply String.toList_inj.mp
  simp [quote, doubleQuotes_unquoted (hex_unquoted bytes)]
  rfl

namespace Literal

mutual

theorem text_shows : (literal : Literal) → Shows false literal.text literal.strings [] []
  | .null => (Shows.frame (by decide)).soften
  | .boolean true => (Shows.frame (by decide)).soften
  | .boolean false => (Shows.frame (by decide)).soften
  | .integer value => (Shows.inert (int_inert value)).soften
  | .double value => (Shows.inert (doubleText_inert value)).soften
  | .string content => Shows.quoted content
  | .bytes content => by
      have opening : Shows true "TO_BYTES(" [] [] [')'] := .frame (by decide)
      have digits := opening.append ((Shows.quoted (Hex.encode content)).deepen [')'])
      have comma := digits.andThen ", " [')'] (by decide)
      have word := comma.append ((Shows.quoted "hex").deepen [')'])
      have closed := word.andThen ")" [] (by decide)
      rw [text, bytes_text]
      exact closed.soften
  | .array items => by
      have opening : Shows true "ARRAY[" [] [] [']'] := .frame (by decide)
      have inner := opening.append (((items_show items).join ", " (by decide)).deepen [']'])
      have closed := inner.andThen "]" [] (by decide)
      exact closed.soften
  | .map entries => by
      have opening : Shows true "MAP(" [] [] [')'] := .frame (by decide)
      have inner := opening.append (((entries_show entries).join ", " (by decide)).deepen [')'])
      have closed := inner.andThen ")" [] (by decide)
      exact closed.soften

theorem items_show : (items : List Literal) → ShowAll (itemTexts items) (itemStrings items)
  | [] => .nil
  | item :: rest => .cons (text_shows item) (items_show rest)

theorem entries_show : (entries : List (String × Literal)) →
    ShowAll (entryTexts entries) (entryStrings entries)
  | [] => .nil
  | (key, value) :: rest => by
      have named := (Shows.quoted key).andThen " := " [] (by decide)
      have entry := named.append (text_shows value)
      exact .cons entry (entries_show rest)

end

end Literal

end StreamQuery

import StreamQuery.Literal.Checked
import StreamQuery.Proofs.Decimal.ShortestDigits
import StreamQuery.Proofs.Text.Reading
import StreamQuery.Statement.Insert
/-!
# Texts of doubles

The text of a finite double has a point unless the double is a whole number from `10 ^ 15` on. Those
are written with digits only, as an integer is.
-/

namespace StreamQuery

open Decimal Text

namespace Decimal

theorem toDigits_zeros {digits : Nat} (some : 0 < digits) (count : Nat) :
    Nat.toDigits 10 digits ++ zeros count = Nat.toDigits 10 (digits * 10 ^ count) := by
  induction count with
  | zero => simp [zeros]
  | succ count ih =>
      have more : 0 < digits * 10 ^ count := by positivity
      calc Nat.toDigits 10 digits ++ zeros (count + 1) =
          Nat.toDigits 10 (digits * 10 ^ count) ++ Nat.toDigits 10 0 := by
            rw [← ih, zeros, List.replicate_succ', List.append_assoc]
            rfl
        _ = Nat.toDigits 10 (10 * (digits * 10 ^ count) + 0) :=
          Nat.toDigits_append_toDigits (by decide) more (by decide)
        _ = Nat.toDigits 10 (digits * 10 ^ (count + 1)) := by
          congr 1
          ring

namespace Scaled

theorem positional_whole {decimal : Scaled} (some : 0 < decimal.digits)
    (whole : 0 ≤ decimal.exponent) :
    decimal.positional = Nat.toDigits 10 (decimal.digits * 10 ^ decimal.exponent.toNat) := by
  rw [positional, if_pos whole, if_neg some.ne', digitsOf, toDigits_zeros some]

theorem positional_pointed {decimal : Scaled} (fractional : decimal.exponent < 0) :
    '.' ∈ decimal.positional := by
  rw [positional, if_neg (by omega)]
  dsimp only
  split <;> simp

end Scaled

namespace Binary64

variable {value : Binary64}

theorem magnitude_wholePart (integral : value.isIntegral = true) :
    value.magnitude = value.wholePart := by
  have whole : value.fraction.2 ∣ value.fraction.1 := by
    have both : value.isFinite = true ∧ value.fraction.1 % value.fraction.2 = 0 := by
      simpa [isIntegral] using integral
    exact Nat.dvd_of_mod_eq_zero both.2
  have positive : (value.fraction.2 : ℚ) ≠ 0 := by exact_mod_cast value.fraction_pos.ne'
  rw [magnitude, ← ratio_fraction, ratio, wholePart, div_eq_iff positive]
  exact_mod_cast (Nat.div_mul_cancel whole).symm

theorem isIntegral_of_magnitude (finite : value.isFinite = true) {whole : Nat}
    (same : value.magnitude = whole) : value.isIntegral = true := by
  have positive : (value.fraction.2 : ℚ) ≠ 0 := by exact_mod_cast value.fraction_pos.ne'
  rw [magnitude, ← ratio_fraction, ratio, div_eq_iff positive] at same
  have product : value.fraction.1 = whole * value.fraction.2 := by exact_mod_cast same
  simp [isIntegral, finite, product]

/-- Whole numbers from `10 ^ 15` on. -/
def isLargeWhole (value : Binary64) : Bool :=
  value.isIntegral && tenTo 15 ≤ value.wholePart

/-- The whole number that the shortest digits of a large one show. -/
def shownWhole (value : Binary64) : Nat :=
  (value.shortest .away).digits * 10 ^ (value.shortest .away).exponent.toNat

def shownInteger (value : Binary64) : Int :=
  if value.negative then -(value.shownWhole : Int) else value.shownWhole

theorem isLargeWhole_iff : value.isLargeWhole = true ↔
    value.isIntegral = true ∧ 10 ^ 15 ≤ value.wholePart := by
  rw [isLargeWhole, Bool.and_eq_true, decide_eq_true_iff]
  rfl

theorem significand_pos (visible : value.magnitude ≠ 0) : 0 < value.significand := by
  by_contra none
  apply visible
  rw [magnitude, show value.significand = 0 by omega, Nat.cast_zero, zero_mul]

theorem significand_pos_of_large (large : value.isLargeWhole = true) : 0 < value.significand := by
  obtain ⟨integral, large⟩ := isLargeWhole_iff.mp large
  apply significand_pos
  rw [magnitude_wholePart integral]
  exact_mod_cast (show value.wholePart ≠ 0 by omega)

theorem shownWhole_spec (finite : value.isFinite = true) (large : value.isLargeWhole = true) :
    0 < value.shownWhole ∧
      (value.shortest .away).positional = Nat.toDigits 10 value.shownWhole ∧
      |(value.shownWhole : ℚ) - value.magnitude| ≤ 2 ^ value.power / 2 := by
  obtain ⟨integral, reached⟩ := isLargeWhole_iff.mp large
  have some := significand_pos_of_large large
  obtain ⟨positive, near, -⟩ := shortest_near finite some .away
  have whole := shortest_whole finite some .away (magnitude_wholePart integral) reached
  rw [Scaled.amount_whole whole, ← shownWhole] at near
  exact ⟨Nat.mul_pos positive (by positivity), Scaled.positional_whole positive whole, near⟩

theorem fits_iff (value : Binary64) : fitsSigned 64 value.shownInteger = true ↔
    value.shownWhole < 2 ^ 63 ∨ value.shownWhole = 2 ^ 63 ∧ value.negative = true := by
  have size : (wordSize (64 - 1) : Int) = 2 ^ 63 := rfl
  rw [fitsSigned, Bool.and_eq_true, decide_eq_true_iff, decide_eq_true_iff, size, shownInteger]
  cases value.negative with
  | false =>
      simp only [Bool.false_eq_true, if_false, and_false, or_false]
      omega
  | true =>
      simp only [if_true, and_true]
      omega

theorem word_le_magnitude_iff (value : Binary64) :
    (2 : ℚ) ^ 63 ≤ value.magnitude ↔ 11 ≤ value.power := by
  have kept := value.kept
  constructor
  · intro reached
    by_contra less
    have small : (value.significand : ℚ) < 2 ^ 53 := by exact_mod_cast kept.small
    have unit : (2 : ℚ) ^ value.power ≤ 2 ^ (10 : Int) := zpow_le_zpow_right₀ one_le_two (by omega)
    have below : value.magnitude < 2 ^ 53 * 2 ^ (10 : Int) :=
      mul_lt_mul_of_nonneg_of_pos small unit (Nat.cast_nonneg _) (by positivity)
    exact absurd reached (not_le.mpr (below.trans_eq (by norm_num)))
  · intro more
    have filled := kept.filled.resolve_right (by omega)
    have filled : (2 : ℚ) ^ 52 ≤ value.significand := by
      exact_mod_cast (show 2 ^ 52 ≤ value.significand by omega)
    have unit : (2 : ℚ) ^ (11 : Int) ≤ 2 ^ value.power := zpow_le_zpow_right₀ one_le_two more
    calc (2 : ℚ) ^ 63 = 2 ^ 52 * 2 ^ (11 : Int) := by norm_num
      _ ≤ value.magnitude := mul_le_mul filled unit (by positivity) (Nat.cast_nonneg _)

theorem shownWhole_small (finite : value.isFinite = true) (large : value.isLargeWhole = true)
    (low : value.power ≤ 10) : value.shownWhole < 2 ^ 63 := by
  obtain ⟨-, -, near⟩ := shownWhole_spec finite large
  have near := abs_le.mp near
  have small : (value.significand : ℚ) ≤ 2 ^ 53 - 1 := by
    have natural : value.significand + 1 ≤ 2 ^ 53 := value.kept.small
    have natural : (value.significand : ℚ) + 1 ≤ 2 ^ 53 := by exact_mod_cast natural
    linarith
  have positive : (0 : ℚ) < 2 ^ value.power := by positivity
  have unit : (2 : ℚ) ^ value.power ≤ 2 ^ (10 : Int) := zpow_le_zpow_right₀ one_le_two low
  have below : (value.shownWhole : ℚ) < 2 ^ 63 := by
    rw [magnitude] at near
    norm_num at unit
    nlinarith
  exact_mod_cast below

/-- The least double past the word is shown as a number past it, and so are all greater ones. -/
theorem shownWhole_past (finite : value.isFinite = true) (large : value.isLargeWhole = true)
    (high : 11 ≤ value.power) : 2 ^ 63 < value.shownWhole := by
  obtain ⟨-, -, near⟩ := shownWhole_spec finite large
  have near := abs_le.mp near
  have filled := value.kept.filled.resolve_right (by omega)
  by_cases first : value.power = 11 ∧ value.significand = 2 ^ 52
  · have same := value.pack_fields
    rw [first.1, first.2] at same
    rw [← same]
    cases value.negative <;> decide +kernel
  · have above : (2 : ℚ) ^ 63 < (value.significand - 1 / 2) * 2 ^ value.power := by
      rcases (show value.power = 11 ∨ 12 ≤ value.power by omega) with next | more
      · have filled : (2 : ℚ) ^ 52 + 1 ≤ value.significand := by
          exact_mod_cast (show 2 ^ 52 + 1 ≤ value.significand by omega)
        rw [next]
        norm_num
        linarith
      · have filled : (2 : ℚ) ^ 52 ≤ value.significand := by
          exact_mod_cast (show 2 ^ 52 ≤ value.significand by omega)
        have unit : (2 : ℚ) ^ (12 : Int) ≤ 2 ^ value.power := zpow_le_zpow_right₀ one_le_two more
        norm_num at unit
        nlinarith
    have past : (2 : ℚ) ^ 63 < value.shownWhole := by
      rw [magnitude] at near
      linarith
    exact_mod_cast past

/-- Exactly the large whole numbers below `2 ^ 63` are shown as integers of the word. -/
theorem shownInteger_fits (finite : value.isFinite = true) (large : value.isLargeWhole = true) :
    fitsSigned 64 value.shownInteger = true ↔ value.wholePart < 2 ^ 63 := by
  have bound : value.wholePart < 2 ^ 63 ↔ value.power ≤ 10 := by
    have word := value.word_le_magnitude_iff
    rw [magnitude_wholePart (isLargeWhole_iff.mp large).1] at word
    have word : 2 ^ 63 ≤ value.wholePart ↔ 11 ≤ value.power := by
      rw [← word]
      exact_mod_cast Iff.rfl
    omega
  rw [bound, fits_iff]
  constructor
  · intro fits
    by_contra high
    have past := shownWhole_past finite large (by omega)
    omega
  · exact fun low => .inl (shownWhole_small finite large low)

end Binary64

end Decimal

namespace Literal

/-- A point, or the letter of an exponent. -/
def IsMarked (text : String) : Prop :=
  '.' ∈ text.toList ∨ 'e' ∈ text.toList ∨ 'E' ∈ text.toList

theorem integer_unmarked (number : Int) : ¬IsMarked (integer number).text := by
  have digits : ∀ c ∈ Nat.toDigits 10 number.natAbs, c.isDigit = true := fun c member =>
    Nat.isDigit_of_mem_toDigits (by decide) (by decide) member
  have chars : ∀ c ∈ (integer number).text.toList, c.isDigit = true ∨ c = '-' := by
    rw [text, int_chars]
    split
    · exact List.forall_mem_cons.mpr ⟨.inr rfl, fun c member => .inl (digits c member)⟩
    · exact fun c member => .inl (digits c member)
  rintro (point | small | great)
  · exact absurd (chars _ point) (by decide)
  · exact absurd (chars _ small) (by decide)
  · exact absurd (chars _ great) (by decide)

theorem integer_text_injective {left right : Int}
    (same : (integer left).text = (integer right).text) : left = right := by
  have chars : (toString left).toList = (toString right).toList := congrArg String.toList same
  have read := congrArg readInt? chars
  rw [readInt?_toString, readInt?_toString] at read
  exact Option.some.inj read

theorem double_text_large {value : Binary64} (finite : value.isFinite = true)
    (large : value.isLargeWhole = true) :
    (double value).text = (integer value.shownInteger).text := by
  obtain ⟨positive, positional, -⟩ := Binary64.shownWhole_spec finite large
  obtain ⟨integral, reached⟩ := Binary64.isLargeWhole_iff.mp large
  have notShort : (value.isIntegral && value.wholePart < tenTo 15) = false := by
    rw [integral, Bool.true_and, decide_eq_false_iff_not]
    exact not_lt.mpr reached
  have chars : (double value).text.toList =
      signText value.negative ++ Nat.toDigits 10 value.shownWhole := by
    rw [text, doubleText, notShort, Binary64.toPositional, finite]
    simp only [Bool.false_eq_true, if_false, if_true, String.toList_ofList, positional]
  apply String.toList_injective
  rw [chars, text, int_chars, Binary64.shownInteger]
  cases value.negative with
  | false =>
      rw [if_neg (by simp)]
      simp [signText]
  | true =>
      rw [if_pos (by simpa using positive)]
      simp [signText]

theorem double_text_pointed {value : Binary64} (finite : value.isFinite = true)
    (short : value.isLargeWhole = false) : '.' ∈ (double value).text.toList := by
  rw [text, doubleText]
  split
  · simp
  · next long =>
      have fractional : value.isIntegral ≠ true := by
        intro integral
        rw [integral, Bool.true_and, decide_eq_true_iff, not_lt] at long
        rw [Binary64.isLargeWhole_iff.mpr ⟨integral, long⟩] at short
        cases short
      have apart (whole : Nat) : value.magnitude ≠ whole := fun same =>
        fractional (Binary64.isIntegral_of_magnitude finite same)
      have some : 0 < value.significand := Binary64.significand_pos (by exact_mod_cast apart 0)
      have point := Scaled.positional_pointed (Binary64.shortest_fractional finite some .away apart)
      rw [Binary64.toPositional, if_pos finite, String.toList_ofList]
      exact List.mem_append_right _ point

/-- A finite double is written with a point, unless it is a whole number from `10 ^ 15` on, which is
written as an integer, within the word or past it. -/
theorem double_text {value : Binary64} (finite : value.isFinite = true) :
    (IsMarked (double value).text ↔ value.isLargeWhole = false) ∧
    ((∃ number, (integer number).text = (double value).text) ↔ value.isLargeWhole = true) ∧
    ((∃ number, fitsSigned 64 number = true ∧ (integer number).text = (double value).text) ↔
      value.isLargeWhole = true ∧ value.wholePart < 2 ^ 63) := by
  cases large : value.isLargeWhole with
  | false =>
      have marked : IsMarked (double value).text := .inl (double_text_pointed finite large)
      have apart (number : Int) : (integer number).text ≠ (double value).text := fun same =>
        integer_unmarked number (same ▸ marked)
      simp [marked, apart]
  | true =>
      have same := double_text_large finite large
      have unmarked : ¬IsMarked (double value).text := same ▸ integer_unmarked _
      have fits := Binary64.shownInteger_fits finite large
      refine ⟨by simp [unmarked], ⟨fun _ => rfl, fun _ => ⟨_, same.symm⟩⟩, ?_⟩
      constructor
      · rintro ⟨number, within, shown⟩
        obtain rfl := integer_text_injective (shown.trans same)
        exact ⟨rfl, fits.mp within⟩
      · rintro ⟨-, below⟩
        exact ⟨_, fits.mpr below, same.symm⟩

/-- The double `10 ^ 15`. -/
def quadrillion : Binary64 :=
  ⟨0x430C6BF526340000⟩

/-- The least double has a point, and `10 ^ 15` is an integer of the word. -/
theorem least_marked :
    IsMarked (double ⟨1⟩).text ∧
      ∃ number, fitsSigned 64 number = true ∧ (integer number).text = (double quadrillion).text :=
  have least : Binary64.isFinite ⟨1⟩ = true := by decide
  have finite : quadrillion.isFinite = true := by decide
  ⟨(double_text least).1.mpr (by decide +kernel),
    (double_text finite).2.2.mpr ⟨by decide +kernel, by decide +kernel⟩⟩

/-- A column of a row and a comparison with it are written the same with either number. -/
theorem quadrillion_unmarked :
    quadrillion.isFinite = true ∧ ¬IsMarked (double quadrillion).text ∧
      (double quadrillion).text = (integer (10 ^ 15)).text ∧
      ((Insert.start "r").value "x" (double quadrillion)).text =
        ((Insert.start "r").value "x" (integer (10 ^ 15))).text ∧
      (Expr.comparison (.field ⟨none, "x", none⟩) .equal (some (.value (double quadrillion)))
        none).operandText = .ok "x = 1000000000000000" := by
  have same : (double quadrillion).text = (integer (10 ^ 15)).text := by decide +kernel
  have checked : (double quadrillion).checkedText = (integer (10 ^ 15)).checkedText :=
    congrArg Except.ok same
  have written : (integer (10 ^ 15)).checkedText = .ok "1000000000000000" := rfl
  refine ⟨by decide, same ▸ integer_unmarked _, same, ?_, ?_⟩
  · simp only [Insert.value, Insert.start, Insert.setValue, Insert.text, Insert.valueTexts, checked,
      List.map_cons, List.map_nil]
  · rw [Expr.operandText]
    simp only [optionText, Operand.text, checked, written]
    rfl

end Literal

end StreamQuery

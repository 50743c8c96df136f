import Mathlib.Algebra.Order.Field.Power
import Mathlib.Data.Rat.Cast.Order
import Mathlib.Tactic.FieldSimp
import Mathlib.Tactic.Linarith
import Mathlib.Tactic.Positivity
import Mathlib.Tactic.Ring
import StreamQuery.Decimal.Binary64
/-!
# Representable numbers

Rounding leaves a number as it is when the format can hold it. So a double that single precision can
hold comes back unchanged from a rounding to single precision. A number that is not too great for the
format is rounded to one that it can hold, and so the integers of a word become finite doubles.
-/

namespace StreamQuery.Decimal

/-- The rational number that a fraction stands for. -/
def ratio (fraction : Nat × Nat) : ℚ :=
  fraction.1 / fraction.2

theorem twoTo_cast (exponent : Nat) : (twoTo exponent : ℚ) = 2 ^ exponent := by
  simp [twoTo]

theorem twoTo_pos (exponent : Nat) : 0 < twoTo exponent :=
  Nat.pow_pos (by decide)

theorem scaledBy_pos {numerator denominator : Nat} (positive : 0 < denominator) (power : Int) :
    0 < (scaledBy numerator denominator power).2 := by
  unfold scaledBy
  split
  · exact Nat.mul_pos positive (twoTo_pos _)
  · exact positive

theorem ratio_scaledBy (numerator denominator : Nat) (power : Int) :
    ratio (scaledBy numerator denominator power) =
      (numerator : ℚ) / denominator / 2 ^ power := by
  unfold scaledBy ratio
  split
  · next up =>
      have natural : (2 : ℚ) ^ power = 2 ^ power.toNat := by
        rw [← zpow_natCast, Int.toNat_of_nonneg up]
      push_cast [twoTo_cast]
      rw [natural, div_div]
  · next down =>
      have natural : (2 : ℚ) ^ power = (2 ^ (-power).toNat)⁻¹ := by
        rw [← zpow_natCast, Int.toNat_of_nonneg (by omega), zpow_neg, inv_inv]
      push_cast [twoTo_cast]
      rw [natural, div_inv_eq_mul, div_mul_eq_mul_div]

theorem roundHalfEven_exact {numerator denominator whole : Nat} (positive : 0 < denominator)
    (same : numerator = whole * denominator) : roundHalfEven numerator denominator = whole := by
  subst same
  have some : denominator ≠ 0 := by omega
  simp [roundHalfEven, Nat.mul_div_cancel _ positive, Ne.symm some]

theorem roundHalfEven_le {numerator denominator bound : Nat}
    (below : numerator / denominator < bound) : roundHalfEven numerator denominator ≤ bound := by
  unfold roundHalfEven
  simp only []
  split <;> omega

/-- The quotient of naturals reaches a natural when the rational number does. -/
theorem le_div_iff_ratio {fraction : Nat × Nat} (positive : 0 < fraction.2) (bound : Nat) :
    bound ≤ fraction.1 / fraction.2 ↔ (bound : ℚ) ≤ ratio fraction := by
  rw [Nat.le_div_iff_mul_le positive, ratio, le_div_iff₀ (by exact_mod_cast positive)]
  exact_mod_cast Iff.rfl

namespace BinaryFormat

variable (format : BinaryFormat) {numerator denominator : Nat}

/-- A fraction lies within a factor of two around the power of two between its lengths in bits. -/
theorem log2_bounds (some : 0 < numerator) (positive : 0 < denominator) :
    (2 : ℚ) ^ ((numerator.log2 : Int) - denominator.log2) < 2 * (numerator / denominator) ∧
      (numerator : ℚ) / denominator < 2 * 2 ^ ((numerator.log2 : Int) - denominator.log2) := by
  have low : (2 : ℚ) ^ numerator.log2 ≤ numerator := by
    exact_mod_cast Nat.log2_self_le (by omega)
  have high : (numerator : ℚ) < 2 ^ numerator.log2 * 2 := by
    rw [← pow_succ]
    exact_mod_cast Nat.lt_log2_self
  have lowBelow : (2 : ℚ) ^ denominator.log2 ≤ denominator := by
    exact_mod_cast Nat.log2_self_le (by omega)
  have highBelow : (denominator : ℚ) < 2 ^ denominator.log2 * 2 := by
    rw [← pow_succ]
    exact_mod_cast Nat.lt_log2_self
  have below : (0 : ℚ) < denominator := by exact_mod_cast positive
  have power : (0 : ℚ) < 2 ^ denominator.log2 := by positivity
  rw [zpow_sub₀ two_ne_zero, zpow_natCast, zpow_natCast]
  constructor
  · rw [← mul_div_assoc, div_lt_div_iff₀ power below]
    nlinarith
  · rw [← mul_div_assoc, div_lt_div_iff₀ below power]
    nlinarith

/-- The power is the one at which the whole part fills the significand, or the least one. -/
theorem powerFor_bounds (some : 0 < numerator) (positive : 0 < denominator) :
    ∃ power : Int, format.powerFor numerator denominator = max power format.leastPower ∧
      (2 : ℚ) ^ format.precision * 2 ^ power ≤ 2 * (numerator / denominator) ∧
      (numerator : ℚ) / denominator < 2 ^ format.precision * 2 ^ power := by
  obtain ⟨low, high⟩ := log2_bounds some positive
  have guess : (2 : ℚ) ^ format.precision *
        2 ^ ((numerator.log2 : Int) - denominator.log2 - format.precision) =
      2 ^ ((numerator.log2 : Int) - denominator.log2) := by
    rw [← zpow_natCast, ← zpow_add₀ two_ne_zero]
    congr 1
    omega
  have next : (2 : ℚ) ^ ((numerator.log2 : Int) - denominator.log2 - format.precision + 1) =
      2 ^ ((numerator.log2 : Int) - denominator.log2 - format.precision) * 2 :=
    zpow_add_one₀ two_ne_zero _
  have scale : (0 : ℚ) < 2 ^ ((numerator.log2 : Int) - denominator.log2 - format.precision) := by
    positivity
  refine ⟨_, rfl, ?_⟩
  simp only [le_div_iff_ratio (scaledBy_pos positive _), ratio_scaledBy, twoTo_cast,
    le_div_iff₀ scale, guess]
  split
  · next full =>
      rw [next, ← mul_assoc, guess]
      constructor <;> linarith
  · next short =>
      rw [guess]
      exact ⟨low.le, not_le.1 short⟩

/-- A number that the format can hold is rounded to itself. -/
theorem round_exact {significand : Nat} {power : Int} (some : 0 < numerator)
    (positive : 0 < denominator) (small : significand < 2 ^ format.precision)
    (low : format.leastPower ≤ power) (high : power ≤ format.greatestPower)
    (same : (numerator : ℚ) / denominator = significand * 2 ^ power) :
    ∃ (whole : Nat) (least : Int), format.round numerator denominator = .some (whole, least) ∧
      (whole : ℚ) * 2 ^ least = numerator / denominator ∧ whole < 2 ^ format.precision ∧
      format.leastPower ≤ least ∧
      (2 ^ format.precision ≤ 2 * whole ∨ least = format.leastPower) := by
  obtain ⟨fitted, chosen, lower, upper⟩ := format.powerFor_bounds some positive
  have fills : (0 : ℚ) < 2 ^ format.precision := by positivity
  have smallRatio : (significand : ℚ) < 2 ^ format.precision := by exact_mod_cast small
  have fittedLow : fitted ≤ power := by
    have below : (2 : ℚ) ^ format.precision * 2 ^ fitted <
        2 ^ format.precision * 2 ^ (power + 1) := by
      calc (2 : ℚ) ^ format.precision * 2 ^ fitted ≤ 2 * (significand * 2 ^ power) := same ▸ lower
        _ < 2 * (2 ^ format.precision * 2 ^ power) := by
          have scale : (0 : ℚ) < 2 ^ power := by positivity
          nlinarith
        _ = 2 ^ format.precision * 2 ^ (power + 1) := by
          rw [zpow_add_one₀ two_ne_zero]
          ring
    have less := (zpow_lt_zpow_iff_right₀ one_lt_two).1 (lt_of_mul_lt_mul_left below fills.le)
    omega
  -- The number is a natural multiple of the chosen power of two.
  obtain ⟨least, isLeast⟩ : ∃ least, least = max fitted format.leastPower := ⟨_, rfl⟩
  obtain ⟨shift, shifted⟩ : ∃ shift : Nat, power = least + shift :=
    ⟨(power - least).toNat, by omega⟩
  have whole : (numerator : ℚ) / denominator = (significand * 2 ^ shift : Nat) * 2 ^ least := by
    rw [same, shifted, zpow_add₀ two_ne_zero, zpow_natCast]
    push_cast
    ring
  have scale : (0 : ℚ) < 2 ^ least := by positivity
  have wholeSmall : significand * 2 ^ shift < 2 ^ format.precision := by
    have below : ((significand * 2 ^ shift : Nat) : ℚ) * 2 ^ least <
        2 ^ format.precision * 2 ^ least := by
      calc ((significand * 2 ^ shift : Nat) : ℚ) * 2 ^ least = numerator / denominator := whole.symm
        _ < 2 ^ format.precision * 2 ^ fitted := upper
        _ ≤ 2 ^ format.precision * 2 ^ least :=
          mul_le_mul_of_nonneg_left
            (zpow_le_zpow_right₀ one_le_two (isLeast ▸ le_max_left _ _)) fills.le
    exact_mod_cast lt_of_mul_lt_mul_right below scale.le
  have rounded : roundHalfEven (scaledBy numerator denominator least).1
      (scaledBy numerator denominator least).2 = significand * 2 ^ shift := by
    have pos : 0 < (scaledBy numerator denominator least).2 := scaledBy_pos positive least
    refine roundHalfEven_exact pos ?_
    have exact : ratio (scaledBy numerator denominator least) =
        (significand * 2 ^ shift : Nat) := by
      rw [ratio_scaledBy, whole, mul_div_assoc, div_self scale.ne', mul_one]
    rw [ratio, div_eq_iff (by exact_mod_cast pos.ne')] at exact
    exact_mod_cast exact
  refine ⟨significand * 2 ^ shift, least, ?_, whole.symm, wholeSmall, by omega, ?_⟩
  · simp only [round, chosen, ← isLeast, rounded]
    rw [if_neg (show ¬significand * 2 ^ shift = twoTo format.precision from wholeSmall.ne),
      if_neg (show ¬format.greatestPower < least by omega)]
  · rcases max_choice fitted format.leastPower with chosen | chosen
    · left
      have filled : (2 : ℚ) ^ format.precision * 2 ^ least ≤
          (2 * (significand * 2 ^ shift) : Nat) * 2 ^ least := by
        calc (2 : ℚ) ^ format.precision * 2 ^ least ≤ 2 * (numerator / denominator) := by
              rw [isLeast, chosen]
              exact lower
          _ = (2 * (significand * 2 ^ shift) : Nat) * 2 ^ least := by
            rw [whole]
            push_cast
            ring
      exact_mod_cast le_of_mul_le_mul_right filled scale
    · exact .inr (isLeast.trans chosen)

/-- A number well below the greatest of a format is rounded to one that the format can hold. -/
theorem round_bounded (some : 0 < numerator) (positive : 0 < denominator) {bound : Int}
    (below : (numerator : ℚ) / denominator ≤ 2 ^ format.precision * 2 ^ bound)
    (low : format.leastPower ≤ bound + 1) (high : bound + 2 ≤ format.greatestPower) :
    ∃ (whole : Nat) (least : Int), format.round numerator denominator = .some (whole, least) ∧
      whole < 2 ^ format.precision ∧ format.leastPower ≤ least ∧ least ≤ format.greatestPower := by
  obtain ⟨fitted, chosen, lower, upper⟩ := format.powerFor_bounds some positive
  have fills : (0 : ℚ) < 2 ^ format.precision := by positivity
  have fittedLow : fitted ≤ bound + 1 := by
    have twice : (2 : ℚ) ^ format.precision * 2 ^ fitted ≤
        2 ^ format.precision * 2 ^ (bound + 1) := by
      rw [zpow_add_one₀ two_ne_zero]
      linarith
    exact (zpow_le_zpow_iff_right₀ one_lt_two).1 (le_of_mul_le_mul_left twice fills)
  obtain ⟨least, isLeast⟩ : ∃ least, least = max fitted format.leastPower := ⟨_, rfl⟩
  have scale : (0 : ℚ) < 2 ^ least := by positivity
  have quotient : (scaledBy numerator denominator least).1 /
      (scaledBy numerator denominator least).2 < 2 ^ format.precision := by
    by_contra full
    have full := (le_div_iff_ratio (scaledBy_pos positive least) _).1 (not_lt.1 full)
    rw [ratio_scaledBy, le_div_iff₀ scale] at full
    push_cast at full
    have grows : (2 : ℚ) ^ fitted ≤ 2 ^ least :=
      zpow_le_zpow_right₀ one_le_two (isLeast ▸ le_max_left _ _)
    nlinarith
  have rounded := roundHalfEven_le quotient
  simp only [round, chosen, ← isLeast]
  split
  · next full =>
      have half : twoTo format.precision / 2 < 2 ^ format.precision :=
        Nat.div_lt_self (twoTo_pos _) (by decide)
      rw [if_neg (by omega), full]
      exact ⟨_, _, rfl, half, by omega, by omega⟩
  · next short =>
      rw [if_neg (by omega)]
      exact ⟨_, _, rfl, lt_of_le_of_ne rounded short, by omega, by omega⟩

end BinaryFormat

/-- Significand and power as a double keeps them: the significand is filled unless the power is the
least one. -/
structure Kept (significand : Nat) (power : Int) : Prop where
  small : significand < 2 ^ 53
  low : -1074 ≤ power
  filled : 2 ^ 53 ≤ 2 * significand ∨ power = -1074

/-- A larger power would need a significand past the bound. -/
theorem Kept.power_le {left right : Nat} {lower upper : Int} (first : Kept left lower)
    (second : Kept right upper) (same : (left : ℚ) * 2 ^ lower = right * 2 ^ upper) :
    upper ≤ lower := by
  by_contra less
  obtain ⟨shift, shifted⟩ : ∃ shift : Nat, upper = lower + (shift + 1 : Nat) :=
    ⟨(upper - lower - 1).toNat, by omega⟩
  have scale : (2 : ℚ) ^ lower ≠ 0 := by positivity
  have whole : (left : ℚ) = (right * 2 ^ (shift + 1) : Nat) := by
    rw [shifted, zpow_add₀ two_ne_zero, zpow_natCast, mul_left_comm, mul_comm (left : ℚ)] at same
    push_cast
    exact mul_left_cancel₀ scale same
  have whole : left = right * 2 ^ (shift + 1) := by exact_mod_cast whole
  have grown : right * 2 ≤ left := by
    rw [whole]
    exact Nat.mul_le_mul_left right (Nat.le_self_pow (by omega) 2)
  have bound := first.small
  have filled := second.filled
  have low := first.low
  omega

theorem Kept.unique {left right : Nat} {lower upper : Int} (first : Kept left lower)
    (second : Kept right upper) (same : (left : ℚ) * 2 ^ lower = right * 2 ^ upper) :
    left = right ∧ lower = upper := by
  obtain rfl : lower = upper :=
    le_antisymm (second.power_le first same.symm) (first.power_le second same)
  have scale : (2 : ℚ) ^ lower ≠ 0 := by positivity
  exact ⟨by exact_mod_cast mul_right_cancel₀ scale same, rfl⟩

namespace Binary64

variable {value : Binary64}

theorem fractionBits_lt (value : Binary64) : value.fractionBits < 2 ^ 52 :=
  Nat.mod_lt _ (twoTo_pos 52)

/-- Sign, exponent and fraction are all there is to a double. -/
theorem bits_split (value : Binary64) :
    value.bits.toNat =
      signBit value.negative + (value.exponentBits * 2 ^ 52 + value.fractionBits) := by
  have bound := value.bits.toNat_lt
  simp only [signBit, negative, exponentBits, fractionBits, decide_eq_true_eq,
    show twoTo 63 = 2 ^ 63 from rfl, show twoTo 52 = 2 ^ 52 from rfl,
    show twoTo 11 = 2 ^ 11 from rfl]
  split <;> omega

theorem kept (value : Binary64) : Kept value.significand value.power := by
  have fraction := value.fractionBits_lt
  have unit : twoTo 52 = 2 ^ 52 := rfl
  unfold significand power
  split
  · exact ⟨by omega, by omega, by omega⟩
  · exact ⟨by omega, by omega, by omega⟩

theorem power_le (finite : value.isFinite = true) : value.power ≤ 971 := by
  have special : value.exponentBits ≠ 2047 := by simpa [isFinite] using finite
  have bound : value.exponentBits < 2048 := Nat.mod_lt _ (twoTo_pos 11)
  unfold power
  split <;> omega

theorem pack_fields (value : Binary64) :
    pack value.negative value.significand value.power = value := by
  have fraction := value.fractionBits_lt
  have unit : twoTo 52 = 2 ^ 52 := rfl
  have magnitude : (if value.significand < twoTo 52 then value.significand
      else (value.power + 1075).toNat * twoTo 52 + (value.significand - twoTo 52)) =
        value.exponentBits * 2 ^ 52 + value.fractionBits := by
    by_cases least : value.exponentBits = 0
    · have significand : value.significand = value.fractionBits := if_pos least
      rw [significand, unit, if_pos fraction, least, Nat.zero_mul, Nat.zero_add]
    · have significand : value.significand = 2 ^ 52 + value.fractionBits := by
        rw [Binary64.significand, if_neg least, unit]
      have power : value.power = value.exponentBits - 1075 := by rw [Binary64.power, if_neg least]
      rw [significand, power, unit, if_neg (by omega)]
      omega
  simp only [pack, magnitude, ← bits_split, UInt64.ofNat_toNat]

theorem fraction_pos (value : Binary64) : 0 < value.fraction.2 := by
  unfold fraction
  split
  · exact Nat.one_pos
  · exact twoTo_pos _

theorem ratio_fraction (value : Binary64) :
    ratio value.fraction = value.significand * 2 ^ value.power := by
  unfold fraction ratio
  split
  · next up =>
      have natural : (2 : ℚ) ^ value.power = 2 ^ value.power.toNat := by
        rw [← zpow_natCast, Int.toNat_of_nonneg up]
      push_cast [twoTo_cast]
      rw [natural, div_one]
  · next down =>
      have natural : (2 : ℚ) ^ value.power = (2 ^ (-value.power).toNat)⁻¹ := by
        rw [← zpow_natCast, Int.toNat_of_nonneg (by omega), zpow_neg, inv_inv]
      push_cast [twoTo_cast]
      rw [natural, div_eq_mul_inv]

/-- A double is the one nearest to its own value. -/
theorem ofFraction_exact (finite : value.isFinite = true) {numerator denominator : Nat}
    (some : 0 < numerator) (positive : 0 < denominator)
    (same : (numerator : ℚ) / denominator = value.significand * 2 ^ value.power) :
    ofFraction value.negative numerator denominator = value := by
  obtain ⟨whole, least, rounded, exact, small, low, filled⟩ :=
    BinaryFormat.double.round_exact some positive value.kept.small value.kept.low
      (power_le finite) same
  obtain ⟨rfl, rfl⟩ := Kept.unique ⟨small, low, filled⟩ value.kept (exact.trans same)
  rw [ofFraction, if_neg some.ne', rounded]
  exact value.pack_fields

theorem pack_isFinite (isNegative : Bool) {significand : Nat} {power : Int}
    (small : significand < 2 ^ 53) (high : power ≤ 971) :
    (pack isNegative significand power).isFinite = true := by
  have size : ∃ magnitude < 2047 * 2 ^ 52, pack isNegative significand power =
      ⟨UInt64.ofNat (signBit isNegative + magnitude)⟩ := by
    refine ⟨_, ?_, rfl⟩
    rw [show twoTo 52 = 2 ^ 52 from rfl]
    split <;> omega
  obtain ⟨magnitude, less, packed⟩ := size
  have sign : signBit isNegative = 0 ∨ signBit isNegative = 2 ^ 63 := by
    cases isNegative
    · exact .inl rfl
    · exact .inr rfl
  have word : (UInt64.ofNat (signBit isNegative + magnitude)).toNat =
      signBit isNegative + magnitude := by
    apply UInt64.toNat_ofNat_of_lt'
    have size : UInt64.size = 2 ^ 64 := rfl
    omega
  have exponent : (signBit isNegative + magnitude) / 2 ^ 52 % 2 ^ 11 ≠ 2047 := by omega
  rw [packed, isFinite, exponentBits, word]
  exact bne_iff_ne.mpr exponent

/-- Integers of a word, signed or not, are not too great for a double. -/
theorem ofInt_isFinite {value : Int} (bounded : value.natAbs ≤ 2 ^ 64) :
    (ofInt value).isFinite = true := by
  unfold ofInt ofFraction
  by_cases none : value.natAbs = 0
  · rw [if_pos none]
    exact pack_isFinite _ (by decide) (by decide)
  · have below : (value.natAbs : ℚ) / (1 : Nat) ≤
        2 ^ BinaryFormat.double.precision * 2 ^ (11 : Int) := by
      have cast : (value.natAbs : ℚ) ≤ 2 ^ 64 := by exact_mod_cast bounded
      rw [Nat.cast_one, div_one]
      refine cast.trans (le_of_eq ?_)
      norm_num [BinaryFormat.double]
    obtain ⟨whole, least, rounded, small, -, high⟩ := BinaryFormat.double.round_bounded
      (Nat.pos_of_ne_zero none) Nat.one_pos below (by decide) (by decide)
    rw [if_neg none, rounded]
    exact pack_isFinite _ small high

/-- True of the doubles that single precision can hold. -/
def IsSingle (value : Binary64) : Prop :=
  value.isFinite = true ∧ ∃ (significand : Nat) (power : Int),
    significand < 2 ^ 24 ∧ -149 ≤ power ∧ power ≤ 104 ∧
      (value.significand : ℚ) * 2 ^ value.power = significand * 2 ^ power

theorem throughSingle_exact (single : value.IsSingle) : value.throughSingle = value := by
  obtain ⟨finite, significand, power, small, low, high, same⟩ := single
  have fraction : (value.fraction.1 : ℚ) / value.fraction.2 =
      value.significand * 2 ^ value.power := value.ratio_fraction
  have positive := value.fraction_pos
  rw [throughSingle, if_pos finite, ofFractionThroughSingle]
  by_cases none : value.fraction.1 = 0
  · have zero : value.significand = 0 := by
      have scale : (2 : ℚ) ^ value.power ≠ 0 := by positivity
      rw [none, Nat.cast_zero, zero_div] at fraction
      exact_mod_cast (mul_eq_zero.1 fraction.symm).resolve_right scale
    have least : value.power = -1074 := value.kept.filled.resolve_left (by omega)
    rw [if_pos none, ← zero, ← least]
    exact value.pack_fields
  · have some : 0 < value.fraction.1 := by omega
    obtain ⟨whole, least, rounded, exact, -, -, -⟩ :=
      BinaryFormat.single.round_exact some positive small low high (fraction.trans same)
    have shown : ratio (scaledBy whole 1 (-least)) = value.significand * 2 ^ value.power := by
      rw [ratio_scaledBy, Nat.cast_one, div_one, zpow_neg, div_inv_eq_mul, exact, fraction]
    have visible : 0 < (scaledBy whole 1 (-least)).1 := by
      have size : (0 : ℚ) < value.fraction.1 / value.fraction.2 := by positivity
      rw [fraction, ← shown, ratio] at size
      by_contra gone
      rw [show (scaledBy whole 1 (-least)).1 = 0 by omega] at size
      simp at size
    rw [if_neg none, rounded]
    exact ofFraction_exact finite visible (scaledBy_pos Nat.one_pos _) shown

end Binary64

end StreamQuery.Decimal

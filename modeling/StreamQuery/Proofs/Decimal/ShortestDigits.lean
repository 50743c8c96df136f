import StreamQuery.Decimal.Shortest
import StreamQuery.Proofs.Decimal.Representable
/-!
# The shortest digits of a double

Seventeen digits are enough for every finite double. So some grid has a neighbour that reads back,
and the shortest decimal lies within half a unit of the significand around the double.
-/

namespace StreamQuery.Decimal

theorem tenTo_cast (exponent : Nat) : (tenTo exponent : ℚ) = 10 ^ exponent := by
  simp [tenTo]

theorem tenTo_pos (exponent : Nat) : 0 < tenTo exponent :=
  Nat.pow_pos (by decide)

theorem tenTo_up {exponent : Int} (up : 0 ≤ exponent) :
    (10 : ℚ) ^ exponent = tenTo exponent.toNat := by
  rw [tenTo_cast, ← zpow_natCast, Int.toNat_of_nonneg up]

theorem tenTo_down {exponent : Int} (down : ¬0 ≤ exponent) :
    (10 : ℚ) ^ exponent = (tenTo (-exponent).toNat : ℚ)⁻¹ := by
  rw [tenTo_cast, ← zpow_natCast, Int.toNat_of_nonneg (by omega), zpow_neg, inv_inv]

/-! ### Powers of two and of ten -/

/-- Powers compare as their exponents do by two fractions around the logarithm. -/
theorem two_le_ten {two ten : Int} (above : 28 * two ≤ 93 * ten) (below : 31 * two ≤ 103 * ten) :
    (2 : ℚ) ^ two ≤ 10 ^ ten := by
  obtain ⟨size, rfl | rfl⟩ := two.eq_nat_or_neg
  · have root : ((2 : ℚ) ^ (size : Int)) ^ 93 ≤ (10 ^ ten) ^ 93 := by
      calc ((2 : ℚ) ^ (size : Int)) ^ 93 = (2 ^ 93) ^ size := by
            rw [zpow_natCast, ← pow_mul, ← pow_mul, mul_comm]
        _ ≤ (10 ^ 28) ^ size := pow_le_pow_left₀ (by norm_num) (by norm_num) size
        _ = 10 ^ (28 * size : Int) := by
            rw [← pow_mul, ← zpow_natCast]
            norm_cast
        _ ≤ 10 ^ (ten * 93) := zpow_le_zpow_right₀ (by norm_num) (by omega)
        _ = (10 ^ ten) ^ 93 := by rw [zpow_mul]; norm_cast
    exact (pow_le_pow_iff_left₀ (by positivity) (by positivity) (by norm_num)).mp root
  · have root : ((2 : ℚ) ^ (-size : Int)) ^ 103 ≤ (10 ^ ten) ^ 103 := by
      calc ((2 : ℚ) ^ (-size : Int)) ^ 103 = ((2 ^ 103) ^ size)⁻¹ := by
            rw [zpow_neg, zpow_natCast, inv_pow, ← pow_mul, ← pow_mul, mul_comm]
        _ ≤ ((10 ^ 31) ^ size)⁻¹ := by
            refine inv_anti₀ (by positivity) ?_
            exact pow_le_pow_left₀ (by norm_num) (by norm_num) size
        _ = 10 ^ (-(31 * size) : Int) := by
            rw [← pow_mul, zpow_neg, ← zpow_natCast]
            norm_cast
        _ ≤ 10 ^ (ten * 103) := zpow_le_zpow_right₀ (by norm_num) (by omega)
        _ = (10 ^ ten) ^ 103 := by rw [zpow_mul]; norm_cast
    exact (pow_le_pow_iff_left₀ (by positivity) (by positivity) (by norm_num)).mp root

theorem ten_le_two {two ten : Int} (above : 93 * ten ≤ 28 * two) (below : 103 * ten ≤ 31 * two) :
    (10 : ℚ) ^ ten ≤ 2 ^ two := by
  have opposite : (2 : ℚ) ^ (-two) ≤ 10 ^ (-ten) := two_le_ten (by omega) (by omega)
  rw [zpow_neg, zpow_neg] at opposite
  exact (inv_le_inv₀ (by positivity) (by positivity)).mp opposite

theorem reaches_iff {numerator denominator : Nat} (positive : 0 < denominator) (exponent : Int) :
    (if 0 ≤ exponent then decide (denominator * tenTo exponent.toNat ≤ numerator)
      else decide (denominator ≤ numerator * tenTo (-exponent).toNat)) = true ↔
      (10 : ℚ) ^ exponent ≤ numerator / denominator := by
  have below : (0 : ℚ) < denominator := by exact_mod_cast positive
  split
  · next up =>
      rw [decide_eq_true_iff, tenTo_up up, le_div_iff₀ below, mul_comm]
      exact_mod_cast Iff.rfl
  · next down =>
      have scale : (0 : ℚ) < tenTo (-exponent).toNat := by exact_mod_cast tenTo_pos _
      rw [decide_eq_true_iff, tenTo_down down, le_div_iff₀ below, inv_mul_le_iff₀ scale, mul_comm]
      exact_mod_cast Iff.rfl

theorem leadingExponent_bounds {numerator denominator : Nat} (some : 0 < numerator)
    (positive : 0 < denominator) (least : (2 : ℚ) ^ (-1074 : Int) ≤ numerator / denominator)
    (greatest : (numerator : ℚ) / denominator < 2 ^ (1024 : Int)) :
    (10 : ℚ) ^ leadingExponent numerator denominator ≤ numerator / denominator ∧
      (numerator : ℚ) / denominator < 10 ^ (leadingExponent numerator denominator + 1) := by
  obtain ⟨low, high⟩ := BinaryFormat.log2_bounds some positive
  simp only [leadingExponent, reaches_iff positive]
  generalize (numerator.log2 : Int) - denominator.log2 = bits at *
  generalize (numerator : ℚ) / denominator = number at *
  have few : bits < 1025 := by
    have less : (2 : ℚ) ^ bits < 2 ^ (1025 : Int) := by
      rw [show (1025 : Int) = 1024 + 1 from rfl, zpow_add_one₀ two_ne_zero]
      linarith
    exact (zpow_lt_zpow_iff_right₀ one_lt_two).mp less
  have many : -1075 < bits := by
    have less : (2 : ℚ) ^ (-1075 : Int) < 2 ^ bits := by
      rw [show (-1074 : Int) = -1075 + 1 from rfl, zpow_add_one₀ two_ne_zero] at least
      linarith
    exact (zpow_lt_zpow_iff_right₀ one_lt_two).mp less
  have under : (10 : ℚ) ^ (bits * 30103 / 100000 - 1) ≤ number := by
    have power : (10 : ℚ) ^ (bits * 30103 / 100000 - 1) ≤ 2 ^ (bits - 1) :=
      ten_le_two (by omega) (by omega)
    rw [zpow_sub_one₀ two_ne_zero] at power
    linarith
  have short : number < 10 ^ (bits * 30103 / 100000 - 1 + 2 + 1) := by
    have power : (2 : ℚ) ^ (bits + 1) ≤ 10 ^ (bits * 30103 / 100000 - 1 + 2 + 1) :=
      two_le_ten (by omega) (by omega)
    rw [zpow_add_one₀ two_ne_zero] at power
    linarith
  -- The guess is the exponent, or one or two less.
  split
  · next reached => exact ⟨reached, short⟩
  · next missed =>
      have missed := not_le.mp missed
      split
      · next reached => exact ⟨reached, by rwa [add_assoc]⟩
      · next missed => exact ⟨under, not_le.mp missed⟩

/-! ### Grids -/

namespace RoundingInterval

variable {range : RoundingInterval} {tie : Tie} {exponent : Int}

theorem holds_inside {point : Nat} (above : range.low < point) (below : point < range.high) :
    range.holds point = true := by
  unfold holds
  split
  · simp [above.le, below.le]
  · simp [above, below]

theorem holds_bounds {point : Nat} (held : range.holds point = true) :
    range.low ≤ point ∧ point ≤ range.high := by
  unfold holds at held
  split at held
  · simpa using held
  · have inside : range.low < point ∧ point < range.high := by simpa using held
    exact ⟨inside.1.le, inside.2.le⟩

/-- The interval over a denominator that is greater by a factor. -/
def scaled (range : RoundingInterval) (factor : Nat) : RoundingInterval :=
  { range with
    low := range.low * factor
    value := range.value * factor
    high := range.high * factor }

theorem onGrid_scaled (range : RoundingInterval) (exponent : Int) :
    ∃ factor : Nat, 0 < factor ∧ (range.onGrid exponent).1 = range.scaled factor ∧
      ((range.onGrid exponent).2 : ℚ) = range.denominator * 10 ^ exponent * factor := by
  unfold onGrid
  split
  · next up =>
      refine ⟨1, Nat.one_pos, by simp only [scaled, Nat.mul_one], ?_⟩
      rw [tenTo_up up, Nat.cast_one, mul_one, Nat.cast_mul]
  · next down =>
      have scale : (tenTo (-exponent).toNat : ℚ) ≠ 0 := by exact_mod_cast (tenTo_pos _).ne'
      refine ⟨tenTo (-exponent).toNat, tenTo_pos _, rfl, ?_⟩
      rw [tenTo_down down, inv_mul_cancel_right₀ scale]

theorem nearest?_holds {digits : Nat} (found : range.nearest? tie exponent = some digits) :
    0 < digits ∧ (range.onGrid exponent).1.holds (digits * (range.onGrid exponent).2) = true := by
  unfold nearest? at found
  simp only [Bool.and_eq_true, decide_eq_true_eq] at found
  split_ifs at found with both closer below above
  · cases found
    exact both.1
  · cases found
    exact ⟨Nat.succ_pos _, both.2⟩
  · cases found
    exact below
  · cases found
    exact ⟨Nat.succ_pos _, above⟩

theorem nearest?_missing (missing : range.nearest? tie exponent = none)
    (some : 0 < (range.onGrid exponent).1.value / (range.onGrid exponent).2) :
    let below := (range.onGrid exponent).1.value / (range.onGrid exponent).2
    (range.onGrid exponent).1.holds (below * (range.onGrid exponent).2) = false ∧
      (range.onGrid exponent).1.holds ((below + 1) * (range.onGrid exponent).2) = false := by
  unfold nearest? at missing
  simp only [Bool.and_eq_true, decide_eq_true_eq, some, true_and] at missing
  split_ifs at missing with both closer belowHolds aboveHolds
  exact ⟨Bool.eq_false_of_not_eq_true belowHolds, Bool.eq_false_of_not_eq_true aboveHolds⟩

/-- What is found reads back. -/
theorem nearest?_bounds {digits : Nat} (found : range.nearest? tie exponent = some digits) :
    0 < digits ∧ (range.low : ℚ) ≤ digits * 10 ^ exponent * range.denominator ∧
      (digits : ℚ) * 10 ^ exponent * range.denominator ≤ range.high := by
  obtain ⟨factor, positive, grid, unit⟩ := range.onGrid_scaled exponent
  obtain ⟨some, held⟩ := nearest?_holds found
  obtain ⟨low, high⟩ := holds_bounds held
  have scale : (0 : ℚ) < factor := by exact_mod_cast positive
  have point : ((digits * (range.onGrid exponent).2 : Nat) : ℚ) =
      digits * 10 ^ exponent * range.denominator * factor := by
    push_cast
    rw [unit]
    ring
  rw [grid] at low high
  have low : ((range.low * factor : Nat) : ℚ) ≤ _ := Nat.cast_le.mpr low
  have high : _ ≤ ((range.high * factor : Nat) : ℚ) := Nat.cast_le.mpr high
  rw [point, Nat.cast_mul] at low high
  exact ⟨some, le_of_mul_le_mul_right low scale, le_of_mul_le_mul_right high scale⟩

/-- One of the neighbours lies inside if the value is one, or if a step is less than the width. -/
theorem holds_neighbour (low : range.low < range.value) (high : range.value < range.high)
    {step : Nat} (positive : 0 < step)
    (dense : step ∣ range.value ∨ range.low + step < range.high) :
    range.holds (range.value / step * step) = true ∨
      range.holds ((range.value / step + 1) * step) = true := by
  have below := Nat.div_mul_le_self range.value step
  have above := Nat.lt_div_mul_add positive (a := range.value)
  rw [Nat.add_one_mul]
  rcases dense with whole | fine
  · rw [Nat.div_mul_cancel whole]
    exact .inl (holds_inside low high)
  · by_cases inside : range.low < range.value / step * step
    · exact .inl (holds_inside inside (by omega))
    · exact .inr (holds_inside (by omega) (by omega))

/-- The value stands on the grid, or the grid is finer than the interval is wide. -/
def Dense (range : RoundingInterval) (step : ℚ) : Prop :=
  (∃ whole : Nat, (range.value : ℚ) = whole * step) ∨ (range.low : ℚ) + step < range.high

theorem Dense.scaled {unit : ℚ} (dense : range.Dense unit) {factor step : Nat}
    (grown : 0 < factor) (same : (step : ℚ) = unit * factor) :
    step ∣ (range.scaled factor).value ∨
      (range.scaled factor).low + step < (range.scaled factor).high := by
  have scale : (0 : ℚ) < factor := by exact_mod_cast grown
  rcases dense with ⟨whole, stands⟩ | fine
  · left
    refine ⟨whole, ?_⟩
    have natural : (range.value : ℚ) * factor = step * whole := by
      rw [stands, same]
      ring
    exact_mod_cast natural
  · right
    have natural : (range.low : ℚ) * factor + step < range.high * factor := by
      calc (range.low : ℚ) * factor + step = (range.low + unit) * factor := by rw [same, add_mul]
        _ < range.high * factor := mul_lt_mul_of_pos_right fine scale
    exact_mod_cast natural

theorem nearest?_found (low : range.low < range.value) (high : range.value < range.high)
    (positive : 0 < range.denominator)
    (reached : (10 : ℚ) ^ exponent * range.denominator ≤ range.value)
    (dense : range.Dense (10 ^ exponent * range.denominator)) :
    ∃ digits, range.nearest? tie exponent = some digits := by
  cases found : range.nearest? tie exponent with
  | some digits => exact ⟨digits, rfl⟩
  | none =>
      exfalso
      obtain ⟨factor, grown, grid, unit⟩ := range.onGrid_scaled exponent
      have missing := nearest?_missing found
      generalize (range.onGrid exponent).2 = step at unit missing
      rw [grid] at missing
      rw [mul_comm (range.denominator : ℚ)] at unit
      have scale : (0 : ℚ) < factor := by exact_mod_cast grown
      have some : 0 < step := by
        have positive : (0 : ℚ) < range.denominator := by exact_mod_cast positive
        exact_mod_cast (show (0 : ℚ) < step by rw [unit]; positivity)
      have reached : step ≤ (range.scaled factor).value := by
        have natural : (step : ℚ) ≤ range.value * factor := by
          rw [unit]
          exact mul_le_mul_of_nonneg_right reached scale.le
        exact_mod_cast natural
      have less : (range.scaled factor).low < (range.scaled factor).value :=
        Nat.mul_lt_mul_of_pos_right low grown
      have greater : (range.scaled factor).value < (range.scaled factor).high :=
        Nat.mul_lt_mul_of_pos_right high grown
      obtain ⟨belowMissing, aboveMissing⟩ := missing (Nat.div_pos reached some)
      rcases holds_neighbour less greater some (dense.scaled grown unit) with held | held
      · cases held.symm.trans belowMissing
      · cases held.symm.trans aboveMissing

theorem searchGrids_found {leading : Int} {target digits : Nat}
    (found : range.nearest? tie (leading + 1 - target) = some digits) {fuel count : Nat}
    (begun : count ≤ target) (ends : target < count + fuel) :
    ∃ fewest other, searchGrids tie range leading fuel count = ⟨other, leading + 1 - fewest⟩ ∧
      (fewest : Int) ≤ target ∧ range.nearest? tie (leading + 1 - fewest) = some other := by
  induction fuel generalizing count with
  | zero => omega
  | succ fuel ih =>
      rw [searchGrids]
      cases here : range.nearest? tie (leading + 1 - count) with
      | some other => exact ⟨count, other, by simp only, by omega, here⟩
      | none =>
          have later : count ≠ target := by
            rintro rfl
            cases here.symm.trans found
          exact ih (by omega) (by omega)

end RoundingInterval

/-- The number that a decimal stands for. -/
def Scaled.amount (decimal : Scaled) : ℚ :=
  decimal.digits * 10 ^ decimal.exponent

theorem Scaled.amount_whole {decimal : Scaled} (whole : 0 ≤ decimal.exponent) :
    decimal.amount = (decimal.digits * 10 ^ decimal.exponent.toNat : Nat) := by
  rw [amount, tenTo_up whole, tenTo_cast]
  push_cast
  rfl

theorem Scaled.trimZeros_amount (fuel : Nat) (decimal : Scaled) :
    (decimal.trimZeros fuel).amount = decimal.amount ∧
      decimal.exponent ≤ (decimal.trimZeros fuel).exponent ∧
      (0 < decimal.digits → 0 < (decimal.trimZeros fuel).digits) := by
  induction fuel generalizing decimal with
  | zero => exact ⟨rfl, le_rfl, id⟩
  | succ fuel ih =>
      rw [trimZeros]
      split
      · next trailing =>
          obtain ⟨same, grown, some⟩ := ih ⟨decimal.digits / 10, decimal.exponent + 1⟩
          have whole : (decimal.digits : ℚ) = (decimal.digits / 10 : Nat) * 10 := by
            exact_mod_cast (Nat.div_mul_cancel (Nat.dvd_of_mod_eq_zero trailing.2)).symm
          have grown : decimal.exponent + 1 ≤ _ := grown
          refine ⟨?_, by omega, fun _ => some ?_⟩
          · rw [same, amount, amount, whole, zpow_add_one₀ (by norm_num)]
            ring
          · show 0 < decimal.digits / 10
            omega
      · exact ⟨rfl, le_rfl, id⟩

/-! ### The interval of a double -/

namespace Binary64

variable {value : Binary64}

def magnitude (value : Binary64) : ℚ :=
  value.significand * 2 ^ value.power

theorem magnitude_bounds (finite : value.isFinite = true) (some : 0 < value.significand) :
    (2 : ℚ) ^ (-1074 : Int) ≤ value.magnitude ∧ value.magnitude < 2 ^ (1024 : Int) := by
  have kept := value.kept
  have scale : (0 : ℚ) < 2 ^ value.power := by positivity
  have one : (1 : ℚ) ≤ value.significand := by exact_mod_cast some
  constructor
  · calc (2 : ℚ) ^ (-1074 : Int) ≤ 2 ^ value.power := zpow_le_zpow_right₀ one_le_two kept.low
      _ ≤ value.magnitude := le_mul_of_one_le_left scale.le one
  · have small : (value.significand : ℚ) < 2 ^ (53 : Int) := by exact_mod_cast kept.small
    calc value.magnitude < 2 ^ (53 : Int) * 2 ^ value.power := mul_lt_mul_of_pos_right small scale
      _ = 2 ^ (53 + value.power) := (zpow_add₀ two_ne_zero _ _).symm
      _ ≤ 2 ^ (1024 : Int) := by
          have high := power_le finite
          exact zpow_le_zpow_right₀ one_le_two (by omega)

/-- The interval reaches half a unit of the significand to both sides, or a quarter of one below a
power of two. -/
theorem interval_bounds (some : 0 < value.significand) :
    ∃ below : ℚ, (below = 1 / 2 ∨ below = 1 / 4 ∧ value.significand = 2 ^ 52) ∧
      0 < value.interval.denominator ∧
      (value.interval.low : ℚ) = (value.significand - below) * 2 ^ value.power *
        value.interval.denominator ∧
      (value.interval.value : ℚ) = value.magnitude * value.interval.denominator ∧
      (value.interval.high : ℚ) = (value.significand + 1 / 2) * 2 ^ value.power *
        value.interval.denominator := by
  have positive : 0 < (scaledBy 1 4 (-value.power)).2 := scaledBy_pos (by decide) _
  have quarter : ((scaledBy 1 4 (-value.power)).1 : ℚ) =
      2 ^ value.power / 4 * (scaledBy 1 4 (-value.power)).2 := by
    have exact := ratio_scaledBy 1 4 (-value.power)
    rw [ratio, div_eq_iff (by exact_mod_cast positive.ne'), zpow_neg, div_inv_eq_mul] at exact
    rw [exact]
    push_cast
    ring
  have low (below : Nat) (few : below ≤ 2) :
      (((4 * value.significand - below) * (scaledBy 1 4 (-value.power)).1 : Nat) : ℚ) =
        (value.significand - below / 4) * 2 ^ value.power *
          (scaledBy 1 4 (-value.power)).2 := by
    rw [Nat.cast_mul, Nat.cast_sub (by omega), quarter]
    push_cast
    ring
  have middle : ((4 * value.significand * (scaledBy 1 4 (-value.power)).1 : Nat) : ℚ) =
      value.magnitude * (scaledBy 1 4 (-value.power)).2 := by
    rw [Nat.cast_mul, quarter, magnitude]
    push_cast
    ring
  have high : (((4 * value.significand + 2) * (scaledBy 1 4 (-value.power)).1 : Nat) : ℚ) =
      (value.significand + 1 / 2) * 2 ^ value.power * (scaledBy 1 4 (-value.power)).2 := by
    rw [Nat.cast_mul, quarter]
    push_cast
    ring
  by_cases atPower : (value.significand = twoTo 52 && 1 < value.exponentBits) = true
  · refine ⟨(1 : Nat) / 4, .inr ⟨by norm_num, ?_⟩, positive, ?_, middle, high⟩
    · simp only [Bool.and_eq_true, decide_eq_true_eq] at atPower
      exact atPower.1
    · refine Eq.trans ?_ (low 1 (by decide))
      rw [interval, atPower]
      rfl
  · refine ⟨(2 : Nat) / 4, .inl (by norm_num), positive, ?_, middle, high⟩
    refine Eq.trans ?_ (low 2 le_rfl)
    rw [interval, Bool.eq_false_of_not_eq_true atPower]
    rfl

/-- The exponent of the leading decimal digit. -/
def leading (value : Binary64) : Int :=
  leadingExponent value.interval.value value.interval.denominator

theorem leading_bounds (finite : value.isFinite = true) (some : 0 < value.significand) :
    (10 : ℚ) ^ value.leading ≤ value.magnitude ∧
      value.magnitude < 10 ^ (value.leading + 1) := by
  obtain ⟨-, -, positive, -, middle, -⟩ := interval_bounds some
  obtain ⟨least, greatest⟩ := magnitude_bounds finite some
  have scale : (0 : ℚ) < value.interval.denominator := by exact_mod_cast positive
  have same : (value.interval.value : ℚ) / value.interval.denominator = value.magnitude := by
    rw [middle, mul_div_cancel_right₀ _ scale.ne']
  have visible : 0 < value.interval.value := by
    have above : (0 : ℚ) < value.interval.value := by
      rw [middle]
      exact mul_pos (lt_of_lt_of_le (by positivity) least) scale
    exact_mod_cast above
  have bounds := leadingExponent_bounds visible positive (same ▸ least) (same ▸ greatest)
  rwa [same] at bounds

/-- A decimal is found on a grid that the double stands on, and on one of seventeen digits. -/
theorem nearest?_interval (tie : Tie) {exponent : Int} (some : 0 < value.significand)
    (reached : (10 : ℚ) ^ exponent ≤ value.magnitude)
    (dense : (∃ whole : Nat, value.magnitude = whole * 10 ^ exponent) ∨
      (10 : ℚ) ^ exponent * 10 ^ 16 ≤ value.magnitude) :
    ∃ digits, value.interval.nearest? tie exponent = .some digits := by
  obtain ⟨below, sides, positive, low, middle, high⟩ := interval_bounds some
  have scale : (0 : ℚ) < value.interval.denominator := by exact_mod_cast positive
  have unit : (0 : ℚ) < 2 ^ value.power := by positivity
  have apart : 0 < below := by
    rcases sides with rfl | ⟨rfl, -⟩ <;> norm_num
  have less : value.interval.low < value.interval.value := by
    have natural : (value.interval.low : ℚ) < value.interval.value := by
      rw [low, middle, magnitude]
      exact mul_lt_mul_of_pos_right (mul_lt_mul_of_pos_right (by linarith) unit) scale
    exact_mod_cast natural
  have greater : value.interval.value < value.interval.high := by
    have natural : (value.interval.value : ℚ) < value.interval.high := by
      rw [middle, high, magnitude]
      exact mul_lt_mul_of_pos_right (mul_lt_mul_of_pos_right (by linarith) unit) scale
    exact_mod_cast natural
  refine RoundingInterval.nearest?_found less greater positive ?_ ?_
  · rw [middle]
    exact mul_le_mul_of_nonneg_right reached scale.le
  · rcases dense with ⟨whole, same⟩ | fine
    · left
      exact ⟨whole, by rw [middle, same, mul_assoc]⟩
    · right
      -- A significand is below `10 ^ 16`, so the grid is finer than the interval is wide.
      have step : (10 : ℚ) ^ exponent < (below + 1 / 2) * 2 ^ value.power := by
        rw [magnitude] at fine
        rcases sides with rfl | ⟨rfl, atPower⟩
        · have small : (value.significand : ℚ) < 2 ^ 53 := by exact_mod_cast value.kept.small
          nlinarith
        · rw [atPower] at fine
          push_cast at fine
          nlinarith
      rw [low, high]
      nlinarith

theorem shortest_eq (some : 0 < value.significand) (tie : Tie) : value.shortest tie =
    (searchGrids tie value.interval value.leading 17 1).trimZeros 17 := by
  rw [shortest, if_neg some.ne']
  rfl

/-- The shortest decimal lies within half a unit of the significand, and is no longer than any that
is found. -/
theorem shortest_of_found {tie : Tie} (some : 0 < value.significand) {target digits : Nat}
    (found : value.interval.nearest? tie (value.leading + 1 - target) = .some digits)
    (begun : 1 ≤ target) (ends : target ≤ 17) :
    0 < (value.shortest tie).digits ∧
      |(value.shortest tie).amount - value.magnitude| ≤ 2 ^ value.power / 2 ∧
      value.leading + 1 - target ≤ (value.shortest tie).exponent := by
  obtain ⟨fewest, other, searched, few, here⟩ :=
    RoundingInterval.searchGrids_found found begun (show target < 1 + 17 by omega)
  obtain ⟨positive, low, high⟩ := RoundingInterval.nearest?_bounds here
  obtain ⟨below, sides, denominator, lowSame, -, highSame⟩ := interval_bounds some
  rw [shortest_eq some, searched]
  obtain ⟨same, grown, kept⟩ := Scaled.trimZeros_amount 17 ⟨other, value.leading + 1 - fewest⟩
  have grown : value.leading + 1 - fewest ≤ _ := grown
  refine ⟨kept positive, ?_, by omega⟩
  have scale : (0 : ℚ) < value.interval.denominator := by exact_mod_cast denominator
  have unit : (0 : ℚ) < 2 ^ value.power := by positivity
  rw [lowSame] at low
  rw [highSame] at high
  have low := le_of_mul_le_mul_right low scale
  have high := le_of_mul_le_mul_right high scale
  have near : below ≤ 1 / 2 := by
    rcases sides with rfl | ⟨rfl, -⟩ <;> norm_num
  rw [same, Scaled.amount, magnitude, abs_le]
  constructor <;> nlinarith

/-- A shortest decimal always exists, and it has at most seventeen digits. -/
theorem shortest_near (finite : value.isFinite = true) (some : 0 < value.significand) (tie : Tie) :
    0 < (value.shortest tie).digits ∧
      |(value.shortest tie).amount - value.magnitude| ≤ 2 ^ value.power / 2 ∧
      value.leading - 16 ≤ (value.shortest tie).exponent := by
  obtain ⟨reached, -⟩ := leading_bounds finite some
  have grid : (10 : ℚ) ^ (value.leading + 1 - (17 : Nat)) * 10 ^ 16 = 10 ^ value.leading := by
    rw [← zpow_natCast, ← zpow_add₀ (by norm_num)]
    congr 1
    omega
  have finer : (10 : ℚ) ^ (value.leading + 1 - (17 : Nat)) ≤ 10 ^ value.leading :=
    zpow_le_zpow_right₀ (by norm_num) (by omega)
  obtain ⟨digits, found⟩ := nearest?_interval tie some (finer.trans reached)
    (.inr (grid.trans_le reached))
  obtain ⟨positive, near, above⟩ := shortest_of_found some found (by decide) le_rfl
  exact ⟨positive, near, by omega⟩

/-- The decimal of a whole number of more than fifteen digits is whole. -/
theorem shortest_whole (finite : value.isFinite = true) (some : 0 < value.significand) (tie : Tie)
    {whole : Nat} (same : value.magnitude = whole) (large : 10 ^ 15 ≤ whole) :
    0 ≤ (value.shortest tie).exponent := by
  obtain ⟨reached, short⟩ := leading_bounds finite some
  have large : (10 : ℚ) ^ (15 : Int) ≤ value.magnitude := by
    rw [same]
    exact_mod_cast large
  have places : 15 < value.leading + 1 :=
    (zpow_lt_zpow_iff_right₀ (by norm_num)).mp (large.trans_lt short)
  rcases (show value.leading = 15 ∨ 16 ≤ value.leading by omega) with sixteen | more
  · -- Sixteen digits give the number itself.
    have grid : value.leading + 1 - (16 : Nat) = 0 := by omega
    have one : (10 : ℚ) ^ (value.leading + 1 - (16 : Nat)) ≤ value.magnitude := by
      rw [grid, zpow_zero]
      exact le_trans (by norm_num) large
    obtain ⟨digits, found⟩ := nearest?_interval tie some one
      (.inl ⟨whole, by rw [grid, zpow_zero, mul_one, same]⟩)
    obtain ⟨-, -, above⟩ := shortest_of_found some found (by decide) (by decide)
    omega
  · obtain ⟨-, -, above⟩ := shortest_near finite some tie
    omega

/-- A double that is within half a unit of a whole number is whole. -/
theorem whole_of_near {point : Nat} (near : |(point : ℚ) - value.magnitude| ≤ 2 ^ value.power / 2) :
    ∃ whole : Nat, value.magnitude = whole := by
  rcases (show 0 ≤ value.power ∨ 0 ≤ -value.power by omega) with up | down
  · obtain ⟨shift, power⟩ := Int.eq_ofNat_of_zero_le up
    refine ⟨value.significand * 2 ^ shift, ?_⟩
    rw [magnitude, power]
    push_cast
    rfl
  · obtain ⟨shift, power⟩ := Int.eq_ofNat_of_zero_le down
    refine ⟨point, ?_⟩
    have unit : (0 : ℚ) < 2 ^ value.power := by positivity
    -- The unit divides one, so the whole number is a multiple of it.
    have scaled : (point : ℚ) = (point * 2 ^ shift : Nat) * 2 ^ value.power := by
      rw [show value.power = -(shift : Int) by omega]
      push_cast
      rw [zpow_neg, zpow_natCast, mul_inv_cancel_right₀ (by positivity)]
    rw [scaled, magnitude, ← sub_mul, abs_mul, abs_of_pos unit, div_eq_inv_mul,
      mul_le_mul_iff_left₀ unit] at near
    have close : |((point * 2 ^ shift : Nat) : Int) - value.significand| < 1 := by
      have natural : |((point * 2 ^ shift : Nat) : ℚ) - value.significand| < 1 :=
        near.trans_lt (by norm_num)
      exact_mod_cast natural
    have same : ((point * 2 ^ shift : Nat) : Int) = value.significand :=
      sub_eq_zero.mp (Int.abs_lt_one_iff.mp close)
    rw [scaled, magnitude]
    congr 1
    exact_mod_cast same.symm

theorem shortest_fractional (finite : value.isFinite = true) (some : 0 < value.significand)
    (tie : Tie) (fractional : ∀ whole : Nat, value.magnitude ≠ whole) :
    (value.shortest tie).exponent < 0 := by
  by_contra whole
  obtain ⟨-, near, -⟩ := shortest_near finite some tie
  rw [Scaled.amount_whole (not_lt.mp whole)] at near
  obtain ⟨whole, same⟩ := whole_of_near near
  exact fractional whole same

end Binary64

end StreamQuery.Decimal

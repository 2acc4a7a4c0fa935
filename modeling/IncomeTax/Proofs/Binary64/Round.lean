import IncomeTax.Binary64
import Mathlib.Algebra.Order.Field.Power
import Mathlib.Algebra.Order.Field.Rat
import Mathlib.Tactic.FieldSimp
import Mathlib.Tactic.Linarith
import Mathlib.Tactic.Positivity
import Mathlib.Tactic.Ring
import Mathlib.Tactic.Zify

/-!
# Rounding to double precision

A quotient of moderate size is rounded to a significand of exactly 53 bits, and it lies among the
numbers that are nearer to the result than to its neighbours. These make up an interval around the
result. It reaches half a unit of the last bit to either side, except below a power of two, where
the neighbour is nearer and it reaches a quarter. Its ends belong to it when the significand is
even.

## Main definitions

* `Binary64.IsNear` — the numbers that round to a given significand and exponent

## Main results

* `Binary64.floorLog2_spec` — the binary logarithm of a quotient, rounded down
* `Binary64.exists_round` — a quotient is near to what it is rounded to
-/

namespace IncomeTax

/-- A power with an integer exponent, as the quotient of two whole numbers. -/
theorem zpow_eq_div {b : ℚ} (nonzero : b ≠ 0) (e : ℤ) : b ^ e = b ^ e.toNat / b ^ (-e).toNat := by
  rw [← zpow_natCast, ← zpow_natCast, ← zpow_sub₀ nonzero]
  congr 1
  omega

namespace RoundedQuotient

/-- The rounded quotient is at most one half away from the quotient, and less when it is odd. -/
theorem halfEven_bounds (n : ℕ) {divisor : ℕ} (positive : 0 < divisor) :
    2 * halfEven n divisor * divisor ≤ 2 * n + divisor ∧
      2 * n ≤ (2 * halfEven n divisor + 1) * divisor ∧
      (halfEven n divisor % 2 = 1 → 2 * halfEven n divisor * divisor ≠ 2 * n + divisor ∧
        2 * n ≠ (2 * halfEven n divisor + 1) * divisor) := by
  have parts := Nat.div_add_mod' n divisor
  have below := Nat.mod_lt n positive
  have up : 2 * (n / divisor + 1) * divisor = 2 * (n / divisor * divisor) + 2 * divisor := by ring
  have up' : (2 * (n / divisor + 1) + 1) * divisor =
      2 * (n / divisor * divisor) + 3 * divisor := by ring
  have down : 2 * (n / divisor) * divisor = 2 * (n / divisor * divisor) := by ring
  have down' : (2 * (n / divisor) + 1) * divisor = 2 * (n / divisor * divisor) + divisor := by ring
  unfold halfEven
  simp only
  split_ifs <;> simp only [up, up', down, down'] <;> omega

/-- The same bounds for the quotient itself. -/
theorem halfEven_spec (n : ℕ) {divisor : ℕ} (positive : 0 < divisor) :
    (halfEven n divisor - 1 / 2 : ℚ) ≤ n / divisor ∧
      (n / divisor : ℚ) ≤ halfEven n divisor + 1 / 2 ∧
      (halfEven n divisor % 2 = 1 → (n / divisor : ℚ) ≠ halfEven n divisor - 1 / 2 ∧
        (n / divisor : ℚ) ≠ halfEven n divisor + 1 / 2) := by
  obtain ⟨below, above, inside⟩ := halfEven_bounds n positive
  have positive : (0 : ℚ) < divisor := by exact_mod_cast positive
  generalize halfEven n divisor = q at below above inside ⊢
  have below : (2 * q * divisor : ℚ) ≤ 2 * n + divisor := by exact_mod_cast below
  have above : (2 * n : ℚ) ≤ (2 * q + 1) * divisor := by exact_mod_cast above
  refine ⟨?_, ?_, fun odd => ⟨fun same => (inside odd).1 ?_, fun same => (inside odd).2 ?_⟩⟩
  · rw [le_div_iff₀ positive]
    linarith
  · rw [div_le_iff₀ positive]
    linarith
  · rw [div_eq_iff positive.ne'] at same
    have same : (2 * q * divisor : ℚ) = 2 * n + divisor := by linarith
    exact_mod_cast same
  · rw [div_eq_iff positive.ne'] at same
    have same : (2 * n : ℚ) = (2 * q + 1) * divisor := by linarith
    exact_mod_cast same

end RoundedQuotient

namespace Binary64

theorem powerOfTwo_div (e : ℤ) : ((powerOfTwo e).1 / (powerOfTwo e).2 : ℚ) = 2 ^ e := by
  rw [zpow_eq_div two_ne_zero, powerOfTwo]
  norm_num

theorem powerOfTwo_pos (e : ℤ) : 0 < (powerOfTwo e).1 ∧ 0 < (powerOfTwo e).2 :=
  ⟨Nat.pow_pos (by decide), Nat.pow_pos (by decide)⟩

/-- The comparison of a quotient with a power of two, in whole numbers. -/
theorem powerOfTwo_le_iff {n d : ℕ} (positive : 0 < d) (e : ℤ) :
    d * (powerOfTwo e).1 ≤ n * (powerOfTwo e).2 ↔ (2 : ℚ) ^ e ≤ n / d := by
  have down : (0 : ℚ) < (powerOfTwo e).2 := by exact_mod_cast (powerOfTwo_pos e).2
  rw [← powerOfTwo_div, div_le_div_iff₀ down (by exact_mod_cast positive)]
  norm_cast
  rw [mul_comm d]

/-- The binary logarithm of a quotient, rounded down. -/
theorem floorLog2_spec {n d : ℕ} (numerator : 0 < n) (denominator : 0 < d) :
    (2 : ℚ) ^ floorLog2 n d ≤ n / d ∧ (n / d : ℚ) < 2 ^ (floorLog2 n d + 1) := by
  have above : ((2 : ℚ) ^ (Nat.log2 n : ℤ)) ≤ n := by
    exact_mod_cast Nat.log2_self_le numerator.ne'
  have below : (n : ℚ) < 2 ^ (Nat.log2 n + 1 : ℤ) := by exact_mod_cast Nat.lt_log2_self
  have above' : ((2 : ℚ) ^ (Nat.log2 d : ℤ)) ≤ d := by
    exact_mod_cast Nat.log2_self_le denominator.ne'
  have below' : (d : ℚ) < 2 ^ (Nat.log2 d + 1 : ℤ) := by exact_mod_cast Nat.lt_log2_self
  have positive : (0 : ℚ) < d := by exact_mod_cast denominator
  -- The difference of the two logarithms is the right one, or one too many.
  have upper : (n / d : ℚ) < 2 ^ ((Nat.log2 n : ℤ) - Nat.log2 d + 1) := by
    rw [div_lt_iff₀ positive]
    calc (n : ℚ) < 2 ^ (Nat.log2 n + 1 : ℤ) := below
      _ = 2 ^ ((Nat.log2 n : ℤ) - Nat.log2 d + 1) * 2 ^ (Nat.log2 d : ℤ) := by
        rw [← zpow_add₀ two_ne_zero]
        congr 1
        ring
      _ ≤ 2 ^ ((Nat.log2 n : ℤ) - Nat.log2 d + 1) * d :=
        mul_le_mul_of_nonneg_left above' (by positivity)
  have lower : (2 : ℚ) ^ ((Nat.log2 n : ℤ) - Nat.log2 d - 1) ≤ n / d := by
    rw [le_div_iff₀ positive]
    calc (2 : ℚ) ^ ((Nat.log2 n : ℤ) - Nat.log2 d - 1) * d
      _ ≤ 2 ^ ((Nat.log2 n : ℤ) - Nat.log2 d - 1) * 2 ^ (Nat.log2 d + 1 : ℤ) :=
        mul_le_mul_of_nonneg_left below'.le (by positivity)
      _ = 2 ^ (Nat.log2 n : ℤ) := by
        rw [← zpow_add₀ two_ne_zero]
        congr 1
        ring
      _ ≤ n := above
  unfold floorLog2
  simp only [powerOfTwo_le_iff denominator]
  split
  next reached => exact ⟨reached, upper⟩
  next short =>
    rw [sub_add_cancel]
    exact ⟨lower, not_le.1 short⟩

/-! ### The numbers that round to the same result -/

/-- The lower end of the numbers that round to `m * 2 ^ e`, in units of `2 ^ (e - 2)`. -/
def lowerEnd (m : ℕ) (e : ℤ) : ℕ :=
  if m = 2 ^ 52 && leastExponent < e then 4 * m - 1 else 4 * m - 2

/-- The number rounds to `m * 2 ^ e`. -/
structure IsNear (m : ℕ) (e : ℤ) (w : ℚ) : Prop where
  above : lowerEnd m e * 2 ^ (e - 2) ≤ w
  below : w ≤ (4 * m + 2) * 2 ^ (e - 2)
  inside : m % 2 = 1 → w ≠ lowerEnd m e * 2 ^ (e - 2) ∧ w ≠ (4 * m + 2) * 2 ^ (e - 2)

/-- The significand has exactly 53 bits. -/
def IsFull (m : ℕ) : Prop := 2 ^ 52 ≤ m ∧ m < 2 ^ 53

variable {m n d : ℕ} {e : ℤ} {v w x : ℚ}

theorem lowerEnd_le (m : ℕ) (e : ℤ) : 4 * m - 2 ≤ lowerEnd m e := by
  unfold lowerEnd
  split <;> omega

theorem lowerEnd_lt (full : IsFull m) (e : ℤ) : lowerEnd m e < 4 * m := by
  have := full.1
  unfold lowerEnd
  split <;> omega

/-- What lies between two numbers that round to a result rounds to it as well. -/
theorem IsNear.between (low : IsNear m e v) (high : IsNear m e w) (above : v ≤ x) (below : x ≤ w) :
    IsNear m e x where
  above := low.above.trans above
  below := below.trans high.below
  inside odd :=
    ⟨((low.inside odd).1.symm.lt_of_le low.above |>.trans_le above).ne',
      (below.trans_lt ((high.inside odd).2.lt_of_le high.below)).ne⟩

theorem mul_zpow_eq_quarters (x : ℚ) (e : ℤ) : x * 2 ^ e = 4 * x * 2 ^ (e - 2) := by
  rw [zpow_sub₀ two_ne_zero]
  ring

/-- The result rounds to itself. -/
theorem isNear_self (full : IsFull m) (e : ℤ) : IsNear m e (m * 2 ^ e) := by
  have unit : (0 : ℚ) < 2 ^ (e - 2) := by positivity
  have lower : (lowerEnd m e * 2 ^ (e - 2) : ℚ) < 4 * m * 2 ^ (e - 2) :=
    mul_lt_mul_of_pos_right (by exact_mod_cast lowerEnd_lt full e) unit
  have upper : (4 * m * 2 ^ (e - 2) : ℚ) < (4 * m + 2) * 2 ^ (e - 2) :=
    mul_lt_mul_of_pos_right (by linarith) unit
  rw [mul_zpow_eq_quarters]
  exact ⟨lower.le, upper.le, fun _ => ⟨lower.ne', upper.ne⟩⟩

/-! ### The rounding step -/

/-- The exponent of the last bit, where a quotient keeps all 53 of them. -/
def lastBit (n d : ℕ) : ℤ := floorLog2 n d - 52

/-- The quotient in units of its last bit, rounded. It may have a bit too many. -/
def bits (n d : ℕ) : ℕ :=
  RoundedQuotient.halfEven (n * (powerOfTwo (lastBit n d)).2) (d * (powerOfTwo (lastBit n d)).1)

/-- A quotient of moderate size keeps all its bits. -/
theorem round_eq (negative : Bool) (numerator : 0 < n) (large : -1000 ≤ floorLog2 n d)
    (small : floorLog2 n d < 1000) :
    round negative n d =
      if bits n d = 2 ^ 53 then .finite negative (2 ^ 52) (lastBit n d + 1)
      else .finite negative (bits n d) (lastBit n d) := by
  have normal : Max.max (floorLog2 n d - 52) leastExponent = lastBit n d :=
    max_eq_left (by unfold leastExponent; omega)
  have inRange : ¬greatestExponent < lastBit n d := by unfold greatestExponent lastBit; omega
  have inRange' : ¬greatestExponent < lastBit n d + 1 := by unfold greatestExponent lastBit; omega
  unfold round bits
  simp only [if_neg numerator.ne', normal, Nat.pow_eq]
  split_ifs <;> rfl

/-- The quotient in units of its last bit. -/
theorem scaled_eq (n d : ℕ) (e : ℤ) :
    ((n * (powerOfTwo e).2 : ℕ) / (d * (powerOfTwo e).1 : ℕ) : ℚ) = n / d / 2 ^ e := by
  rw [← powerOfTwo_div]
  push_cast
  rw [div_div_div_eq]

/-- A quotient with 53 bits before the point is near to the result, in units of the last bit. -/
theorem isNear_of_halfEven {q : ℕ} (full : (2 : ℚ) ^ 52 ≤ x) (few : x < 2 ^ 53)
    (below : (q - 1 / 2 : ℚ) ≤ x) (above : x ≤ q + 1 / 2)
    (inside : q % 2 = 1 → x ≠ q - 1 / 2 ∧ x ≠ q + 1 / 2) (normal : leastExponent ≤ e) :
    if q = 2 ^ 53 then IsNear (2 ^ 52) (e + 1) (x * 2 ^ e)
    else IsFull q ∧ IsNear q e (x * 2 ^ e) := by
  have unit : (0 : ℚ) < 2 ^ (e - 2) := by positivity
  -- Both ends are whole numbers, so rounding stays between them.
  have at_least : 2 ^ 52 ≤ q := by
    have : (2 ^ 52 : ℚ) < q + 1 := by linarith
    have : 2 ^ 52 < q + 1 := by exact_mod_cast this
    omega
  have at_most : q ≤ 2 ^ 53 := by
    have : (q : ℚ) < 2 ^ 53 + 1 := by linarith
    have : q < 2 ^ 53 + 1 := by exact_mod_cast this
    omega
  rw [mul_zpow_eq_quarters]
  split
  next carry =>
    subst carry
    -- The unit of the result is twice as large, and its lower neighbour is near.
    have lower : (lowerEnd (2 ^ 52) (e + 1) : ℚ) = 4 * 2 ^ 52 - 1 := by
      rw [lowerEnd, if_pos (by simp; omega)]
      norm_num
    have double : (2 : ℚ) ^ (e + 1 - 2) = 2 * 2 ^ (e - 2) := by
      rw [add_sub_right_comm, zpow_add_one₀ two_ne_zero]
      ring
    push_cast at below above
    refine ⟨?_, ?_, fun odd => absurd odd (by decide)⟩
    · rw [lower, double]
      nlinarith
    · rw [double]
      push_cast
      nlinarith
  next fits =>
    refine ⟨⟨at_least, lt_of_le_of_ne at_most fits⟩, ?_, ?_, fun odd => ?_⟩
    · refine mul_le_mul_of_nonneg_right ?_ unit.le
      unfold lowerEnd
      split
      next power =>
        rw [Bool.and_eq_true, decide_eq_true_eq] at power
        rw [power.1]
        norm_num
        linarith
      next =>
        rw [Nat.cast_sub (by omega)]
        push_cast
        linarith
    · exact mul_le_mul_of_nonneg_right (by linarith) unit.le
    · have lower : (lowerEnd q e : ℚ) = 4 * q - 2 := by
        rw [lowerEnd, if_neg (by simp; omega), Nat.cast_sub (by omega)]
        norm_num
      rw [lower, Ne, mul_left_inj' unit.ne', Ne, mul_left_inj' unit.ne']
      exact ⟨fun same => (inside odd).1 (by linarith), fun same => (inside odd).2 (by linarith)⟩

/-- A number of moderate size is near to what it is rounded to. -/
theorem exists_round (negative : Bool) (numerator : 0 < n) (denominator : 0 < d)
    (large : (2 : ℚ) ^ (-1000 : ℤ) ≤ n / d) (small : (n / d : ℚ) < 2 ^ (1000 : ℤ)) :
    ∃ m e, round negative n d = .finite negative m e ∧ IsFull m ∧ IsNear m e (n / d) := by
  obtain ⟨reached, missed⟩ := floorLog2_spec numerator denominator
  have above : -1000 < floorLog2 n d + 1 :=
    (zpow_lt_zpow_iff_right₀ one_lt_two).1 (large.trans_lt missed)
  have below : floorLog2 n d < 1000 :=
    (zpow_lt_zpow_iff_right₀ one_lt_two).1 (reached.trans_lt small)
  have unit : (0 : ℚ) < 2 ^ lastBit n d := by positivity
  have full : (2 : ℚ) ^ 52 ≤ n / d / 2 ^ lastBit n d := by
    rw [le_div_iff₀ unit, ← zpow_natCast, ← zpow_add₀ two_ne_zero]
    exact (zpow_le_zpow_right₀ one_le_two (by norm_num [lastBit])).trans reached
  have few : (n / d / 2 ^ lastBit n d : ℚ) < 2 ^ 53 := by
    rw [div_lt_iff₀ unit, ← zpow_natCast, ← zpow_add₀ two_ne_zero]
    exact missed.trans_le (zpow_le_zpow_right₀ one_le_two (by unfold lastBit; omega))
  have nearest := RoundedQuotient.halfEven_spec (n * (powerOfTwo (lastBit n d)).2)
    (Nat.mul_pos denominator (powerOfTwo_pos (lastBit n d)).1)
  rw [scaled_eq] at nearest
  have near := isNear_of_halfEven full few nearest.1 nearest.2.1 nearest.2.2
    (e := lastBit n d) (by unfold leastExponent lastBit; omega)
  rw [div_mul_cancel₀ _ unit.ne', ← bits] at near
  rw [round_eq negative numerator (by omega) below]
  split at near
  next carry => exact ⟨_, _, if_pos carry, ⟨le_rfl, by decide⟩, near⟩
  next fits => exact ⟨_, _, if_neg fits, near⟩

end Binary64

end IncomeTax

import IncomeTax.Proofs.Decimal.Fit
import Mathlib.Data.Rat.Floor

/-!
# Decimals and cents

The trimmed scale of an amount is the least number of decimals its number can be written with.
Rounding to cents gives the nearest whole number of cents, and of two that are equally near the one
farther from zero, at whatever scale the amount is written.

## Main definitions

* `nearestCent` — a rational number rounded to cents

## Main results

* `nearestCent_mono` — rounding keeps the order
* `Decimal.trimmedScale_le_iff` — the trimmed scale tells the grid of the number
* `Decimal.toRat_roundCents` — rounding acts on the number
-/

namespace IncomeTax

/-- The number rounded to the nearest hundredth, a half away from zero. -/
def nearestCent (q : ℚ) : ℚ :=
  (if q < 0 then -1 else 1) * (⌊|q| * 100 + 1 / 2⌋ / 100)

/-- Rounding keeps the order. -/
theorem nearestCent_mono {p q : ℚ} (le : p ≤ q) : nearestCent p ≤ nearestCent q := by
  have cents {a b : ℚ} (le : a ≤ b) :
      (⌊a * 100 + 1 / 2⌋ / 100 : ℚ) ≤ ⌊b * 100 + 1 / 2⌋ / 100 := by
    gcongr
  have floor (a : ℚ) : (0 : ℚ) ≤ ⌊|a| * 100 + 1 / 2⌋ / 100 := by
    positivity
  unfold nearestCent
  -- Rounding keeps the side of zero, and on each side it keeps the order of sizes.
  rcases lt_or_ge p 0 with below | above
  · rw [if_pos below, neg_one_mul]
    rcases lt_or_ge q 0 with below' | above'
    · rw [if_pos below', neg_one_mul, abs_of_neg below, abs_of_neg below']
      exact neg_le_neg (cents (neg_le_neg le))
    · rw [if_neg (not_lt.2 above'), one_mul]
      exact (neg_nonpos.2 (floor p)).trans (floor q)
  · rw [if_neg (not_lt.2 above), if_neg (not_lt.2 (above.trans le)), one_mul, one_mul,
      abs_of_nonneg above, abs_of_nonneg (above.trans le)]
    exact cents le

namespace Decimal

/-! ### Trimmed scales -/

/-- A coefficient at a scale that is longer than needed ends in a zero. -/
theorem ten_dvd_of_mem_grid {coefficient scale k : ℕ}
    (member : (coefficient / 10 ^ scale : ℚ) ∈ grid k) (longer : k < scale) : 10 ∣ coefficient := by
  obtain ⟨m, whole⟩ := mem_grid_iff_mul.1 member
  rw [div_mul_eq_mul_div, div_eq_iff (by positivity)] at whole
  have split : (10 : ℤ) ^ scale = 10 ^ (scale - k) * 10 ^ k := by
    rw [← pow_add, Nat.sub_add_cancel longer.le]
  have cancelled : (coefficient : ℤ) = m * 10 ^ (scale - k) := by
    have same : (coefficient : ℤ) * 10 ^ k = m * 10 ^ scale := by exact_mod_cast whole
    rw [split, ← mul_assoc] at same
    exact mul_right_cancel₀ (by positivity) same
  have power : (10 : ℤ) ∣ 10 ^ (scale - k) := dvd_pow_self 10 (Nat.sub_ne_zero_of_lt longer)
  exact_mod_cast cancelled ▸ power.mul_left m

theorem trimmedScale_go_le_iff {coefficient scale k : ℕ} (nonzero : coefficient ≠ 0) :
    trimmedScale.go coefficient scale ≤ k ↔ (coefficient / 10 ^ scale : ℚ) ∈ grid k := by
  induction scale generalizing coefficient with
  | zero =>
    have whole : (coefficient / 10 ^ 0 : ℚ) ∈ grid 0 := mem_grid_iff.2 ⟨coefficient, by simp⟩
    simp only [trimmedScale.go, Nat.zero_le, true_iff]
    exact grid_mono (Nat.zero_le k) whole
  | succ scale ih =>
    unfold trimmedScale.go
    split
    next tens =>
      obtain ⟨rest, rfl⟩ := Nat.dvd_of_mod_eq_zero tens
      have remains : rest ≠ 0 := by
        rintro rfl
        exact nonzero rfl
      rw [Nat.mul_div_cancel_left rest (by norm_num), ih remains]
      push_cast
      rw [pow_succ, mul_comm (10 ^ scale), mul_div_mul_left _ _ (by norm_num)]
    next ends =>
      constructor
      · intro le
        exact grid_mono le (mem_grid_iff.2 ⟨coefficient, by simp⟩)
      · -- A last digit other than zero is needed, so `k` is no shorter scale.
        intro member
        by_contra above
        have divides := ten_dvd_of_mem_grid member (not_le.1 above)
        omega

theorem trimmedScale_le_iff {a : Decimal} {k : ℕ} : a.trimmedScale ≤ k ↔ a.toRat ∈ grid k := by
  unfold trimmedScale
  split
  next empty =>
    rw [isZero_iff_toRat.1 ((isZero_iff a).2 empty)]
    simp
  next nonzero =>
    rw [trimmedScale_go_le_iff nonzero, ← abs_toRat]
    rcases abs_choice a.toRat with same | same <;> rw [same]
    exact neg_mem_iff

/-! ### Rounding to cents -/

theorem nearestCent_of_mem_grid {q : ℚ} (member : q ∈ grid 2) : nearestCent q = q := by
  obtain ⟨m, whole⟩ := mem_grid_iff_mul.1 member
  have size : |q| * 100 = (|m| : ℤ) := by
    rw [Int.cast_abs, ← whole, abs_mul]
    norm_num
  have cents : ⌊|q| * 100 + 1 / 2⌋ = |m| := by
    rw [Int.floor_eq_iff, size]
    constructor <;> linarith
  rw [nearestCent, cents, ← size, mul_div_cancel_right₀ _ (by norm_num)]
  split
  next below => rw [abs_of_neg below, neg_mul_neg, one_mul]
  next above => rw [abs_of_nonneg (not_lt.1 above), one_mul]

/-- The quotient by an even divisor, rounded half up, is the floor of the quotient and a half. -/
theorem cast_halfUp (n : ℕ) {half : ℕ} (positive : 0 < half) :
    (RoundedQuotient.halfUp n (2 * half) : ℚ) = ⌊(n / (2 * half : ℕ) : ℚ) + 1 / 2⌋ := by
  have shifted : (n / (2 * half : ℕ) : ℚ) + 1 / 2 = ((n + half : ℕ) : ℚ) / (2 * half : ℕ) := by
    have nonzero : (half : ℚ) ≠ 0 := by positivity
    push_cast
    field_simp
  rw [shifted, Rat.floor_natCast_div_natCast, RoundedQuotient.halfUp,
    Nat.mul_div_cancel_left half (by norm_num)]
  rfl

/-- The sign that rounding keeps is the sign of the number, unless nothing is left of it. -/
theorem sign_mul_cents (a : Decimal) {cents : ℕ} (vanishes : a.isZero = true → cents = 0) :
    (if a.negative && (a.isZero || cents != 0) then -1 else 1) * (cents : ℚ) =
      (if a.toRat < 0 then -1 else 1) * (cents : ℚ) := by
  rcases eq_or_ne cents 0 with rfl | left
  · simp
  · have nonzero : a.isZero = false := Bool.eq_false_iff.2 fun empty => left (vanishes empty)
    simp [toRat_lt_zero_iff, nonzero, left]

/-- At a scale beyond cents, the rounded coefficient is the number of cents, a half rounded up. -/
theorem cast_halfUp_cents {a : Decimal} (long : 2 < a.scale) :
    (RoundedQuotient.halfUp a.coefficient (10 ^ (a.scale - 2)) : ℚ) =
      ⌊|a.toRat| * 100 + 1 / 2⌋ := by
  obtain ⟨half, even, positive⟩ : ∃ half, 10 ^ (a.scale - 2) = 2 * half ∧ 0 < half := by
    refine ⟨5 * 10 ^ (a.scale - 3), ?_, by positivity⟩
    rw [← mul_assoc, show 2 * 5 = 10 from rfl, ← pow_succ']
    congr 1
    omega
  have cents : (|a.toRat| * 100 : ℚ) = a.coefficient / (2 * half : ℕ) := by
    rw [abs_toRat, ← even, div_mul_eq_mul_div, div_eq_div_iff (by positivity) (by positivity)]
    push_cast
    rw [mul_assoc, show (100 : ℚ) = 10 ^ 2 by norm_num, ← pow_add]
    congr 2
    omega
  rw [cents, even]
  exact cast_halfUp a.coefficient positive

/-- Rounding to cents takes the nearest cent of the number. -/
theorem toRat_roundCents (a : Decimal) : a.roundCents.toRat = nearestCent a.toRat := by
  unfold roundCents
  split
  next short => exact (nearestCent_of_mem_grid (grid_mono short a.toRat_mem_grid)).symm
  next long =>
    have cents := cast_halfUp_cents (not_le.1 long)
    have vanishes (empty : a.isZero = true) :
        RoundedQuotient.halfUp a.coefficient (10 ^ (a.scale - 2)) = 0 := by
      rw [isZero_iff_toRat.1 empty] at cents
      norm_num at cents
      exact cents
    rw [toRat_eq, nearestCent, ← cents, ← mul_div_assoc, ← mul_div_assoc]
    -- The sign is kept for a zero too, where it makes no difference to the number.
    simp only [Nat.pow_eq]
    rw [sign_mul_cents a vanishes]
    norm_num

end Decimal

end IncomeTax

import IncomeTax.Decimal.Rounding
import IncomeTax.Decimal.Arithmetic
import Mathlib.Algebra.Order.Field.Rat
import Mathlib.Algebra.Order.Round
import Mathlib.Tactic.FieldSimp
import Mathlib.Tactic.GCongr
import Mathlib.Tactic.Linarith
import Mathlib.Tactic.NormNum
import Mathlib.Tactic.Positivity
import Mathlib.Tactic.Ring

/-!
# The number an amount stands for

An amount stands for the rational number `units / 10 ^ scale`. Comparison, sign change and the
choice between two amounts act on these numbers, whatever the scales and the signs of zeros.

## Main definitions

* `Decimal.toRat` — the number
* `Decimal.unsigned` — an amount given by its coefficient and scale

## Main results

* `le_iff_toRat`, `lt_iff_toRat`, `isZero_iff_toRat` — what comparisons say
* `toRat_neg`, `toRat_min`, `toRat_max`, `toRat_nonNegative` — what the exact operations give
-/

namespace IncomeTax.Decimal

variable {a b : Decimal}

/-- The rational number an amount stands for. -/
def toRat (a : Decimal) : ℚ := a.units / 10 ^ a.scale

theorem toRat_eq_iff {q : ℚ} : a.toRat = q ↔ (a.units : ℚ) = q * 10 ^ a.scale :=
  div_eq_iff (by positivity)

/-- The number by its parts. -/
theorem toRat_eq (a : Decimal) :
    a.toRat = (if a.negative then -1 else 1) * (a.coefficient / 10 ^ a.scale : ℚ) := by
  unfold toRat units
  cases a.negative <;> simp [neg_div]

/-- The amount of a coefficient and a scale that fit, without a sign. -/
def unsigned (coefficient scale : ℕ) : Decimal := (ofParts? false coefficient scale).getD zero

theorem le_iff_toRat : a ≤ b ↔ a.toRat ≤ b.toRat := by
  rw [le_iff, toRat, toRat, div_le_div_iff₀ (by positivity) (by positivity)]
  exact_mod_cast Iff.rfl

theorem lt_iff_toRat : a < b ↔ a.toRat < b.toRat := by
  rw [lt_iff, toRat, toRat, div_lt_div_iff₀ (by positivity) (by positivity)]
  exact_mod_cast Iff.rfl

theorem units_eq_zero_iff : a.units = 0 ↔ a.coefficient = 0 := by
  unfold units
  split <;> simp

theorem isZero_iff_toRat : a.isZero = true ↔ a.toRat = 0 := by
  rw [isZero_iff, toRat_eq_iff, zero_mul, Int.cast_eq_zero, units_eq_zero_iff]

theorem isZero_eq_false_iff : a.isZero = false ↔ a.toRat ≠ 0 := by
  rw [← Bool.not_eq_true, Ne, isZero_iff_toRat]

@[simp] theorem toRat_zero : toRat zero = 0 := by simp [toRat, zero, units]

@[simp] theorem toRat_one : toRat one = 1 := by simp [toRat, one, units]

@[simp] theorem toRat_neg (a : Decimal) : a.neg.toRat = -a.toRat := by
  unfold toRat neg units
  cases a.negative <;> simp [neg_div]

/-- A number without a sign is at least zero. -/
theorem toRat_nonneg_of_not_negative (unsigned : a.negative = false) : 0 ≤ a.toRat := by
  rw [toRat_eq, unsigned, if_neg Bool.false_ne_true, one_mul]
  positivity

theorem negative_eq_false_of_pos (positive : 0 < a.toRat) : a.negative = false := by
  by_contra signed
  rw [toRat_eq, if_pos (Bool.not_eq_false _ ▸ signed), neg_one_mul, Left.neg_pos_iff] at positive
  exact not_lt.2 (by positivity) positive

/-- A number is below zero when it has a sign and is not zero. -/
theorem toRat_lt_zero_iff : a.toRat < 0 ↔ (a.negative && !a.isZero) = true := by
  rw [Bool.and_eq_true, Bool.not_eq_true', isZero_eq_false_iff]
  constructor
  · intro below
    refine ⟨?_, below.ne⟩
    by_contra unsigned
    exact not_lt.2 (toRat_nonneg_of_not_negative (Bool.not_eq_true _ ▸ unsigned)) below
  · rintro ⟨signed, nonzero⟩
    refine lt_of_le_of_ne ?_ nonzero
    rw [toRat_eq, signed, if_pos rfl, neg_one_mul, neg_nonpos]
    positivity

@[simp] theorem toRat_abs (a : Decimal) : a.abs.toRat = |a.toRat| := by
  unfold toRat abs units
  cases a.negative <;> simp [abs_div]

theorem abs_toRat (a : Decimal) : |a.toRat| = a.coefficient / 10 ^ a.scale := by
  rw [toRat_eq]
  cases a.negative <;> simp [abs_div]

@[simp] theorem toRat_min (a b : Decimal) : (a.min b).toRat = Min.min a.toRat b.toRat := by
  unfold min
  split
  next below => exact (min_eq_right (lt_iff_toRat.1 below).le).symm
  next above => exact (min_eq_left (not_lt.1 fun lt => above (lt_iff_toRat.2 lt))).symm

@[simp] theorem toRat_max (a b : Decimal) : (a.max b).toRat = Max.max a.toRat b.toRat := by
  unfold max
  split
  next above => exact (max_eq_left (lt_iff_toRat.1 above).le).symm
  next below => exact (max_eq_right (not_lt.1 fun lt => below (lt_iff_toRat.2 lt))).symm

@[simp] theorem toRat_nonNegative (a : Decimal) : a.nonNegative.toRat = Max.max 0 a.toRat := by
  rw [nonNegative, toRat_max, toRat_zero, max_comm]

/-- An amount floored at zero is itself, unless it is not positive. -/
theorem nonNegative_eq (a : Decimal) : a.nonNegative = if 0 < a.toRat then a else zero := by
  unfold nonNegative max
  simp only [lt_iff_toRat, toRat_zero]

/-- Parts that fit stand for the number they spell. -/
theorem toRat_of_ofParts? {negative : Bool} {coefficient scale : ℕ}
    (parts : ofParts? negative coefficient scale = some a) :
    a.toRat = (if negative then -1 else 1) * (coefficient / 10 ^ scale : ℚ) := by
  unfold ofParts? at parts
  split at parts
  · cases parts
    rw [toRat_eq]
    by_cases empty : coefficient = 0 <;> cases negative <;> simp [empty]
  · cases parts

theorem coefficient_lt_of_ofParts? {negative : Bool} {coefficient scale : ℕ}
    (parts : ofParts? negative coefficient scale = some a) : coefficient < 2 ^ 96 := by
  unfold ofParts? at parts
  split at parts
  next fits => exact fits.1
  next => cases parts

theorem ofParts?_of_fits (negative : Bool) {coefficient scale : ℕ}
    (small : coefficient < 2 ^ 96) (short : scale ≤ 28) :
    ∃ a, ofParts? negative coefficient scale = some a := by
  unfold ofParts?
  rw [dif_pos ⟨small, short⟩]
  exact ⟨_, rfl⟩

end IncomeTax.Decimal

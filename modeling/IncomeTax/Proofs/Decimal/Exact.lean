import IncomeTax.Proofs.Decimal.Fit
import Mathlib.Algebra.BigOperators.Group.List.Lemmas
import Mathlib.Algebra.Order.BigOperators.Group.List

/-!
# Exact sums, differences and products

An operation whose exact result fits gives that result, whatever scales its operands are written at.
For sums of many amounts it is enough that the total fits, when no amount is negative.

## Main results

* `map_toRat_add?`, `map_toRat_sub?`, `map_toRat_mul?`, `map_toRat_sum?` — no rounding and no
  overflow
* `exists_sub?`, `toRat_nonneg_of_sub?`, `toRat_nonpos_of_sub?` — what holds of every difference
-/

namespace IncomeTax.Decimal

variable {a b c : Decimal} {k : ℕ} {q : ℚ}

/-- The units of an amount at a larger scale still stand for its number. -/
theorem units_mul_pow_div {scale : ℕ} (le : a.scale ≤ scale) :
    (a.units * 10 ^ (scale - a.scale) : ℚ) / 10 ^ scale = a.toRat := by
  rw [toRat, div_eq_div_iff (by positivity) (by positivity), mul_assoc, ← pow_add,
    Nat.sub_add_cancel le]

/-- The units of a sum at the common scale of its operands. -/
def sumUnits (a b : Decimal) : ℤ :=
  a.units * 10 ^ (Nat.max a.scale b.scale - a.scale) +
    b.units * 10 ^ (Nat.max a.scale b.scale - b.scale)

theorem sumUnits_div (a b : Decimal) :
    (sumUnits a b : ℚ) / 10 ^ Nat.max a.scale b.scale = a.toRat + b.toRat := by
  unfold sumUnits
  push_cast
  rw [add_div, units_mul_pow_div (Nat.le_max_left _ _), units_mul_pow_div (Nat.le_max_right _ _)]

/-- A sum with a zero is exact; any other one is rounded to what fits. -/
theorem add?_cases (a b : Decimal) :
    (a.add? b).map toRat = some (a.toRat + b.toRat) ∨
      a.add? b = fit? (sumUnits a b) (Nat.max a.scale b.scale) := by
  unfold add?
  split_ifs with left right
  · exact .inl (by simp [isZero_iff_toRat.1 left])
  · exact .inl (by simp [isZero_iff_toRat.1 right])
  · exact .inr rfl

theorem map_toRat_add? (short : k ≤ 28) (fits : Fits k (a.toRat + b.toRat)) :
    (a.add? b).map toRat = some (a.toRat + b.toRat) := by
  rcases add?_cases a b with exact_ | rounded
  · exact exact_
  · rw [← sumUnits_div] at fits ⊢
    rw [rounded]
    exact fit?_of_fits short fits

/-- The units of a difference at the common scale of its operands. -/
def differenceUnits (a b : Decimal) : ℤ :=
  a.units * 10 ^ (Nat.max a.scale b.scale - a.scale) -
    b.units * 10 ^ (Nat.max a.scale b.scale - b.scale)

theorem differenceUnits_div (a b : Decimal) :
    (differenceUnits a b : ℚ) / 10 ^ Nat.max a.scale b.scale = a.toRat - b.toRat := by
  unfold differenceUnits
  push_cast
  rw [sub_div, units_mul_pow_div (Nat.le_max_left _ _), units_mul_pow_div (Nat.le_max_right _ _)]

/-- A difference with a zero is exact; any other one is rounded to what fits. -/
theorem sub?_cases (a b : Decimal) :
    (a.sub? b).map toRat = some (a.toRat - b.toRat) ∨
      a.sub? b = fit? (differenceUnits a b) (Nat.max a.scale b.scale) := by
  unfold sub?
  split_ifs with left right right
  · exact .inl (by simp [isZero_iff_toRat.1 left, isZero_iff_toRat.1 right])
  · exact .inl (by simp [isZero_iff_toRat.1 left])
  · exact .inl (by simp [isZero_iff_toRat.1 right])
  · exact .inr rfl

theorem map_toRat_sub? (short : k ≤ 28) (fits : Fits k (a.toRat - b.toRat)) :
    (a.sub? b).map toRat = some (a.toRat - b.toRat) := by
  rcases sub?_cases a b with exact_ | rounded
  · exact exact_
  · rw [← differenceUnits_div] at fits ⊢
    rw [rounded]
    exact fit?_of_fits short fits

/-- A number of the grid that is not zero is at least one step away from it. -/
theorem one_le_abs_mul_pow (member : q ∈ grid k) (nonzero : q ≠ 0) : 1 ≤ |q| * 10 ^ k := by
  obtain ⟨m, whole⟩ := mem_grid_iff_mul.1 member
  have power : (0 : ℚ) < 10 ^ k := by positivity
  have distinct : m ≠ 0 := by
    rintro rfl
    rw [Int.cast_zero, mul_eq_zero] at whole
    exact whole.elim nonzero power.ne'
  rw [← abs_of_pos power, ← abs_mul, whole, ← Int.cast_abs]
  exact_mod_cast Int.one_le_abs distinct

/-- Factors of small coefficients and long scales have a product of at most half a unit of the longest
scale. -/
theorem abs_mul_le_of_tiny (left : a.coefficient < 2 ^ 32) (right : b.coefficient < 2 ^ 32)
    (deep : 48 ≤ a.scale + b.scale) : |a.toRat * b.toRat| ≤ 5 / 10 ^ 29 := by
  have product : a.coefficient * b.coefficient ≤ 2 ^ 32 * 2 ^ 32 := Nat.mul_le_mul left.le right.le
  have power : 10 ^ 48 ≤ 10 ^ (a.scale + b.scale) := Nat.pow_le_pow_right (by norm_num) deep
  rw [abs_mul, abs_toRat, abs_toRat, div_mul_div_comm, ← pow_add,
    div_le_div_iff₀ (by positivity) (by norm_num)]
  exact_mod_cast (by omega :
    a.coefficient * b.coefficient * 10 ^ 29 ≤ 5 * 10 ^ (a.scale + b.scale))

/-- Such a product is below the finest grid, so on any grid it is zero. -/
theorem mul_eq_zero_of_tiny (left : a.coefficient < 2 ^ 32) (right : b.coefficient < 2 ^ 32)
    (deep : 48 ≤ a.scale + b.scale) (short : k ≤ 28) (member : a.toRat * b.toRat ∈ grid k) :
    a.toRat * b.toRat = 0 := by
  by_contra nonzero
  have step := one_le_abs_mul_pow member nonzero
  have power : (10 : ℚ) ^ k ≤ 10 ^ 28 := pow_le_pow_right₀ (by norm_num) short
  have below : |a.toRat * b.toRat| * 10 ^ k ≤ 5 / 10 ^ 29 * 10 ^ 28 :=
    mul_le_mul (abs_mul_le_of_tiny left right deep) power (by positivity) (by positivity)
  exact absurd (step.trans below) (by norm_num)

theorem productUnits_div (a b : Decimal) :
    ((a.units * b.units : ℤ) : ℚ) / 10 ^ (a.scale + b.scale) = a.toRat * b.toRat := by
  push_cast
  rw [toRat, toRat, div_mul_div_comm, ← pow_add]

/-- A product with a zero is exact; one of small coefficients at long scales is taken for zero; any
other one is rounded to what fits. -/
theorem mul?_cases (a b : Decimal) :
    (a.mul? b).map toRat = some (a.toRat * b.toRat) ∨
      (a.mul? b = some zero ∧ a.coefficient < 2 ^ 32 ∧ b.coefficient < 2 ^ 32 ∧
        48 ≤ a.scale + b.scale) ∨
      a.mul? b = fit? (a.units * b.units) (a.scale + b.scale) := by
  unfold mul?
  split_ifs with absent tiny
  · rcases Bool.or_eq_true_iff.1 absent with left | right
    · exact .inl (by simp [isZero_iff_toRat.1 left])
    · exact .inl (by simp [isZero_iff_toRat.1 right])
  · simp only [Bool.and_eq_true, decide_eq_true_eq] at tiny
    obtain ⟨⟨left, right⟩, deep⟩ := tiny
    exact .inr (.inl ⟨rfl, left, right, deep⟩)
  · exact .inr (.inr rfl)

theorem map_toRat_mul? (short : k ≤ 28) (fits : Fits k (a.toRat * b.toRat)) :
    (a.mul? b).map toRat = some (a.toRat * b.toRat) := by
  rcases mul?_cases a b with exact_ | ⟨vanished, left, right, deep⟩ | rounded
  · exact exact_
  · -- The answer is zero without a look at the product, and so is the product.
    have vanishes := mul_eq_zero_of_tiny left right deep short fits.mem_grid
    rw [vanished, vanishes, Option.map_some, toRat_zero]
  · rw [← productUnits_div] at fits ⊢
    rw [rounded]
    exact fit?_of_fits short fits

/-! ### Differences in general -/

theorem differenceUnits_nonneg_iff : 0 ≤ differenceUnits a b ↔ b.toRat ≤ a.toRat := by
  rw [← sub_nonneg (a := a.toRat), ← differenceUnits_div, le_div_iff₀ (by positivity), zero_mul,
    Int.cast_nonneg_iff]

theorem differenceUnits_nonpos_iff : differenceUnits a b ≤ 0 ↔ a.toRat ≤ b.toRat := by
  rw [← sub_nonpos (a := a.toRat), ← differenceUnits_div, div_le_iff₀ (by positivity), zero_mul,
    Int.cast_nonpos]

/-- A difference is on the side of zero where the exact one is. -/
theorem toRat_nonneg_of_sub? (found : a.sub? b = some c) (le : b.toRat ≤ a.toRat) :
    0 ≤ c.toRat := by
  rcases sub?_cases a b with exact_ | rounded
  · rw [found, Option.map_some, Option.some.injEq] at exact_
    rw [exact_]
    exact sub_nonneg.2 le
  · exact toRat_nonneg_of_fit? (rounded ▸ found) (differenceUnits_nonneg_iff.2 le)

theorem toRat_nonpos_of_sub? (found : a.sub? b = some c) (le : a.toRat ≤ b.toRat) :
    c.toRat ≤ 0 := by
  rcases sub?_cases a b with exact_ | rounded
  · rw [found, Option.map_some, Option.some.injEq] at exact_
    rw [exact_]
    exact sub_nonpos.2 le
  · exact toRat_nonpos_of_fit? (rounded ▸ found) (differenceUnits_nonpos_iff.2 le)

/-- The units of an amount at a larger scale stay within the greatest amount. -/
theorem natAbs_units_mul_pow_le (a : Decimal) (scale : ℕ) :
    (a.units * 10 ^ (scale - a.scale)).natAbs ≤ (2 ^ 96 - 1) * 10 ^ scale := by
  have coefficient : a.units.natAbs ≤ 2 ^ 96 - 1 := by
    have small : a.coefficient < 2 ^ 96 := a.coefficient_lt
    unfold units
    split <;> omega
  rw [Int.natAbs_mul, Int.natAbs_pow]
  exact Nat.mul_le_mul coefficient (Nat.pow_le_pow_right (by norm_num) (Nat.sub_le _ _))

theorem units_mul_pow_nonneg (nonneg : 0 ≤ a.toRat) (scale : ℕ) :
    0 ≤ a.units * 10 ^ (scale - a.scale) := by
  rw [toRat, le_div_iff₀ (by positivity), zero_mul, Int.cast_nonneg_iff] at nonneg
  positivity

/-- Amounts that are not negative have a difference. -/
theorem exists_sub? (left : 0 ≤ a.toRat) (right : 0 ≤ b.toRat) : ∃ c, a.sub? b = some c := by
  rcases sub?_cases a b with exact_ | rounded
  · obtain ⟨c, found, -⟩ := Option.map_eq_some_iff.1 exact_
    exact ⟨c, found⟩
  · rw [rounded]
    apply fit?_isSome
    have minuend := natAbs_units_mul_pow_le a (Nat.max a.scale b.scale)
    have subtrahend := natAbs_units_mul_pow_le b (Nat.max a.scale b.scale)
    have above := units_mul_pow_nonneg left (Nat.max a.scale b.scale)
    have above' := units_mul_pow_nonneg right (Nat.max a.scale b.scale)
    unfold differenceUnits
    omega

/-! ### Sums of lists -/

variable {amounts : List Decimal}

theorem Fits.of_nonneg_le {p : ℚ} (member : p ∈ grid k) (nonneg : 0 ≤ p) (le : p ≤ q)
    (small : q * 10 ^ k < 2 ^ 96) : Fits k p := by
  refine ⟨member, lt_of_le_of_lt ?_ small⟩
  rw [abs_of_nonneg nonneg]
  gcongr

/-- A loop that adds one number at each step is exact when the last total fits: with numbers that are
not negative, every total on the way is smaller. -/
theorem map_toRat_foldlM {β : Type} {items : List β} {f : Decimal → β → Option Decimal} {w : β → ℚ}
    (start : Decimal) (first : start.toRat ∈ grid k) (floor : 0 ≤ start.toRat)
    (members : ∀ b ∈ items, w b ∈ grid k) (nonneg : ∀ b ∈ items, 0 ≤ w b)
    (step : ∀ b ∈ items, ∀ total : Decimal, Fits k (total.toRat + w b) →
      (f total b).map toRat = some (total.toRat + w b))
    (small : (start.toRat + (items.map w).sum) * 10 ^ k < 2 ^ 96) :
    (items.foldlM f start).map toRat = some (start.toRat + (items.map w).sum) := by
  induction items generalizing start with
  | nil => simp
  | cons b rest ih =>
    rw [List.forall_mem_cons] at members nonneg step
    rw [List.map_cons, List.sum_cons] at small ⊢
    have remaining : 0 ≤ (rest.map w).sum := List.sum_nonneg (by simpa using nonneg.2)
    have fits : Fits k (start.toRat + w b) :=
      .of_nonneg_le (add_mem first members.1) (add_nonneg floor nonneg.1) (by linarith) small
    obtain ⟨total, added, value⟩ := Option.map_eq_some_iff.1 (step.1 start fits)
    rw [List.foldlM_cons, added]
    rw [← add_assoc, ← value] at small ⊢
    exact ih total (value ▸ fits.mem_grid) (value ▸ add_nonneg floor nonneg.1) members.2 nonneg.2
      step.2 small

/-- Amounts that are not negative are added up exactly when their total fits. -/
theorem map_toRat_sum? (short : k ≤ 28) (members : ∀ a ∈ amounts, a.toRat ∈ grid k)
    (nonneg : ∀ a ∈ amounts, 0 ≤ a.toRat) (small : (amounts.map toRat).sum * 10 ^ k < 2 ^ 96) :
    (sum? amounts).map toRat = some (amounts.map toRat).sum := by
  have total := map_toRat_foldlM zero (by simp) (by simp) members nonneg
    (fun _ _ _ fits => map_toRat_add? short fits) (by simpa using small)
  simpa [sum?] using total

/-! ### Saturating operations -/

theorem toRat_saturatingAdd (short : k ≤ 28) (fits : Fits k (a.toRat + b.toRat)) :
    (a.saturatingAdd b).toRat = a.toRat + b.toRat := by
  obtain ⟨c, found, value⟩ := Option.map_eq_some_iff.1 (map_toRat_add? short fits)
  rw [saturatingAdd, found, Option.getD_some, value]

theorem toRat_saturatingSub (short : k ≤ 28) (fits : Fits k (a.toRat - b.toRat)) :
    (a.saturatingSub b).toRat = a.toRat - b.toRat := by
  obtain ⟨c, found, value⟩ := Option.map_eq_some_iff.1 (map_toRat_sub? short fits)
  rw [saturatingSub, found, Option.getD_some, value]

theorem toRat_saturatingMul (short : k ≤ 28) (fits : Fits k (a.toRat * b.toRat)) :
    (a.saturatingMul b).toRat = a.toRat * b.toRat := by
  obtain ⟨c, found, value⟩ := Option.map_eq_some_iff.1 (map_toRat_mul? short fits)
  rw [saturatingMul, found, Option.getD_some, value]

end IncomeTax.Decimal

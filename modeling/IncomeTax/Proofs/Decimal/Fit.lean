import IncomeTax.Proofs.Decimal.Value
import Mathlib.Algebra.BigOperators.Group.List.Lemmas
import Mathlib.Algebra.Group.Subgroup.ZPowers.Basic
import Mathlib.Algebra.Group.Submonoid.BigOperators
import Mathlib.Algebra.Order.BigOperators.Group.List

/-!
# Numbers that fit an amount

The rounding step of all operations looks for the largest scale at which a number fits. A number of
at most 28 decimals whose coefficient fits at its own scale is never changed on the way: every
rounding at a larger scale is exact as well. Rounding in general keeps the side of zero, and fails
only beyond the greatest amount.

## Main definitions

* `Decimal.grid` — the numbers with at most so many decimals
* `Decimal.Fits` — a number of the grid whose coefficient fits
* `Decimal.Within` — a number of the grid between zero and a limit

## Main results

* `fit?_of_fits` — a number that fits is not rounded
* `fit?_isSome`, `toRat_nonneg_of_fit?`, `toRat_nonpos_of_fit?` — what rounding keeps
-/

namespace IncomeTax

namespace RoundedQuotient

/-- A quotient that is whole is not rounded. -/
theorem halfEven_mul (q : ℕ) {divisor : ℕ} (positive : 0 < divisor) :
    halfEven (q * divisor) divisor = q := by
  unfold halfEven
  rw [Nat.mul_div_cancel q positive, Nat.mul_mod_left, Nat.mul_zero, if_pos positive]

/-- Rounding does not pass a whole number. -/
theorem halfEven_le {n q divisor : ℕ} (positive : 0 < divisor) (le : n ≤ q * divisor) :
    halfEven n divisor ≤ q := by
  have quotient : n / divisor ≤ q := Nat.div_le_of_le_mul (by rwa [Nat.mul_comm])
  -- The quotient rounds up by one at most, so only an equal quotient could pass `q`.
  rcases Nat.lt_or_eq_of_le quotient with below | equal
  · unfold halfEven
    simp only
    split_ifs <;> omega
  · have whole : n = q * divisor :=
      Nat.le_antisymm le (equal ▸ Nat.div_mul_le_self n divisor)
    rw [whole, halfEven_mul q positive]

end RoundedQuotient

namespace Decimal

open RoundedQuotient

variable {a : Decimal} {k : ℕ} {p q : ℚ}

/-- The numbers with at most `k` decimals. -/
def grid (k : ℕ) : AddSubgroup ℚ := AddSubgroup.zmultiples (10 ^ k : ℚ)⁻¹

theorem mem_grid_iff : q ∈ grid k ↔ ∃ m : ℤ, q = m / 10 ^ k := by
  simp only [grid, AddSubgroup.mem_zmultiples_iff, zsmul_eq_mul, div_eq_mul_inv, eq_comm]

theorem mem_grid_iff_mul : q ∈ grid k ↔ ∃ m : ℤ, q * 10 ^ k = m := by
  rw [mem_grid_iff]
  exact exists_congr fun m => eq_div_iff (by positivity)

theorem toRat_mem_grid (a : Decimal) : a.toRat ∈ grid a.scale :=
  mem_grid_iff.2 ⟨a.units, rfl⟩

theorem grid_mono {j : ℕ} (le : j ≤ k) : grid j ≤ grid k := by
  intro q member
  obtain ⟨m, rfl⟩ := mem_grid_iff.1 member
  refine mem_grid_iff.2 ⟨m * 10 ^ (k - j), ?_⟩
  rw [div_eq_div_iff (by positivity) (by positivity)]
  push_cast
  rw [mul_assoc, ← pow_add, Nat.sub_add_cancel le]

theorem mul_mem_grid {j : ℕ} (left : p ∈ grid j) (right : q ∈ grid k) : p * q ∈ grid (j + k) := by
  obtain ⟨m, rfl⟩ := mem_grid_iff.1 left
  obtain ⟨n, rfl⟩ := mem_grid_iff.1 right
  refine mem_grid_iff.2 ⟨m * n, ?_⟩
  rw [div_mul_div_comm, ← pow_add]
  push_cast
  rfl

theorem min_mem_grid (left : p ∈ grid k) (right : q ∈ grid k) : Min.min p q ∈ grid k := by
  rcases min_choice p q with same | same <;> rw [same] <;> assumption

theorem max_mem_grid (left : p ∈ grid k) (right : q ∈ grid k) : Max.max p q ∈ grid k := by
  rcases max_choice p q with same | same <;> rw [same] <;> assumption

/-- A number of at most `k` decimals whose coefficient at that scale fits. -/
structure Fits (k : ℕ) (q : ℚ) : Prop where
  mem_grid : q ∈ grid k
  small : |q| * 10 ^ k < 2 ^ 96

/-- The number of an amount fits at the scale of the amount. -/
theorem fits_toRat (a : Decimal) : Fits a.scale a.toRat := by
  refine ⟨a.toRat_mem_grid, ?_⟩
  rw [abs_toRat, div_mul_cancel₀ _ (by positivity)]
  exact_mod_cast a.coefficient_lt

/-- What fits is a whole coefficient at its scale. -/
theorem Fits.exists_coefficient (fits : Fits k q) :
    ∃ m : ℤ, q * 10 ^ k = m ∧ m.natAbs < 2 ^ 96 := by
  obtain ⟨m, whole⟩ := mem_grid_iff_mul.1 fits.mem_grid
  refine ⟨m, whole, ?_⟩
  have small := fits.small
  have power : |(10 : ℚ) ^ k| = 10 ^ k := abs_of_pos (by positivity)
  rw [← power, ← abs_mul, whole, ← Int.cast_abs] at small
  zify
  exact_mod_cast small

/-- A number from zero to a limit with at most `k` decimals. -/
structure Within (k : ℕ) (limit q : ℚ) : Prop where
  nonneg : 0 ≤ q
  le : q ≤ limit
  mem_grid : q ∈ grid k

namespace Within

variable {j : ℕ} {limit limit' : ℚ}

theorem zero (nonneg : 0 ≤ limit) : Within k limit 0 := ⟨le_refl 0, nonneg, zero_mem _⟩

theorem mono (within : Within k limit q) (le : k ≤ j) (le' : limit ≤ limit') :
    Within j limit' q :=
  ⟨within.nonneg, within.le.trans le', grid_mono le within.mem_grid⟩

theorem min (within : Within k limit p) (nonneg : 0 ≤ q) (member : q ∈ grid k) :
    Within k limit (Min.min p q) :=
  ⟨le_min within.nonneg nonneg, (min_le_left p q).trans within.le,
    min_mem_grid within.mem_grid member⟩

/-- A difference floored at zero stays within the limit of the minuend. -/
theorem max_zero_sub (within : Within k limit p) (within' : Within k limit' q) :
    Within k limit (Max.max 0 (p - q)) where
  nonneg := le_max_left 0 _
  le := max_le (within.nonneg.trans within.le)
    ((sub_le_self p within'.nonneg).trans within.le)
  mem_grid := max_mem_grid (zero_mem _) (sub_mem within.mem_grid within'.mem_grid)

theorem mul (within : Within j limit p) (within' : Within k limit' q) :
    Within (j + k) (limit * limit') (p * q) where
  nonneg := mul_nonneg within.nonneg within'.nonneg
  le := mul_le_mul within.le within'.le within'.nonneg (within.nonneg.trans within.le)
  mem_grid := mul_mem_grid within.mem_grid within'.mem_grid

/-- A sum of numbers within a limit is within as many times that limit. -/
theorem sum {terms : List ℚ} (within : ∀ q ∈ terms, Within k limit q) :
    Within k (terms.length * limit) terms.sum where
  nonneg := List.sum_nonneg fun q member => (within q member).nonneg
  le := by
    rw [← nsmul_eq_mul]
    exact List.sum_le_card_nsmul terms limit fun q member => (within q member).le
  mem_grid := list_sum_mem fun q member => (within q member).mem_grid

/-- Numbers up to `10 ^ 18` with at most ten decimals fit, and so do their differences. -/
theorem fits (within : Within 10 (10 ^ 18) q) : Fits 10 q := by
  refine ⟨within.mem_grid, ?_⟩
  rw [abs_of_nonneg within.nonneg]
  have le := within.le
  norm_num at le ⊢
  linarith

theorem fits_sub (within : Within 10 (10 ^ 18) p) (within' : Within 10 (10 ^ 18) q) :
    Fits 10 (p - q) := by
  refine ⟨sub_mem within.mem_grid within'.mem_grid, ?_⟩
  have bound : |p - q| ≤ 10 ^ 18 :=
    abs_sub_le_of_nonneg_of_le within.nonneg within.le within'.nonneg within'.le
  norm_num at bound ⊢
  linarith

end Within

/-! ### The rounding step -/

variable {negative : Bool} {n scale bound : ℕ}

theorem fitAtMost?_zero :
    fitAtMost? negative n scale 0 = ofParts? negative (halfEven n (10 ^ scale)) 0 := rfl

theorem fitAtMost?_succ :
    fitAtMost? negative n scale (bound + 1) =
      (ofParts? negative (halfEven n (10 ^ (scale - (bound + 1)))) (bound + 1)).or
        (fitAtMost? negative n scale bound) := by
  rw [fitAtMost?]
  cases ofParts? negative (halfEven n (10 ^ (scale - (bound + 1)))) (bound + 1) <;> rfl

/-- Whatever is found was made from parts. -/
theorem exists_ofParts?_of_fitAtMost? (found : fitAtMost? negative n scale bound = some a) :
    ∃ coefficient scale, ofParts? negative coefficient scale = some a := by
  induction bound with
  | zero => exact ⟨_, _, found⟩
  | succ bound ih =>
    rw [fitAtMost?_succ, Option.or_eq_some_iff] at found
    rcases found with parts | ⟨-, found⟩
    · exact ⟨_, _, parts⟩
    · exact ih found

/-- Down to a scale at which the number is whole and fits, no rounding changes it. -/
theorem fitAtMost?_of_whole (negative : Bool) {m : ℕ} (small : m < 2 ^ 96) (reached : k ≤ bound)
    (within : bound ≤ scale) (short : bound ≤ 28) :
    ∃ a, fitAtMost? negative (m * 10 ^ (scale - k)) scale bound = some a ∧
      a.toRat = (if negative then -1 else 1) * (m / 10 ^ k : ℚ) := by
  induction bound with
  | zero =>
    obtain rfl : k = 0 := Nat.le_zero.1 reached
    rw [fitAtMost?_zero, Nat.sub_zero, halfEven_mul m (by positivity)]
    obtain ⟨a, parts⟩ := ofParts?_of_fits negative small short
    exact ⟨a, parts, toRat_of_ofParts? parts⟩
  | succ bound ih =>
    have split : m * 10 ^ (scale - k) =
        m * 10 ^ (bound + 1 - k) * 10 ^ (scale - (bound + 1)) := by
      rw [Nat.mul_assoc, ← pow_add]
      congr 2
      omega
    rw [fitAtMost?_succ, split, halfEven_mul _ (by positivity), ← split]
    cases parts : ofParts? negative (m * 10 ^ (bound + 1 - k)) (bound + 1) with
    | some a =>
      -- The first scale that fits: the number with zeros appended.
      refine ⟨a, rfl, ?_⟩
      rw [toRat_of_ofParts? parts]
      congr 1
      rw [div_eq_div_iff (by positivity) (by positivity)]
      push_cast
      rw [mul_assoc, ← pow_add, Nat.sub_add_cancel reached]
    | none =>
      -- A coefficient that is too large here has zeros to drop, for it fits at scale `k`.
      rw [Option.none_or]
      refine ih ?_ (by omega) (by omega)
      by_contra above
      obtain rfl : k = bound + 1 := by omega
      obtain ⟨a, fits⟩ := ofParts?_of_fits negative small short
      rw [Nat.sub_self, pow_zero, Nat.mul_one, fits] at parts
      cases parts

theorem fitAtMost?_isSome (le : n ≤ (2 ^ 96 - 1) * 10 ^ scale) :
    ∃ a, fitAtMost? negative n scale bound = some a := by
  -- The search ends at whole numbers at the latest.
  induction bound with
  | zero =>
    have small : halfEven n (10 ^ scale) < 2 ^ 96 :=
      Nat.lt_of_le_of_lt (halfEven_le (by positivity) le) (by norm_num)
    exact ofParts?_of_fits negative small (by norm_num)
  | succ bound ih =>
    obtain ⟨a, found⟩ := ih
    rw [fitAtMost?_succ, found]
    cases ofParts? negative (halfEven n (10 ^ (scale - (bound + 1)))) (bound + 1) with
    | some a => exact ⟨a, rfl⟩
    | none => exact ⟨a, rfl⟩

variable {units : ℤ}

theorem sign_mul_natAbs (units : ℤ) :
    (if decide (units < 0) then -1 else 1) * (units.natAbs : ℚ) = units := by
  rw [Nat.cast_natAbs, Int.cast_abs]
  by_cases below : units < 0
  · have negative : (units : ℚ) < 0 := by exact_mod_cast below
    simp [below, abs_of_neg negative]
  · have positive : (0 : ℚ) ≤ units := by exact_mod_cast not_lt.1 below
    simp [below, abs_of_nonneg positive]

/-- What fits is whole, with a small coefficient, at a scale that the search for one reaches: at `k`,
or at the scale of its units when that is shorter. -/
theorem Fits.exists_natAbs_eq (short : k ≤ 28) (fits : Fits k (units / 10 ^ scale)) :
    ∃ j m : ℕ, j ≤ Nat.min scale 28 ∧ m < 2 ^ 96 ∧ units.natAbs = m * 10 ^ (scale - j) := by
  obtain ⟨m, equal, small⟩ := fits.exists_coefficient
  rw [div_mul_eq_mul_div, div_eq_iff (by positivity)] at equal
  rcases le_total k scale with le | le
  · refine ⟨k, m.natAbs, Nat.le_min.2 ⟨le, short⟩, small, ?_⟩
    have cancelled : units = m * 10 ^ (scale - k) := by
      have same : (units : ℚ) * 10 ^ k = m * 10 ^ (scale - k) * 10 ^ k := by
        rw [equal, mul_assoc, ← pow_add, Nat.sub_add_cancel le]
      exact_mod_cast mul_right_cancel₀ (by positivity) same
    rw [cancelled, Int.natAbs_mul, Int.natAbs_pow]
    rfl
  · refine ⟨scale, units.natAbs, Nat.le_min.2 ⟨Nat.le_refl _, by omega⟩, ?_, by simp⟩
    have cancelled : m = units * 10 ^ (k - scale) := by
      have same : (m : ℚ) * 10 ^ scale = units * 10 ^ (k - scale) * 10 ^ scale := by
        rw [← equal, mul_assoc, ← pow_add, Nat.sub_add_cancel le]
      exact_mod_cast mul_right_cancel₀ (by positivity) same
    -- The coefficient at the longer scale `k` is small, so the units themselves are.
    rw [cancelled, Int.natAbs_mul, Int.natAbs_pow] at small
    exact Nat.lt_of_le_of_lt (Nat.le_mul_of_pos_right _ (by positivity)) small

/-- A number that fits is not rounded. -/
theorem fit?_of_fits (short : k ≤ 28) (fits : Fits k (units / 10 ^ scale)) :
    (fit? units scale).map toRat = some (units / 10 ^ scale : ℚ) := by
  obtain ⟨j, m, reached, small, whole⟩ := fits.exists_natAbs_eq short
  obtain ⟨a, found, value⟩ := fitAtMost?_of_whole (decide (units < 0)) small reached
    (Nat.min_le_left _ _) (Nat.min_le_right _ _)
  rw [← whole] at found
  rw [fit?, maxScale, found, Option.map_some, value, ← sign_mul_natAbs units, whole]
  have within : j ≤ scale := Nat.le_trans reached (Nat.min_le_left _ _)
  congr 1
  rw [mul_div_assoc]
  congr 1
  rw [div_eq_div_iff (by positivity) (by positivity)]
  push_cast
  rw [mul_assoc, ← pow_add, Nat.sub_add_cancel within]

/-- A number within the range of amounts can be rounded to one. -/
theorem fit?_isSome (le : units.natAbs ≤ (2 ^ 96 - 1) * 10 ^ scale) :
    ∃ a, fit? units scale = some a :=
  fitAtMost?_isSome le

theorem toRat_nonneg_of_fit? (found : fit? units scale = some a) (nonneg : 0 ≤ units) :
    0 ≤ a.toRat := by
  obtain ⟨coefficient, scale, parts⟩ := exists_ofParts?_of_fitAtMost? found
  rw [toRat_of_ofParts? parts, if_neg (by simpa using nonneg), one_mul]
  positivity

theorem toRat_nonpos_of_fit? (found : fit? units scale = some a) (nonpos : units ≤ 0) :
    a.toRat ≤ 0 := by
  rcases nonpos.lt_or_eq with below | rfl
  · obtain ⟨coefficient, scale, parts⟩ := exists_ofParts?_of_fitAtMost? found
    rw [toRat_of_ofParts? parts, if_pos (by simpa using below), neg_one_mul]
    exact neg_nonpos.2 (by positivity)
  · -- Zero has no sign, so it is not below zero by its parts: it fits instead.
    have kept : (fit? 0 scale).map toRat = some (((0 : ℤ) : ℚ) / 10 ^ scale) :=
      fit?_of_fits (k := 0) (by norm_num) ⟨by simp, by simp⟩
    rw [found] at kept
    simpa using (Option.some.inj kept).le

end Decimal

end IncomeTax

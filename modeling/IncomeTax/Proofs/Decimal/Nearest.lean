import IncomeTax.Proofs.Decimal.Exact

/-!
# Rounding is to the nearest

An operation whose exact result is within the range of amounts always answers, and no whole number is
nearer to the exact result than what it answers. So rounding passes no whole number, zero among them.
Adding to a whole number moves it by at most twice what is added, and an amount that is not whole is
small already, because its coefficient is.

## Main definitions

* `Decimal.IsNearest` — no whole number is nearer
* `Decimal.IsTotal` — a total, so far, of amounts with a known sum

## Main results

* `exists_nearest_add?`, `exists_nearest_sub?`, `exists_nearest_mul?` — operations in range answer,
  and round to the nearest
* `exists_sum?_of_bounded` — few amounts of moderate size have a sum
-/

namespace IncomeTax

namespace RoundedQuotient

/-- No multiple of the divisor is nearer to the dividend than that by the rounded quotient. -/
theorem halfEven_nearest (n : ℕ) {divisor : ℕ} (positive : 0 < divisor) (k : ℤ) :
    |(halfEven n divisor * divisor - n : ℤ)| ≤ |k * divisor - n| := by
  -- The quotient is rounded down in the lower half, and up in the upper half.
  have rounded : halfEven n divisor = n / divisor ∧ 2 * (n % divisor) ≤ divisor ∨
      halfEven n divisor = n / divisor + 1 ∧ divisor ≤ 2 * (n % divisor) := by
    unfold halfEven
    simp only
    split_ifs <;> omega
  have parts := Nat.div_add_mod' n divisor
  have below := Nat.mod_lt n positive
  generalize n / divisor = quotient at rounded parts
  generalize n % divisor = rest at rounded parts below
  -- Every multiple lies outside the two around the dividend.
  have outside : k * divisor ≤ quotient * divisor ∨ quotient * divisor + divisor ≤ k * divisor := by
    rcases le_or_gt k quotient with le | gt
    · exact .inl (mul_le_mul_of_nonneg_right le (by positivity))
    · rw [← add_one_mul]
      exact .inr (mul_le_mul_of_nonneg_right (by omega) (by positivity))
  zify at parts
  rcases rounded with ⟨down, half⟩ | ⟨up, half⟩
  · rw [down, abs_of_nonpos (by omega), le_abs]
    omega
  · rw [up, Nat.cast_succ, add_one_mul, abs_of_nonneg (by omega), le_abs]
    omega

end RoundedQuotient

namespace Decimal

open RoundedQuotient

variable {a b c : Decimal} {p q : ℚ}

/-- No whole number is nearer to the number than the amount is. -/
def IsNearest (a : Decimal) (q : ℚ) : Prop := ∀ n : ℤ, |a.toRat - q| ≤ |n - q|

theorem isNearest_toRat (a : Decimal) : a.IsNearest a.toRat := by
  intro n
  rw [sub_self, abs_zero]
  exact abs_nonneg _

namespace IsNearest

/-- Rounding does not pass a whole number downwards. -/
theorem le_of_le (near : a.IsNearest q) {n : ℤ} (le : q ≤ n) : a.toRat ≤ n := by
  have step := near n
  rw [abs_of_nonneg (sub_nonneg.2 le)] at step
  linarith [le_abs_self (a.toRat - q)]

/-- Rounding does not pass a whole number upwards. -/
theorem ge_of_ge (near : a.IsNearest q) {n : ℤ} (ge : n ≤ q) : n ≤ a.toRat := by
  have step := near n
  rw [abs_of_nonpos (sub_nonpos.2 ge)] at step
  linarith [neg_abs_le (a.toRat - q)]

theorem nonneg (near : a.IsNearest q) (nonneg : 0 ≤ q) : 0 ≤ a.toRat := by
  exact_mod_cast near.ge_of_ge (n := 0) (by exact_mod_cast nonneg)

/-- Rounding at most doubles a number that is not negative. -/
theorem le_two_mul (near : a.IsNearest q) (nonneg : 0 ≤ q) : a.toRat ≤ 2 * q := by
  have step := near 0
  rw [Int.cast_zero, zero_sub, abs_neg, abs_of_nonneg nonneg] at step
  linarith [le_abs_self (a.toRat - q)]

end IsNearest

/-! ### The rounding step -/

variable {negative : Bool} {n scale bound : ℕ} {units : ℤ}

/-- At any scale of the search, the rounded coefficient is nearest. -/
theorem abs_halfEven_sub_le {k : ℕ} (within : k ≤ scale) (whole : ℤ) :
    |(halfEven n (10 ^ (scale - k)) / 10 ^ k - n / 10 ^ scale : ℚ)| ≤
      |(whole - n / 10 ^ scale : ℚ)| := by
  have power : (10 : ℚ) ^ scale = 10 ^ (scale - k) * 10 ^ k := by
    rw [← pow_add, Nat.sub_add_cancel within]
  have positive : (0 : ℚ) < 10 ^ scale := by positivity
  have step := halfEven_nearest n (Nat.pow_pos (n := scale - k) (Nat.succ_pos 9)) (whole * 10 ^ k)
  -- Both distances in units of the last place.
  have left : (halfEven n (10 ^ (scale - k)) / 10 ^ k - n / 10 ^ scale : ℚ) =
      (halfEven n (10 ^ (scale - k)) * 10 ^ (scale - k) - n) / 10 ^ scale := by
    rw [sub_div, power, mul_comm (10 ^ (scale - k) : ℚ), mul_div_mul_right _ _ (by positivity)]
  have right : (whole - n / 10 ^ scale : ℚ) =
      (whole * 10 ^ k * 10 ^ (scale - k) - n) / 10 ^ scale := by
    rw [sub_div, mul_assoc, mul_comm (10 ^ k : ℚ), ← power, mul_div_cancel_right₀ _ positive.ne']
  rw [left, right, abs_div, abs_div]
  refine div_le_div_of_nonneg_right ?_ (abs_nonneg _)
  exact_mod_cast step

/-- The search ends at the largest scale at which the rounded coefficient fits. -/
theorem exists_scale_of_fitAtMost? (found : fitAtMost? negative n scale bound = some a) :
    ∃ k ≤ bound, ofParts? negative (halfEven n (10 ^ (scale - k))) k = some a ∧
      ∀ j ≤ bound, k < j → ofParts? negative (halfEven n (10 ^ (scale - j))) j = none := by
  induction bound with
  | zero => exact ⟨0, le_rfl, found, fun j le above => absurd above (not_lt.2 le)⟩
  | succ bound ih =>
    rw [fitAtMost?_succ, Option.or_eq_some_iff] at found
    rcases found with parts | ⟨large, found⟩
    · exact ⟨bound + 1, le_rfl, parts, fun j le above => absurd above (not_lt.2 le)⟩
    · obtain ⟨k, le, parts, longest⟩ := ih found
      refine ⟨k, le.trans (Nat.le_succ bound), parts, fun j le above => ?_⟩
      rcases Nat.le_succ_iff.1 le with shorter | rfl
      · exact longest j shorter above
      · exact large

/-- What is found for a number is nearest to it. -/
theorem isNearest_of_fit? (found : fit? units scale = some a) :
    a.IsNearest (units / 10 ^ scale) := by
  intro whole
  obtain ⟨k, le, parts, -⟩ := exists_scale_of_fitAtMost? found
  have within : k ≤ scale := Nat.le_trans le (Nat.min_le_left _ _)
  have step (whole : ℤ) := abs_halfEven_sub_le (n := units.natAbs) within whole
  rw [toRat_of_ofParts? parts, ← sign_mul_natAbs units]
  -- A sign can be moved to the whole number.
  generalize (units.natAbs : ℚ) = size at step ⊢
  generalize (halfEven units.natAbs (10 ^ (scale - k)) / 10 ^ k : ℚ) = rounded at step ⊢
  cases decide (units < 0) with
  | false => simpa using step whole
  | true =>
    rw [if_pos rfl]
    calc |-1 * rounded - -1 * size / 10 ^ scale| = |rounded - size / 10 ^ scale| := by
          rw [← abs_neg]
          congr 1
          ring
      _ ≤ |((-whole : ℤ) : ℚ) - size / 10 ^ scale| := step (-whole)
      _ = |whole - -1 * size / 10 ^ scale| := by
          rw [← abs_neg]
          congr 1
          push_cast
          ring

/-- A number within the range of amounts is rounded to the nearest. -/
theorem exists_nearest_fit? (inRange : |(units / 10 ^ scale : ℚ)| ≤ 2 ^ 96 - 1) :
    ∃ a, fit? units scale = some a ∧ a.IsNearest (units / 10 ^ scale) := by
  have bound : units.natAbs ≤ (2 ^ 96 - 1) * 10 ^ scale := by
    rw [abs_div, abs_of_pos (a := (10 ^ scale : ℚ)) (by positivity),
      div_le_iff₀ (by positivity)] at inRange
    zify
    rw [Nat.cast_sub (by norm_num)]
    push_cast
    exact_mod_cast inRange
  obtain ⟨a, found⟩ := fit?_isSome bound
  exact ⟨a, found, isNearest_of_fit? found⟩

/-! ### Sums, differences and products -/

theorem exists_nearest_add? (inRange : |a.toRat + b.toRat| ≤ 2 ^ 96 - 1) :
    ∃ c, a.add? b = some c ∧ c.IsNearest (a.toRat + b.toRat) := by
  rcases add?_cases a b with exact_ | rounded
  · obtain ⟨c, found, value⟩ := Option.map_eq_some_iff.1 exact_
    exact ⟨c, found, value ▸ isNearest_toRat c⟩
  · rw [← sumUnits_div] at inRange ⊢
    rw [rounded]
    exact exists_nearest_fit? inRange

theorem exists_nearest_sub? (inRange : |a.toRat - b.toRat| ≤ 2 ^ 96 - 1) :
    ∃ c, a.sub? b = some c ∧ c.IsNearest (a.toRat - b.toRat) := by
  rcases sub?_cases a b with exact_ | rounded
  · obtain ⟨c, found, value⟩ := Option.map_eq_some_iff.1 exact_
    exact ⟨c, found, value ▸ isNearest_toRat c⟩
  · rw [← differenceUnits_div] at inRange ⊢
    rw [rounded]
    exact exists_nearest_fit? inRange

/-- A product of small coefficients at long scales is nearest to zero. -/
theorem isNearest_zero_of_tiny (left : a.coefficient < 2 ^ 32) (right : b.coefficient < 2 ^ 32)
    (deep : 48 ≤ a.scale + b.scale) : zero.IsNearest (a.toRat * b.toRat) := by
  have small : |a.toRat * b.toRat| ≤ 1 / 2 :=
    (abs_mul_le_of_tiny left right deep).trans (by norm_num)
  intro whole
  rw [toRat_zero, zero_sub, abs_neg]
  rcases eq_or_ne whole 0 with rfl | nonzero
  · rw [Int.cast_zero, zero_sub, abs_neg]
  · -- Any other whole number is at least one half away.
    have far : (1 : ℚ) ≤ |(whole : ℚ)| := by
      rw [← Int.cast_abs]
      exact_mod_cast Int.one_le_abs nonzero
    linarith [abs_sub_abs_le_abs_sub (whole : ℚ) (a.toRat * b.toRat)]

/-- Whatever a product comes to, it is nearest to the exact one. -/
theorem isNearest_of_mul? (found : a.mul? b = some c) : c.IsNearest (a.toRat * b.toRat) := by
  rcases mul?_cases a b with exact_ | ⟨vanished, left, right, deep⟩ | rounded
  · rw [found, Option.map_some, Option.some.injEq] at exact_
    exact exact_ ▸ isNearest_toRat c
  · rw [found] at vanished
    cases vanished
    exact isNearest_zero_of_tiny left right deep
  · rw [← productUnits_div]
    exact isNearest_of_fit? (rounded ▸ found)

theorem exists_nearest_mul? (inRange : |a.toRat * b.toRat| ≤ 2 ^ 96 - 1) :
    ∃ c, a.mul? b = some c ∧ c.IsNearest (a.toRat * b.toRat) := by
  rcases mul?_cases a b with exact_ | ⟨vanished, -⟩ | rounded
  · obtain ⟨c, found, -⟩ := Option.map_eq_some_iff.1 exact_
    exact ⟨c, found, isNearest_of_mul? found⟩
  · exact ⟨zero, vanished, isNearest_of_mul? vanished⟩
  · rw [← productUnits_div] at inRange
    obtain ⟨c, found, -⟩ := exists_nearest_fit? inRange
    exact ⟨c, rounded.trans found, isNearest_of_mul? (rounded.trans found)⟩

/-! ### Amounts that are not negative -/

theorem abs_toRat_le (a : Decimal) : |a.toRat| ≤ 2 ^ 96 - 1 := by
  have small : (a.coefficient : ℚ) ≤ 2 ^ 96 - 1 := by
    have le : a.coefficient + 1 ≤ 2 ^ 96 := a.coefficient_lt
    exact le_sub_iff_add_le.2 (by exact_mod_cast le)
  rw [abs_toRat]
  exact (div_le_self (by positivity) (one_le_pow₀ (by norm_num))).trans small

/-- A difference of amounts that are not negative is in range. -/
theorem exists_nearest_sub?_of_nonneg (left : 0 ≤ a.toRat) (right : 0 ≤ b.toRat) :
    ∃ c, a.sub? b = some c ∧ c.IsNearest (a.toRat - b.toRat) :=
  exists_nearest_sub? (abs_sub_le_of_nonneg_of_le left ((le_abs_self _).trans a.abs_toRat_le)
    right ((le_abs_self _).trans b.abs_toRat_le))

/-- A product held in range keeps the side of zero. -/
theorem toRat_saturatingMul_nonneg (left : 0 ≤ a.toRat) (right : 0 ≤ b.toRat) :
    0 ≤ (a.saturatingMul b).toRat := by
  unfold saturatingMul
  cases found : a.mul? b with
  | some c => exact (isNearest_of_mul? found).nonneg (mul_nonneg left right)
  | none =>
    -- A product with a zero does not overflow, so neither factor has a sign.
    rcases left.eq_or_lt with empty | above
    · simp [mul?, isZero_iff_toRat.2 empty.symm] at found
    rcases right.eq_or_lt with empty | above'
    · simp [mul?, isZero_iff_toRat.2 empty.symm] at found
    rw [negative_eq_false_of_pos above, negative_eq_false_of_pos above']
    exact toRat_nonneg_of_not_negative rfl

/-! ### Totals of amounts that are not negative -/

/-- An amount that is not a whole number has a digit less before the point than one that is. -/
theorem whole_or_le (a : Decimal) : (∃ n : ℤ, a.toRat = n) ∨ a.toRat ≤ 2 ^ 96 / 10 := by
  rcases Nat.eq_zero_or_pos a.scale with whole | decimals
  · exact .inl ⟨a.units, by rw [toRat, whole, pow_zero, div_one]⟩
  · refine .inr ((le_abs_self _).trans ?_)
    have small : (a.coefficient : ℚ) ≤ 2 ^ 96 := by exact_mod_cast a.coefficient_lt.le
    have power : (10 : ℚ) ^ 1 ≤ 10 ^ a.scale := pow_le_pow_right₀ (by norm_num) decimals
    rw [abs_toRat]
    exact div_le_div₀ (by positivity) small (by norm_num) (by simpa using power)

/-- A total of numbers that add up to at most `w`, however often it was rounded on the way. As long
as it has decimals it is below the constant; from there on each addition at most doubles what it
adds. -/
structure IsTotal (w : ℚ) (a : Decimal) : Prop where
  nonneg : 0 ≤ a.toRat
  le : a.toRat ≤ 8 * 10 ^ 27 + 2 * w

variable {v w : ℚ}

theorem isTotal_zero : IsTotal 0 zero := ⟨toRat_zero.ge, by norm_num⟩

theorem IsTotal.le_of_le (total : IsTotal w a) (small : w ≤ 10 ^ 25) : a.toRat ≤ 10 ^ 28 := by
  have le := total.le
  norm_num at small le ⊢
  linarith

theorem IsTotal.add? (total : IsTotal w a) (floor : 0 ≤ w) (nonneg : 0 ≤ b.toRat)
    (le : b.toRat ≤ v) (small : w + v ≤ 10 ^ 25) :
    ∃ c, a.add? b = some c ∧ IsTotal (w + v) c := by
  have start := total.le
  have sum : 0 ≤ a.toRat + b.toRat := add_nonneg total.nonneg nonneg
  have inRange : |a.toRat + b.toRat| ≤ 2 ^ 96 - 1 := by
    rw [abs_of_nonneg sum]
    norm_num at small start ⊢
    linarith
  obtain ⟨c, found, near⟩ := exists_nearest_add? inRange
  refine ⟨c, found, near.nonneg sum, ?_⟩
  rcases a.whole_or_le with ⟨n, whole⟩ | decimals
  · -- A whole number is a candidate for the sum itself, so rounding adds no more than the addend.
    have step := near n
    rw [← whole, sub_add_cancel_left, abs_neg, abs_of_nonneg nonneg] at step
    linarith [le_abs_self (c.toRat - (a.toRat + b.toRat))]
  · have below : a.toRat + b.toRat ≤ (8 * 10 ^ 27 : ℤ) := by
      norm_num at small decimals ⊢
      linarith
    have step := near.le_of_le below
    push_cast at step
    linarith [nonneg.trans le]

/-- Amounts that are not negative have a sum when they are few and not too large, with any number of
decimals. -/
theorem exists_sum?_of_bounded {amounts : List Decimal} {limit : ℚ}
    (nonneg : ∀ a ∈ amounts, 0 ≤ a.toRat) (le : ∀ a ∈ amounts, a.toRat ≤ limit)
    (small : amounts.length * limit ≤ 10 ^ 25) :
    ∃ total, sum? amounts = some total ∧ 0 ≤ total.toRat ∧ total.toRat ≤ 10 ^ 28 := by
  -- The total so far takes the place of zero, so the induction is on any start.
  suffices loop : ∀ (w : ℚ) (start : Decimal), 0 ≤ w → IsTotal w start →
      w + amounts.length * limit ≤ 10 ^ 25 → ∃ total, amounts.foldlM Decimal.add? start = some total ∧
        0 ≤ total.toRat ∧ total.toRat ≤ 10 ^ 28 by
    exact loop 0 zero le_rfl isTotal_zero (by rwa [zero_add])
  clear small
  induction amounts with
  | nil =>
    intro w start floor total small
    refine ⟨start, rfl, total.nonneg, total.le_of_le ?_⟩
    simpa using small
  | cons a rest ih =>
    intro w start floor total small
    rw [List.forall_mem_cons] at nonneg le
    rw [List.length_cons, Nat.cast_succ, add_one_mul] at small
    have positive : 0 ≤ limit := nonneg.1.trans le.1
    have remaining : 0 ≤ (rest.length : ℚ) * limit := by positivity
    obtain ⟨next, added, total⟩ := total.add? floor nonneg.1 le.1 (by linarith)
    obtain ⟨sum, found, bounds⟩ := ih nonneg.2 le.2 (w + limit) next (by linarith) total (by linarith)
    refine ⟨sum, ?_, bounds⟩
    rw [List.foldlM_cons, added]
    exact found

end Decimal

end IncomeTax

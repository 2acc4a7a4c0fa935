import IncomeTax.Proofs.Decimal.Nearest

/-!
# Rounding keeps the order

What a number is rounded to depends on the number alone, not on the scale it is worked out at, and of
two numbers the larger one is never rounded to less. At one scale this is so because a half goes to
the same neighbour whatever the divisor. Where a number grows so large that it loses a decimal, the
step from one amount to the next becomes ten times as wide; the amounts of the longer scale still end
below the first one of the shorter scale.

## Main definitions

* `Decimal.coefficientAt` — the coefficient of a number at so many decimals
* `Decimal.RoundsTo` — what a number is rounded to

## Main results

* `RoundsTo.mono`, `RoundsTo.unique` — rounding is a function of the number that keeps the order
* `roundsTo_sub?`, `roundsTo_mul?` — differences and products are rounded
* `roundsTo_nonNegative_saturatingSub`, `roundsTo_saturatingMul` — so are those held in range
-/

namespace IncomeTax

namespace RoundedQuotient

variable {n n' divisor divisor' : ℕ}

theorem halfEven_mul_mul_right (n divisor : ℕ) {factor : ℕ} (positive : 0 < factor) :
    halfEven (n * factor) (divisor * factor) = halfEven n divisor := by
  unfold halfEven
  rw [Nat.mul_div_mul_right n divisor positive, Nat.mul_mod_mul_right]
  simp only [← Nat.mul_assoc, Nat.mul_lt_mul_right positive]

theorem halfEven_le_of_le (divisor : ℕ) (le : n ≤ n') : halfEven n divisor ≤ halfEven n' divisor := by
  have quotients : n / divisor ≤ n' / divisor := Nat.div_le_div_right le
  rcases quotients.lt_or_eq with below | same
  · -- Rounding up by one at most does not pass a larger quotient.
    unfold halfEven
    simp only
    split_ifs <;> omega
  · have rests : n % divisor ≤ n' % divisor := by
      have parts := Nat.div_add_mod n divisor
      have parts' := Nat.div_add_mod n' divisor
      rw [← same] at parts'
      omega
    unfold halfEven
    simp only [same]
    split_ifs <;> omega

/-- Of two quotients the larger one is not rounded to less. -/
theorem halfEven_mono (positive : 0 < divisor) (positive' : 0 < divisor')
    (le : (n / divisor : ℚ) ≤ n' / divisor') : halfEven n divisor ≤ halfEven n' divisor' := by
  rw [div_le_div_iff₀ (by positivity) (by positivity)] at le
  rw [← halfEven_mul_mul_right n divisor positive', ← halfEven_mul_mul_right n' divisor' positive,
    Nat.mul_comm divisor' divisor]
  exact halfEven_le_of_le _ (by exact_mod_cast le)

end RoundedQuotient

namespace Decimal

open RoundedQuotient

variable {a b c : Decimal} {n n' scale scale' k k' : ℕ} {p q r s : ℚ}

/-! ### Rounding to a number of decimals -/

/-- The coefficient of `n / 10 ^ scale` when it is rounded to `k` decimals. -/
def coefficientAt (n scale k : ℕ) : ℕ := halfEven n (10 ^ (scale - k))

theorem coefficientAt_self (n scale : ℕ) : coefficientAt n scale scale = n := by
  have whole := halfEven_mul n Nat.one_pos
  rw [Nat.mul_one] at whole
  rw [coefficientAt, Nat.sub_self, pow_zero, whole]

theorem div_pow_sub (n : ℕ) (within : k ≤ scale) :
    (n / (10 ^ (scale - k) : ℕ) : ℚ) = n / 10 ^ scale * 10 ^ k := by
  push_cast
  rw [div_mul_eq_mul_div, div_eq_div_iff (by positivity) (by positivity), mul_assoc, ← pow_add,
    Nat.add_sub_cancel' within]

/-- A coefficient with zeros appended stands for its number at a longer scale. -/
theorem natCast_mul_pow_sub (n : ℕ) (longer : k ≤ k') :
    ((n * 10 ^ (k' - k) : ℕ) : ℚ) = n / 10 ^ k * 10 ^ k' := by
  push_cast
  rw [div_mul_eq_mul_div, eq_div_iff (by positivity), mul_assoc, ← pow_add,
    Nat.sub_add_cancel longer]

/-- Coefficients are in the order of the numbers they are rounded from. -/
theorem coefficientAt_mono (within : k ≤ scale) (within' : k' ≤ scale')
    (le : (n / 10 ^ scale * 10 ^ k : ℚ) ≤ n' / 10 ^ scale' * 10 ^ k') :
    coefficientAt n scale k ≤ coefficientAt n' scale' k' := by
  rw [← div_pow_sub n within, ← div_pow_sub n' within'] at le
  exact halfEven_mono (by positivity) (by positivity) le

/-- Rounding does not pass a whole coefficient. -/
theorem coefficientAt_le {m : ℕ} (within : k ≤ scale) (le : (n / 10 ^ scale * 10 ^ k : ℚ) ≤ m) :
    coefficientAt n scale k ≤ m := by
  rw [← coefficientAt_self m 0]
  apply coefficientAt_mono within le_rfl
  simpa using le

theorem le_coefficientAt {m : ℕ} (within : k ≤ scale) (le : (m : ℚ) ≤ n / 10 ^ scale * 10 ^ k) :
    m ≤ coefficientAt n scale k := by
  rw [← coefficientAt_self m 0]
  apply coefficientAt_mono le_rfl within
  simpa using le

/-- A number that is too large for one scale has, at the next shorter one, a coefficient that stands
for no less than the greatest coefficient of the longer scale. -/
theorem le_ten_mul_coefficientAt (within : k + 1 ≤ scale)
    (large : 2 ^ 96 ≤ coefficientAt n scale (k + 1)) :
    2 ^ 96 - 1 ≤ 10 * coefficientAt n scale k := by
  have tenth : ((2 ^ 96 - 1 : ℕ) / (10 : ℕ) : ℚ) ≤ n / 10 ^ scale * 10 ^ k := by
    by_contra below
    rw [not_le, lt_div_iff₀ (by positivity), mul_assoc] at below
    have fits : coefficientAt n scale (k + 1) ≤ 2 ^ 96 - 1 :=
      coefficientAt_le within (by exact_mod_cast below.le)
    omega
  rw [← div_pow_sub n (Nat.le_of_succ_le within)] at tenth
  have rounded := halfEven_mono (by norm_num) (by positivity) tenth
  -- The tenth is half-way between two coefficients, of which the upper one is even.
  have value : halfEven (2 ^ 96 - 1) 10 = 7922816251426433759354395034 := by decide
  rw [value] at rounded
  unfold coefficientAt
  omega

/-! ### Rounding to what fits -/

/-- The scale that a number is rounded to: the longest one, of those it is worked out at, at which its
coefficient fits. -/
structure IsScale (n scale k : ℕ) : Prop where
  reached : k ≤ Nat.min scale 28
  small : coefficientAt n scale k < 2 ^ 96
  longest : ∀ j ≤ Nat.min scale 28, k < j → 2 ^ 96 ≤ coefficientAt n scale j

theorem IsScale.le_scale (found : IsScale n scale k) : k ≤ scale :=
  Nat.le_trans found.reached (Nat.min_le_left _ _)

/-- A number that is not rounded to the longest scale has a coefficient there, or is worked out at no
more decimals than it is rounded to. -/
theorem IsScale.eq_or_large (found : IsScale n scale k) (shorter : k < 28) :
    k = scale ∨ k + 1 ≤ scale ∧ 2 ^ 96 ≤ coefficientAt n scale (k + 1) := by
  rcases found.le_scale.eq_or_lt with same | below
  · exact .inl same
  · exact .inr ⟨below, found.longest _ (Nat.le_min.2 ⟨below, shorter⟩) (Nat.lt_succ_self k)⟩

/-- Numbers are rounded to amounts in their order, at whatever scales. -/
theorem IsScale.mono (found : IsScale n scale k) (found' : IsScale n' scale' k')
    (le : (n / 10 ^ scale : ℚ) ≤ n' / 10 ^ scale') :
    (coefficientAt n scale k / 10 ^ k : ℚ) ≤ coefficientAt n' scale' k' / 10 ^ k' := by
  have within := found.le_scale
  have within' := found'.le_scale
  have short : k ≤ 28 := Nat.le_trans found.reached (Nat.min_le_right _ _)
  have short' : k' ≤ 28 := Nat.le_trans found'.reached (Nat.min_le_right _ _)
  rcases lt_trichotomy k k' with shorter | rfl | longer
  · rcases found.eq_or_large (shorter.trans_le short') with rfl | ⟨next, large⟩
    · -- The smaller number is not rounded: it is a whole coefficient at the longer scale too.
      have kept : n * 10 ^ (k' - k) ≤ coefficientAt n' scale' k' := by
        apply le_coefficientAt within'
        rw [natCast_mul_pow_sub n shorter.le]
        gcongr
      rw [coefficientAt_self, le_div_iff₀ (by positivity), ← natCast_mul_pow_sub n shorter.le]
      exact_mod_cast kept
    · -- The smaller number cannot be too large for a scale that the larger one fits.
      have order : coefficientAt n scale (k + 1) ≤ coefficientAt n' scale' k' := by
        apply coefficientAt_mono next within'
        gcongr
        · norm_num
        · exact shorter
      exact absurd found'.small (not_lt.2 (large.trans order))
  · gcongr
    exact coefficientAt_mono within within' (by gcongr)
  · rcases found'.eq_or_large (longer.trans_le short) with rfl | ⟨next, large⟩
    · -- The larger number is not rounded: it is a whole coefficient at the longer scale too.
      have kept : coefficientAt n scale k ≤ n' * 10 ^ (k - k') := by
        apply coefficientAt_le within
        rw [natCast_mul_pow_sub n' longer.le]
        gcongr
      rw [coefficientAt_self, div_le_iff₀ (by positivity), ← natCast_mul_pow_sub n' longer.le]
      exact_mod_cast kept
    · -- The larger number has lost a decimal that the smaller one keeps.
      have step := le_ten_mul_coefficientAt next large
      have order : coefficientAt n scale k ≤ 10 * coefficientAt n' scale' k' :=
        (Nat.le_sub_one_of_lt found.small).trans step
      calc (coefficientAt n scale k / 10 ^ k : ℚ)
        _ ≤ coefficientAt n scale k / 10 ^ (k' + 1) := by
          gcongr
          · norm_num
          · exact longer
        _ ≤ (10 * coefficientAt n' scale' k' : ℕ) / 10 ^ (k' + 1) := by gcongr
        _ = coefficientAt n' scale' k' / 10 ^ k' := by
          push_cast
          rw [pow_succ', mul_div_mul_left _ _ (by norm_num)]

variable {units units' : ℤ}

theorem exists_isScale_of_fit? (found : fit? units scale = some a) :
    ∃ k, IsScale units.natAbs scale k ∧ a.toRat =
      (if units < 0 then -1 else 1) * (coefficientAt units.natAbs scale k / 10 ^ k : ℚ) := by
  obtain ⟨k, reached, parts, longest⟩ := exists_scale_of_fitAtMost? found
  have largest (j : ℕ) (le : j ≤ Nat.min scale 28) (above : k < j) :
      2 ^ 96 ≤ coefficientAt units.natAbs scale j := by
    by_contra small
    obtain ⟨b, fits⟩ := ofParts?_of_fits (decide (units < 0)) (not_le.1 small)
      (Nat.le_trans le (Nat.min_le_right _ _))
    exact Option.some_ne_none b (fits.symm.trans (longest j le above))
  exact ⟨k, ⟨reached, coefficient_lt_of_ofParts? parts, largest⟩,
    by simpa [coefficientAt] using toRat_of_ofParts? parts⟩

/-- Of two numbers the larger one is not rounded to less. -/
theorem toRat_le_of_fit? (found : fit? units scale = some a) (found' : fit? units' scale' = some b)
    (le : (units / 10 ^ scale : ℚ) ≤ units' / 10 ^ scale') : a.toRat ≤ b.toRat := by
  obtain ⟨k, isScale, value⟩ := exists_isScale_of_fit? found
  obtain ⟨k', isScale', value'⟩ := exists_isScale_of_fit? found'
  -- Below zero the order of the coefficients is the other way around.
  rcases lt_or_ge units 0 with below | above
  · rcases lt_or_ge units' 0 with below' | above'
    · rw [value, value', if_pos below, if_pos below', neg_one_mul, neg_one_mul, neg_le_neg_iff]
      apply isScale'.mono isScale
      rw [Nat.cast_natAbs, Nat.cast_natAbs, abs_of_neg below, abs_of_neg below']
      push_cast
      rwa [neg_div, neg_div, neg_le_neg_iff]
    · exact (toRat_nonpos_of_fit? found below.le).trans (toRat_nonneg_of_fit? found' above')
  · have above' : 0 ≤ units' := by
      have nonneg : (0 : ℚ) ≤ units' / 10 ^ scale' := le_trans (by positivity) le
      rwa [le_div_iff₀ (by positivity), zero_mul, Int.cast_nonneg_iff] at nonneg
    rw [value, value', if_neg (not_lt.2 above), if_neg (not_lt.2 above'), one_mul, one_mul]
    apply isScale.mono isScale'
    rwa [Nat.cast_natAbs, Nat.cast_natAbs, abs_of_nonneg above, abs_of_nonneg above']

/-! ### What a number is rounded to -/

/-- The second number is what the first one is rounded to, in some form of it. -/
def RoundsTo (q r : ℚ) : Prop :=
  ∃ (units : ℤ) (scale : ℕ), q = units / 10 ^ scale ∧ (fit? units scale).map toRat = some r

namespace RoundsTo

/-- Rounding keeps the order. -/
theorem mono (left : RoundsTo p r) (right : RoundsTo q s) (le : p ≤ q) : r ≤ s := by
  obtain ⟨units, scale, rfl, answer⟩ := left
  obtain ⟨units', scale', rfl, answer'⟩ := right
  obtain ⟨a, found, rfl⟩ := Option.map_eq_some_iff.1 answer
  obtain ⟨b, found', rfl⟩ := Option.map_eq_some_iff.1 answer'
  exact toRat_le_of_fit? found found' le

/-- A number is rounded to one number only. -/
theorem unique (left : RoundsTo q r) (right : RoundsTo q s) : r = s :=
  le_antisymm (left.mono right le_rfl) (right.mono left le_rfl)

end RoundsTo

/-- An amount is rounded to itself. -/
theorem roundsTo_toRat (a : Decimal) : RoundsTo a.toRat a.toRat :=
  ⟨a.units, a.scale, rfl, fit?_of_fits a.scale_le a.fits_toRat⟩

theorem roundsTo_zero : RoundsTo 0 0 := by
  simpa using roundsTo_toRat zero

/-- A number floored at zero is rounded to what it is rounded to, floored at zero. -/
theorem RoundsTo.max_zero (rounds : RoundsTo q r) : RoundsTo (Max.max 0 q) (Max.max 0 r) := by
  rcases le_total q 0 with nonpos | nonneg
  · rw [max_eq_left nonpos, max_eq_left (rounds.mono roundsTo_zero nonpos)]
    exact roundsTo_zero
  · rwa [max_eq_right nonneg, max_eq_right (roundsTo_zero.mono rounds nonneg)]

theorem roundsTo_sub? (found : a.sub? b = some c) : RoundsTo (a.toRat - b.toRat) c.toRat := by
  rcases sub?_cases a b with exact_ | rounded
  · rw [found, Option.map_some, Option.some.injEq] at exact_
    rw [← exact_]
    exact roundsTo_toRat c
  · exact ⟨_, _, (differenceUnits_div a b).symm, by rw [← rounded, found, Option.map_some]⟩

/-- A number too small for the longest scale is rounded to zero. -/
theorem roundsTo_zero_of_tiny (left : a.coefficient < 2 ^ 32) (right : b.coefficient < 2 ^ 32)
    (deep : 48 ≤ a.scale + b.scale) : RoundsTo (a.toRat * b.toRat) 0 := by
  have small := abs_mul_le_of_tiny left right deep
  -- Half a unit of the longest scale is itself rounded to zero, on both sides.
  have upper : RoundsTo (5 / 10 ^ 29) 0 := ⟨5, 29, by norm_num, by decide +kernel⟩
  have lower : RoundsTo (-(5 / 10 ^ 29)) 0 := ⟨-5, 29, by norm_num, by decide +kernel⟩
  obtain ⟨above, below⟩ := abs_le.1 small
  have inRange : |a.toRat * b.toRat| ≤ 2 ^ 96 - 1 := small.trans (by norm_num)
  rw [← productUnits_div] at inRange above below ⊢
  obtain ⟨c, found, -⟩ := exists_nearest_fit? inRange
  have rounds : RoundsTo (((a.units * b.units : ℤ) : ℚ) / 10 ^ (a.scale + b.scale)) c.toRat :=
    ⟨_, _, rfl, by rw [found, Option.map_some]⟩
  have zero_left : c.toRat = 0 :=
    le_antisymm (rounds.mono upper below) (lower.mono rounds above)
  rwa [zero_left] at rounds

theorem roundsTo_mul? (found : a.mul? b = some c) : RoundsTo (a.toRat * b.toRat) c.toRat := by
  rcases mul?_cases a b with exact_ | ⟨vanished, left, right, deep⟩ | rounded
  · rw [found, Option.map_some, Option.some.injEq] at exact_
    rw [← exact_]
    exact roundsTo_toRat c
  · rw [found, Option.some.injEq] at vanished
    rw [vanished, toRat_zero]
    exact roundsTo_zero_of_tiny left right deep
  · exact ⟨_, _, (productUnits_div a b).symm, by rw [← rounded, found, Option.map_some]⟩

/-! ### Operations held in range -/

/-- A difference floored at zero is rounded, however far the range it would fall. -/
theorem roundsTo_nonNegative_saturatingSub (a : Decimal) (nonneg : 0 ≤ b.toRat) :
    RoundsTo (Max.max 0 (a.toRat - b.toRat)) (a.saturatingSub b).nonNegative.toRat := by
  rw [toRat_nonNegative]
  cases found : a.sub? b with
  | some c =>
    rw [saturatingSub, found, Option.getD_some]
    exact (roundsTo_sub? found).max_zero
  | none =>
    -- Only a number below zero, less one above it, can leave the range.
    have below : a.toRat < 0 := by
      by_contra above
      obtain ⟨c, found'⟩ := exists_sub? (not_lt.1 above) nonneg
      rw [found] at found'
      cases found'
    have signed := (Bool.and_eq_true_iff.1 (toRat_lt_zero_iff.1 below)).1
    have floor : least.toRat ≤ 0 := by
      rw [← toRat_zero, ← le_iff_toRat]
      decide
    rw [saturatingSub, found, Option.getD_none, extreme, signed, if_pos rfl,
      max_eq_left floor, max_eq_left (by linarith)]
    exact roundsTo_zero

/-- A product with a fraction stays in range, and is rounded. -/
theorem roundsTo_saturatingMul (nonneg : 0 ≤ a.toRat) (atMostOne : a.toRat ≤ 1)
    (nonneg' : 0 ≤ b.toRat) : RoundsTo (a.toRat * b.toRat) (a.saturatingMul b).toRat := by
  have product : 0 ≤ a.toRat * b.toRat := mul_nonneg nonneg nonneg'
  have inRange : |a.toRat * b.toRat| ≤ 2 ^ 96 - 1 := by
    rw [abs_of_nonneg product]
    exact (mul_le_of_le_one_left nonneg' atMostOne).trans ((le_abs_self _).trans b.abs_toRat_le)
  obtain ⟨c, found, -⟩ := exists_nearest_mul? inRange
  rw [saturatingMul, found, Option.getD_some]
  exact roundsTo_mul? found

end Decimal

end IncomeTax

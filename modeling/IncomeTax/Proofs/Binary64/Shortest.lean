import IncomeTax.Proofs.Binary64.Round

/-!
# The fewest digits that read back

Powers of ten are tried from the largest. At each of them a multiple rounds to the number exactly
when one of the two around the number does, because the numbers that round to it make up an
interval. So the search ends at the largest power that has such a multiple.

A decimal of at most fifteen digits is found again from the number it was rounded to. The interval
is so short that no other multiple of its power lies in it, and a multiple of a larger power is also
one of the smaller.

## Main results

* `Binary64.shortestFrom_cases` — one step of the search
* `Binary64.IsNear.eq_of_few` — decimals of at most fifteen digits that round to one result
* `Binary64.shortest_eq` — a decimal of at most fifteen digits is found again
-/

namespace IncomeTax.Binary64

variable {m c k l n : ℕ} {e p q : ℤ}

/-! ### One power of ten -/

/-- The unit of the bounds in the search. -/
def bitUnit (e p : ℤ) : ℕ := (powerOfTwo (e - 2)).1 * 10 ^ (-p).toNat

/-- The unit of the multiples in the search. -/
def digitUnit (e p : ℤ) : ℕ := (powerOfTwo (e - 2)).2 * 10 ^ p.toNat

/-- The number in units of a power of ten, rounded down. -/
def floorAt (m : ℕ) (e p : ℤ) : ℕ := 4 * m * bitUnit e p / digitUnit e p

/-- The multiple of the power of ten rounds to the number, as the search decides it. -/
def fits (m : ℕ) (e p : ℤ) (c : ℕ) : Bool :=
  c != 0 && if m % 2 = 0 then
      lowerEnd m e * bitUnit e p ≤ c * digitUnit e p &&
        c * digitUnit e p ≤ (4 * m + 2) * bitUnit e p
    else
      lowerEnd m e * bitUnit e p < c * digitUnit e p &&
        c * digitUnit e p < (4 * m + 2) * bitUnit e p

/-- One step of the search. -/
theorem shortestFrom_succ (m : ℕ) (e : ℤ) (fuel : ℕ) (p : ℤ) :
    shortestFrom m e (fuel + 1) p =
      if fits m e p (floorAt m e p) && (!fits m e p (floorAt m e p + 1) ||
          2 * (4 * m * bitUnit e p) < (2 * floorAt m e p + 1) * digitUnit e p) then
        (floorAt m e p, p)
      else if fits m e p (floorAt m e p + 1) then (floorAt m e p + 1, p)
      else shortestFrom m e fuel (p - 1) := by
  rfl

/-- Both units are the same multiple of what they stand for. -/
theorem exists_scale (e p : ℤ) : ∃ scale : ℚ, 0 < scale ∧
    (bitUnit e p : ℚ) = 2 ^ (e - 2) * scale ∧ (digitUnit e p : ℚ) = 10 ^ p * scale := by
  have down : (0 : ℚ) < (powerOfTwo (e - 2)).2 := by exact_mod_cast (powerOfTwo_pos (e - 2)).2
  refine ⟨(powerOfTwo (e - 2)).2 * 10 ^ (-p).toNat, by positivity, ?_, ?_⟩
  · rw [bitUnit, ← powerOfTwo_div]
    push_cast
    field_simp
  · rw [digitUnit, zpow_eq_div (by norm_num : (10 : ℚ) ≠ 0) p]
    push_cast
    field_simp

theorem digitUnit_pos (e p : ℤ) : 0 < digitUnit e p :=
  Nat.mul_pos (powerOfTwo_pos _).2 (Nat.pow_pos (by decide))

theorem bitUnit_le_iff :
    l * bitUnit e p ≤ c * digitUnit e p ↔ (l * 2 ^ (e - 2) : ℚ) ≤ c * 10 ^ p := by
  obtain ⟨scale, positive, bit, digit⟩ := exists_scale e p
  rw [← Nat.cast_le (α := ℚ), Nat.cast_mul, Nat.cast_mul, bit, digit, ← mul_assoc, ← mul_assoc,
    mul_le_mul_iff_left₀ positive]

theorem digitUnit_le_iff :
    c * digitUnit e p ≤ l * bitUnit e p ↔ (c * 10 ^ p : ℚ) ≤ l * 2 ^ (e - 2) := by
  obtain ⟨scale, positive, bit, digit⟩ := exists_scale e p
  rw [← Nat.cast_le (α := ℚ), Nat.cast_mul, Nat.cast_mul, bit, digit, ← mul_assoc, ← mul_assoc,
    mul_le_mul_iff_left₀ positive]

theorem fits_iff : fits m e p c = true ↔ c ≠ 0 ∧ IsNear m e (c * 10 ^ p) := by
  have upper : ((4 * m + 2 : ℕ) : ℚ) = 4 * m + 2 := by norm_cast
  unfold fits
  rw [Bool.and_eq_true, bne_iff_ne]
  refine and_congr_right fun _ => ?_
  split
  next even =>
    rw [Bool.and_eq_true, decide_eq_true_eq, decide_eq_true_eq, bitUnit_le_iff, digitUnit_le_iff,
      upper]
    exact ⟨fun ⟨above, below⟩ => ⟨above, below, fun odd => by omega⟩,
      fun near => ⟨near.above, near.below⟩⟩
  next odd =>
    rw [Bool.and_eq_true, decide_eq_true_eq, decide_eq_true_eq, ← not_le, ← not_le,
      bitUnit_le_iff, digitUnit_le_iff, upper, not_le, not_le]
    refine ⟨fun ⟨above, below⟩ => ⟨above.le, below.le, fun _ => ⟨above.ne', below.ne⟩⟩,
      fun near => ?_⟩
    have inside := near.inside (by omega)
    exact ⟨inside.1.symm.lt_of_le near.above, inside.2.lt_of_le near.below⟩

/-- The number lies between two multiples of a power of ten. -/
theorem floorAt_spec (m : ℕ) (e p : ℤ) :
    (floorAt m e p * 10 ^ p : ℚ) ≤ m * 2 ^ e ∧
      (m * 2 ^ e : ℚ) ≤ (floorAt m e p + 1 : ℕ) * 10 ^ p := by
  have same : (m * 2 ^ e : ℚ) = (4 * m : ℕ) * 2 ^ (e - 2) := by
    rw [mul_zpow_eq_quarters]
    push_cast
    rfl
  rw [same, ← digitUnit_le_iff, ← bitUnit_le_iff]
  refine ⟨Nat.div_mul_le_self _ _, ?_⟩
  rw [Nat.add_one_mul (floorAt m e p)]
  exact (Nat.lt_div_mul_add (digitUnit_pos e p)).le

/-- A power of ten that has a multiple near to the number has one next to it. -/
theorem fits_floorAt (full : IsFull m) (found : fits m e p k = true) :
    fits m e p (floorAt m e p) = true ∨ fits m e p (floorAt m e p + 1) = true := by
  obtain ⟨nonzero, near⟩ := fits_iff.1 found
  obtain ⟨low, high⟩ := floorAt_spec m e p
  have power : (0 : ℚ) ≤ 10 ^ p := by positivity
  rcases Nat.lt_or_ge (floorAt m e p) k with above | below
  · have le : ((floorAt m e p + 1 : ℕ) : ℚ) ≤ k := by exact_mod_cast above
    exact .inr (fits_iff.2 ⟨Nat.succ_ne_zero _, (isNear_self full e).between near high
      (mul_le_mul_of_nonneg_right le power)⟩)
  · have le : (k : ℚ) ≤ floorAt m e p := by exact_mod_cast below
    exact .inl (fits_iff.2 ⟨by omega, near.between (isNear_self full e)
      (mul_le_mul_of_nonneg_right le power) low⟩)

/-- The search ends at a power of ten that has a multiple near to the number, with such a multiple;
otherwise it goes on. -/
theorem shortestFrom_cases (full : IsFull m) (fuel : ℕ) (p : ℤ) :
    (∃ c, shortestFrom m e (fuel + 1) p = (c, p) ∧ IsNear m e (c * 10 ^ p)) ∨
      (∀ k, fits m e p k = false) ∧
        shortestFrom m e (fuel + 1) p = shortestFrom m e fuel (p - 1) := by
  rw [shortestFrom_succ]
  split
  next lower =>
    rw [Bool.and_eq_true] at lower
    exact .inl ⟨_, rfl, (fits_iff.1 lower.1).2⟩
  next missed =>
    split
    next upper => exact .inl ⟨_, rfl, (fits_iff.1 upper).2⟩
    next missed' =>
      refine .inr ⟨fun k => ?_, rfl⟩
      rw [Bool.not_eq_true] at missed'
      rw [missed', Bool.not_false, Bool.true_or, Bool.and_true] at missed
      by_contra found
      rw [Bool.not_eq_false] at found
      rcases fits_floorAt full found with lower | upper
      · exact missed lower
      · rw [missed'] at upper
        cases upper

/-! ### Few digits -/

/-- Where two decimals of one power of ten round to one result, and one of them has at most fifteen
digits, they are the same. -/
theorem IsNear.eq_of_few (full : IsFull m) (near : IsNear m e (c * 10 ^ p))
    (near' : IsNear m e (k * 10 ^ p)) (few : k < 10 ^ 15) : c = k := by
  have power : (0 : ℚ) < 10 ^ p := by positivity
  have unit : (0 : ℚ) < 2 ^ (e - 2) := by positivity
  have least : (2 ^ 54 - 2 : ℚ) ≤ lowerEnd m e := by
    have large : 2 ^ 54 - 2 ≤ lowerEnd m e :=
      (Nat.sub_le_sub_right (Nat.mul_le_mul_left 4 full.1) 2).trans (lowerEnd_le m e)
    calc (2 ^ 54 - 2 : ℚ) = (2 ^ 54 - 2 : ℕ) := by norm_num
      _ ≤ lowerEnd m e := by exact_mod_cast large
  have width : (4 * m - 2 : ℚ) ≤ lowerEnd m e := by
    have := full.1
    rw [sub_le_iff_le_add]
    exact_mod_cast tsub_le_iff_right.1 (lowerEnd_le m e)
  -- With fifteen digits the power of ten is larger than the whole interval.
  have wide : (4 * 2 ^ (e - 2) : ℚ) < 10 ^ p := by
    have lower := near'.above
    have upper : (k * 10 ^ p : ℚ) < 10 ^ 15 * 10 ^ p :=
      mul_lt_mul_of_pos_right (by exact_mod_cast few) power
    nlinarith
  have apart : |(c * 10 ^ p - k * 10 ^ p : ℚ)| < 10 ^ p := by
    have spread :
        ((4 * m + 2) * 2 ^ (e - 2) - lowerEnd m e * 2 ^ (e - 2) : ℚ) ≤ 4 * 2 ^ (e - 2) := by
      rw [← sub_mul]
      exact mul_le_mul_of_nonneg_right (by linarith) unit.le
    rw [abs_lt]
    constructor <;> linarith [near.above, near.below, near'.above, near'.below]
  rw [← sub_mul, abs_mul, abs_of_pos power, mul_lt_iff_lt_one_left power] at apart
  have same : |(c - k : ℤ)| < 1 := by exact_mod_cast apart
  have := Int.abs_lt_one_iff.1 same
  omega

/-- The search finds a decimal of at most fifteen digits that rounds to the number, when it starts
at its power of ten or a larger one that is not too far away. -/
theorem shortestFrom_eq (full : IsFull m) (nonzero : k ≠ 0) (few : k < 10 ^ 15)
    (near : IsNear m e (k * 10 ^ q)) {fuel : ℕ} (above : q ≤ p) (reached : p - q < fuel) :
    ∃ c r, shortestFrom m e fuel p = (c, r) ∧ q ≤ r ∧ (c * 10 ^ r : ℚ) = k * 10 ^ q := by
  induction fuel generalizing p with
  | zero => omega
  | succ fuel ih =>
    rcases shortestFrom_cases full fuel p with ⟨c, found, near'⟩ | ⟨missed, next⟩
    · refine ⟨c, p, found, above, ?_⟩
      -- A multiple of the larger power is one of the smaller power, too.
      have power : (10 : ℚ) ^ p = (10 ^ (p - q).toNat : ℕ) * 10 ^ q := by
        rw [Nat.cast_pow, ← zpow_natCast, Int.toNat_of_nonneg (by omega), Nat.cast_ofNat,
          ← zpow_add₀ (by norm_num), sub_add_cancel]
      rw [power, ← mul_assoc, ← Nat.cast_mul] at near' ⊢
      rw [near'.eq_of_few full near few]
    · have differ : q ≠ p := by
        rintro rfl
        have found := fits_iff.2 ⟨nonzero, near⟩
        rw [missed] at found
        cases found
      rw [next]
      exact ih (by omega) (by push_cast at reached; omega)

/-! ### The first power -/

/-- The power of ten that is tried first for numbers up to a power of two. -/
def firstPower (y : ℤ) : ℤ := y * 30103 / 100000 + 1

theorem firstPower_table : ∀ i : ℕ, i < 200 →
    2 ^ ((i : ℤ) - 100).toNat * 10 ^ (-firstPower (i - 100)).toNat ≤
        10 ^ (firstPower (i - 100)).toNat * 2 ^ (-((i : ℤ) - 100)).toNat ∧
      10 ^ (firstPower (i - 100) - 3).toNat * 2 ^ (-((i : ℤ) - 100 - 2)).toNat ≤
        2 ^ ((i : ℤ) - 100 - 2).toNat * 10 ^ (-(firstPower (i - 100) - 3)).toNat := by
  decide +kernel

theorem zpow_le_zpow_of_toNat {a b : ℕ} (left : a ≠ 0) (right : b ≠ 0) {x y : ℤ}
    (le : a ^ x.toNat * b ^ (-y).toNat ≤ b ^ y.toNat * a ^ (-x).toNat) : (a : ℚ) ^ x ≤ b ^ y := by
  have left' : (0 : ℚ) < a ^ (-x).toNat := by positivity
  have right' : (0 : ℚ) < b ^ (-y).toNat := by positivity
  rw [zpow_eq_div (by exact_mod_cast left) x, zpow_eq_div (by exact_mod_cast right) y,
    div_le_div_iff₀ left' right']
  exact_mod_cast le

/-- The first power is above the numbers, and not far. -/
theorem firstPower_spec {y : ℤ} (large : -100 ≤ y) (small : y < 100) :
    (2 : ℚ) ^ y ≤ 10 ^ firstPower y ∧ (10 : ℚ) ^ (firstPower y - 3) ≤ 2 ^ (y - 2) := by
  obtain ⟨i, rfl⟩ : ∃ i : ℕ, y = i - 100 := ⟨(y + 100).toNat, by omega⟩
  obtain ⟨above, below⟩ := firstPower_table i (by omega)
  exact ⟨zpow_le_zpow_of_toNat two_ne_zero (by decide) above,
    zpow_le_zpow_of_toNat (by decide) two_ne_zero below⟩

variable {v : ℚ}

/-- What rounds to a number is below the next power of two. -/
theorem IsNear.lt_zpow (near : IsNear m e v) (full : IsFull m) : v < 2 ^ (e + 53) := by
  have bits : (4 * m + 2 : ℚ) < 2 ^ 55 := by
    have := full.2
    exact_mod_cast (by omega : 4 * m + 2 < 2 ^ 55)
  calc v ≤ (4 * m + 2) * 2 ^ (e - 2) := near.below
    _ < 2 ^ 55 * 2 ^ (e - 2) := mul_lt_mul_of_pos_right bits (by positivity)
    _ = 2 ^ (e + 53) := by
      rw [← zpow_natCast, ← zpow_add₀ two_ne_zero]
      congr 1
      push_cast
      ring

/-- What rounds to a number is not below the power of two before it. -/
theorem IsNear.zpow_le (near : IsNear m e v) (full : IsFull m) : 2 ^ (e + 51) ≤ v := by
  have bits : (2 ^ 53 : ℚ) ≤ lowerEnd m e := by
    have := full.1
    have := lowerEnd_le m e
    exact_mod_cast (by omega : 2 ^ 53 ≤ lowerEnd m e)
  calc (2 ^ (e + 51) : ℚ) = 2 ^ 53 * 2 ^ (e - 2) := by
        rw [← zpow_natCast, ← zpow_add₀ two_ne_zero]
        congr 1
        push_cast
        ring
    _ ≤ lowerEnd m e * 2 ^ (e - 2) := mul_le_mul_of_nonneg_right bits (by positivity)
    _ ≤ v := near.above

/-- The first power is above that of a decimal of at most fifteen digits, and not far. -/
theorem firstPower_bounds (full : IsFull m) (nonzero : k ≠ 0) (few : k < 10 ^ 15)
    (near : IsNear m e (k * 10 ^ q)) (large : (2 : ℚ) ^ (-94 : ℤ) ≤ k * 10 ^ q)
    (small : (k * 10 ^ q : ℚ) < 2 ^ (96 : ℤ)) :
    q < firstPower (e + 53) ∧ firstPower (e + 53) < q + 18 := by
  have upper := near.lt_zpow full
  have lower := near.zpow_le full
  have above_least : -94 < e + 53 :=
    (zpow_lt_zpow_iff_right₀ one_lt_two).1 (large.trans_lt upper)
  have below_greatest : e + 51 < 96 :=
    (zpow_lt_zpow_iff_right₀ one_lt_two).1 (lower.trans_lt small)
  obtain ⟨above, below⟩ := firstPower_spec (y := e + 53) (by omega) (by omega)
  rw [add_sub_assoc] at below
  have power : (0 : ℚ) < 10 ^ q := by positivity
  have ten : (1 : ℚ) < 10 := by norm_num
  have one : (1 : ℚ) ≤ k := by exact_mod_cast Nat.one_le_iff_ne_zero.2 nonzero
  constructor
  · refine (zpow_lt_zpow_iff_right₀ ten).1 ?_
    calc (10 : ℚ) ^ q ≤ k * 10 ^ q := le_mul_of_one_le_left power.le one
      _ < 2 ^ (e + 53) := upper
      _ ≤ 10 ^ firstPower (e + 53) := above
  · have close : firstPower (e + 53) - 3 < q + 15 := by
      refine (zpow_lt_zpow_iff_right₀ ten).1 ?_
      calc (10 : ℚ) ^ (firstPower (e + 53) - 3) ≤ 2 ^ (e + (53 - 2)) := below
        _ ≤ k * 10 ^ q := lower
        _ < 10 ^ 15 * 10 ^ q := mul_lt_mul_of_pos_right (by exact_mod_cast few) power
        _ = 10 ^ (q + 15) := by
          rw [add_comm q, zpow_add₀ (by norm_num)]
          norm_cast
    omega

/-- A decimal of at most fifteen digits is found again from the number it is rounded to. -/
theorem shortest_eq (full : IsFull m) (nonzero : k ≠ 0) (few : k < 10 ^ 15)
    (near : IsNear m e (k * 10 ^ q)) (large : (2 : ℚ) ^ (-94 : ℤ) ≤ k * 10 ^ q)
    (small : (k * 10 ^ q : ℚ) < 2 ^ (96 : ℤ)) :
    ∃ c r, shortest m e = (c, r) ∧ q ≤ r ∧ (c * 10 ^ r : ℚ) = k * 10 ^ q := by
  obtain ⟨above, close⟩ := firstPower_bounds full nonzero few near large small
  have log : Nat.log2 m = 52 := (Nat.log2_eq_iff (by have := full.1; omega)).2 full
  have first : (e + Nat.log2 m + 1) * 30103 / 100000 + 1 = firstPower (e + 53) := by
    rw [log, firstPower, Nat.cast_ofNat, add_assoc]
    rfl
  rw [shortest, first]
  exact shortestFrom_eq full nonzero few near above.le (by push_cast; omega)

end IncomeTax.Binary64

/-!
# Rounded quotients

Two ways to round the quotient of two natural numbers to a whole number. They differ only on a
half: one takes the even neighbour, the other the upper one.
-/

namespace IncomeTax.RoundedQuotient

/-- The quotient rounded to the nearest whole number, a half to the even neighbour. -/
def halfEven (n divisor : Nat) : Nat :=
  let q := n / divisor
  let twice := 2 * (n % divisor)
  if twice < divisor then q
  else if divisor < twice then q + 1
  else if q % 2 = 0 then q
  else q + 1

/-- The quotient by an even divisor rounded to the nearest whole number, a half upwards. -/
def halfUp (n divisor : Nat) : Nat := (n + divisor / 2) / divisor

/-- A quotient by at least two, rounded half up, does not exceed its dividend. -/
theorem halfUp_le (n : Nat) {divisor : Nat} (two_le : 2 ≤ divisor) : halfUp n divisor ≤ n := by
  unfold halfUp
  rcases Nat.eq_zero_or_pos n with rfl | positive
  · have below : divisor / 2 < divisor := Nat.div_lt_self (by omega) (by omega)
    exact Nat.le_of_eq (by rw [Nat.zero_add, Nat.div_eq_of_lt below])
  · apply Nat.le_of_lt_succ
    rw [Nat.div_lt_iff_lt_mul (by omega)]
    calc n + divisor / 2 < n + divisor := by omega
      _ ≤ n * divisor + divisor := Nat.add_le_add_right (Nat.le_mul_of_pos_right n (by omega)) _
      _ = (n + 1) * divisor := by rw [Nat.add_mul, Nat.one_mul]

end IncomeTax.RoundedQuotient

import IncomeTax.Decimal.Basic
import IncomeTax.RoundedQuotient

/-!
# Rounding to cents

An amount of at most two decimals is left as it is. Any other amount gets exactly two, and a
half-way case moves away from zero, so a refund and a debt of the same size round alike. An amount
that rounds to zero loses its sign, while a zero keeps the one it has.
-/

namespace IncomeTax.Decimal

/-- The amount in cents: unchanged up to two decimals, else rounded half away from zero. -/
def roundCents (a : Decimal) : Decimal :=
  if large : a.scale ≤ 2 then a
  else
    let cents := RoundedQuotient.halfUp a.coefficient (Nat.pow 10 (a.scale - 2))
    { negative := a.negative && (a.isZero || cents != 0)
      coefficient := cents
      scale := 2
      coefficient_lt := by
        refine Nat.lt_of_le_of_lt (RoundedQuotient.halfUp_le _ ?_) a.coefficient_lt
        calc 2 ≤ Nat.pow 10 1 := by decide
          _ ≤ Nat.pow 10 (a.scale - 2) := Nat.pow_le_pow_right (by decide) (by omega)
      scale_le := cents_le_maxScale }

end IncomeTax.Decimal

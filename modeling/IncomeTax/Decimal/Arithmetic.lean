import IncomeTax.Decimal.Basic
import IncomeTax.RoundedQuotient

/-!
# Sums and products of amounts

The exact sum or product of two amounts can need more than 96 bits or more than 28 decimals. It is
then rounded, half to even, to the largest scale at which its coefficient fits; a number too large
even at scale zero overflows. The operations ending in a question mark answer `none` on overflow,
the saturating ones the greatest or least amount.

## Main definitions

`Decimal.fit?` is the rounding step shared by all operations; `add?`, `sub?`, `mul?` and `sum?` are
built on it, and `saturatingAdd`, `saturatingSub` and `saturatingMul` on those.
-/

namespace IncomeTax.Decimal

/-- The number `± n / 10 ^ scale` rounded to the largest scale, at most `bound`, at which its
coefficient fits. -/
def fitAtMost? (negative : Bool) (n scale : Nat) : (bound : Nat) → Option Decimal
  | 0 => ofParts? negative (RoundedQuotient.halfEven n (Nat.pow 10 scale)) 0
  | bound + 1 =>
    let rounded := RoundedQuotient.halfEven n (Nat.pow 10 (scale - (bound + 1)))
    match ofParts? negative rounded (bound + 1) with
    | some a => some a
    | none => fitAtMost? negative n scale bound

/-- The number `units / 10 ^ scale` as an amount, rounded as far as needed; `none` when it is too
large at every scale. -/
def fit? (units : Int) (scale : Nat) : Option Decimal :=
  fitAtMost? (decide (units < 0)) units.natAbs scale (Nat.min scale maxScale)

/-- The sum: the other amount when one is zero, else the exact sum at the larger scale, rounded
only if it does not fit. -/
def add? (a b : Decimal) : Option Decimal :=
  if a.isZero then some b
  else if b.isZero then some a
  else
    let scale := Nat.max a.scale b.scale
    fit? (a.units * Nat.pow 10 (scale - a.scale) + b.units * Nat.pow 10 (scale - b.scale)) scale

/-- The difference, with the rounding of `add?`. -/
def sub? (a b : Decimal) : Option Decimal :=
  if a.isZero then some (if b.isZero then b else b.neg)
  else if b.isZero then some a
  else
    let scale := Nat.max a.scale b.scale
    fit? (a.units * Nat.pow 10 (scale - a.scale) - b.units * Nat.pow 10 (scale - b.scale)) scale

/-- The product: plain zero when a factor is zero, or when two coefficients of at most 32 bits meet
at scales of more than 47 together; else the exact product, rounded only if it does not fit. -/
def mul? (a b : Decimal) : Option Decimal :=
  if a.isZero || b.isZero then some zero
  else if a.coefficient < Nat.pow 2 32 && b.coefficient < Nat.pow 2 32 &&
      47 < a.scale + b.scale then
    some zero
  else fit? (a.units * b.units) (a.scale + b.scale)

/-- The sum of a list, taken from the left and started at plain zero. -/
def sum? (amounts : List Decimal) : Option Decimal := amounts.foldlM add? zero

/-- The amount at the end of the range, on the given side. -/
def extreme (negative : Bool) : Decimal := if negative then least else greatest

/-- The sum, held inside the range. -/
def saturatingAdd (a b : Decimal) : Decimal := (a.add? b).getD (extreme a.negative)

/-- The difference, held inside the range. -/
def saturatingSub (a b : Decimal) : Decimal := (a.sub? b).getD (extreme a.negative)

/-- The product, held inside the range. -/
def saturatingMul (a b : Decimal) : Decimal := (a.mul? b).getD (extreme (a.negative != b.negative))

@[simp] theorem sum?_nil : sum? [] = some zero := rfl

end IncomeTax.Decimal

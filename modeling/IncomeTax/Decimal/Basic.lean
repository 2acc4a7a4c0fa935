/-!
# Decimal amounts

An amount is a sign, a coefficient below `2 ^ 96` and a scale of at most 28. It stands for the
rational number `± coefficient / 10 ^ scale`. One number can be written at several scales (`1.0`,
`1.00`); the scale is kept, because it shows whenever the amount is written out, while comparison
looks at the number alone. Zero can carry a negative sign.

## Main definitions

`Decimal` is the type, `Decimal.units` its signed coefficient, and `≤` and `<` compare numbers by
cross-multiplication. `Decimal.ofParts?` builds an amount from parts that may not fit.
-/

namespace IncomeTax

/-- A signed number of at most 96 bits, divided by a power of ten of at most `10 ^ 28`. -/
structure Decimal where
  negative : Bool
  coefficient : Nat
  scale : Nat
  coefficient_lt : coefficient < Nat.pow 2 96 := by decide
  scale_le : scale ≤ 28 := by decide
  deriving DecidableEq

namespace Decimal

/-- The greatest scale. -/
def maxScale : Nat := 28

/-- Cents are within the greatest scale. -/
theorem cents_le_maxScale : 2 ≤ 28 := by decide

/-- The least coefficient that does not fit. -/
def coefficientLimit : Nat := Nat.pow 2 96

/-- The amount counted in units of `10 ^ -scale`. -/
def units (a : Decimal) : Int :=
  if a.negative then -(a.coefficient : Int) else a.coefficient

/-- Zero at scale zero. -/
def zero : Decimal := ⟨false, 0, 0, by decide, by decide⟩

/-- One at scale zero. -/
def one : Decimal := ⟨false, 1, 0, by decide, by decide⟩

/-- The greatest amount. -/
def greatest : Decimal := ⟨false, Nat.pow 2 96 - 1, 0, by decide, by decide⟩

/-- The least amount. -/
def least : Decimal := ⟨true, Nat.pow 2 96 - 1, 0, by decide, by decide⟩

instance : Inhabited Decimal := ⟨zero⟩

/-- Amounts compare as numbers, whatever their scales. -/
instance : LE Decimal where
  le a b := a.units * Nat.pow 10 b.scale ≤ b.units * Nat.pow 10 a.scale

/-- Amounts compare as numbers, whatever their scales. -/
instance : LT Decimal where
  lt a b := a.units * Nat.pow 10 b.scale < b.units * Nat.pow 10 a.scale

instance (a b : Decimal) : Decidable (a ≤ b) :=
  inferInstanceAs (Decidable (a.units * Nat.pow 10 b.scale ≤ b.units * Nat.pow 10 a.scale))

instance (a b : Decimal) : Decidable (a < b) :=
  inferInstanceAs (Decidable (a.units * Nat.pow 10 b.scale < b.units * Nat.pow 10 a.scale))

theorem le_iff (a b : Decimal) :
    a ≤ b ↔ a.units * Nat.pow 10 b.scale ≤ b.units * Nat.pow 10 a.scale := Iff.rfl

theorem lt_iff (a b : Decimal) :
    a < b ↔ a.units * Nat.pow 10 b.scale < b.units * Nat.pow 10 a.scale := Iff.rfl

/-- Whether the number is zero, at any scale and with either sign. -/
def isZero (a : Decimal) : Bool := a.coefficient == 0

@[simp] theorem isZero_iff (a : Decimal) : a.isZero = true ↔ a.coefficient = 0 := by
  simp [isZero]

/-- The amount with the opposite sign. -/
def neg (a : Decimal) : Decimal := { a with negative := !a.negative }

/-- The amount without its sign. -/
def abs (a : Decimal) : Decimal := { a with negative := false }

/-- The second amount when it is the smaller one, else the first. -/
def min (a b : Decimal) : Decimal := if b < a then b else a

/-- The first amount when it is the larger one, else the second. -/
def max (a b : Decimal) : Decimal := if b < a then a else b

/-- The amount floored at zero. -/
def nonNegative (a : Decimal) : Decimal := a.max zero

/-- The amount with the given parts, when they fit; zero never gets a sign this way. -/
def ofParts? (negative : Bool) (coefficient scale : Nat) : Option Decimal :=
  if fits : coefficient < Nat.pow 2 96 ∧ scale ≤ 28 then
    some ⟨negative && coefficient != 0, coefficient, scale, fits.1, fits.2⟩
  else none

/-- The whole number `n`, when it fits. -/
def ofInt? (n : Int) : Option Decimal := ofParts? (decide (n < 0)) n.natAbs 0

/-- The scale left when all zeros at the end of the fraction are dropped. -/
def trimmedScale (a : Decimal) : Nat :=
  if a.coefficient = 0 then 0 else go a.coefficient a.scale
where
  go (coefficient : Nat) : Nat → Nat
    | 0 => 0
    | scale + 1 => if coefficient % 10 = 0 then go (coefficient / 10) scale else scale + 1

end Decimal

end IncomeTax

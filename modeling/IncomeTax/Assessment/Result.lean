import IncomeTax.Decimal.Basic
import IncomeTax.Declaration.Category

/-!
# Results of a calculation

All amounts of a result are exact, except for the net amount, which is rounded to cents, and the
collectible amount, which is the net amount or zero.
-/

namespace IncomeTax

/-- The tax contributed by one bracket. -/
structure BracketContribution where
  lowerBound : Decimal
  upperBound : Option Decimal
  rate : Decimal
  taxableAmount : Decimal
  tax : Decimal
  deriving DecidableEq

/-- The outcome of a calculation. The net amount is positive when tax is owed and negative when tax
is refunded; the collectible amount is zero when the net amount is below the collection thresholds.
The version is that of the rate table used. -/
structure CalculationResult where
  taxYear : TaxYear
  category : DeclarationCategory
  rateTableVersion : String
  incomeByCategory : OrderedMap IncomeCategory Decimal
  totalIncome : Decimal
  totalDeductions : Decimal
  taxableIncome : Decimal
  brackets : List BracketContribution
  taxBeforeCredits : Decimal
  creditsApplied : Decimal
  taxAfterCredits : Decimal
  withholding : Decimal
  netAmount : Decimal
  collectibleAmount : Decimal
  deriving DecidableEq

/-- Whether the net amount is refunded. -/
def CalculationResult.isRefund (c : CalculationResult) : Bool :=
  c.netAmount.negative && !c.netAmount.isZero

end IncomeTax

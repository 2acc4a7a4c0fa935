import IncomeTax.Assessment.Json
import IncomeTax.Proofs.RateTable.Json

/-!
# Results read back

A result is read back with all its amounts, each with its scale.

## Main definitions

* `BracketContribution.mapAmounts`, `CalculationResult.mapAmounts` — every amount changed

## Main results

* `CalculationResult.readsBack` — what is read of a written result
-/

namespace IncomeTax

open Json (ReadsBack)

theorem IncomeCategory.ofName?_name (c : IncomeCategory) : ofName? c.name = some c := by
  cases c <;> rfl

namespace BracketContribution

/-- The contribution with every amount changed. -/
def mapAmounts (f : Decimal → Decimal) (b : BracketContribution) : BracketContribution where
  lowerBound := f b.lowerBound
  upperBound := b.upperBound.map f
  rate := f b.rate
  taxableAmount := f b.taxableAmount
  tax := f b.tax

@[simp] theorem plain_toJson (b : BracketContribution) : b.toJson.Plain := by simp [toJson]

theorem readsBack : ReadsBack toJson ofJson? (mapAmounts Decimal.unsignedZero) where
  present _ := nofun
  read_write b := by
    rw [ofJson?, toJson, Json.bind_record?_object (by decide)]
    · simp [Decimal.readsBack.read_write, Decimal.readsBack.orNull?_ofOption, mapAmounts]
    · exact .refl _

end BracketContribution

namespace CalculationResult

/-- The result with every amount changed. -/
def mapAmounts (f : Decimal → Decimal) (c : CalculationResult) : CalculationResult where
  taxYear := c.taxYear
  category := c.category
  rateTableVersion := c.rateTableVersion
  incomeByCategory := c.incomeByCategory.mapValues f
  totalIncome := f c.totalIncome
  totalDeductions := f c.totalDeductions
  taxableIncome := f c.taxableIncome
  brackets := c.brackets.map (·.mapAmounts f)
  taxBeforeCredits := f c.taxBeforeCredits
  creditsApplied := f c.creditsApplied
  taxAfterCredits := f c.taxAfterCredits
  withholding := f c.withholding
  netAmount := f c.netAmount
  collectibleAmount := f c.collectibleAmount

@[simp] theorem plain_toJson (c : CalculationResult) : c.toJson.Plain := by simp [toJson]

/-- A result is read back. -/
theorem readsBack : ReadsBack toJson ofJson? (mapAmounts Decimal.unsignedZero) where
  present _ := nofun
  read_write c := by
    have income := (OrderedMap.readsBack IncomeCategory.ofName?_name
      Decimal.readsBack).read_write c.incomeByCategory
    rw [ofJson?, toJson, Json.bind_record?_object (by decide)]
    · simp [TaxYear.readsBack.read_write, DeclarationCategory.readsBack.read_write, Json.text?,
        income, Decimal.readsBack.read_write, BracketContribution.readsBack.list.read_write,
        mapAmounts]
    · exact .refl _

end CalculationResult

end IncomeTax

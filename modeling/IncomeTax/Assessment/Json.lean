import IncomeTax.Assessment.Result
import IncomeTax.RateTable.Json

/-!
# Results in documents

A result is a record of all its amounts, with the income by category as an object. No field may be
missing when a result is read, except that the last bracket of an object may lack its upper bound.
-/

namespace IncomeTax

namespace BracketContribution

/-- The contribution as a record. -/
def toJson (b : BracketContribution) : Json :=
  .object [("lower_bound", b.lowerBound.toJson),
    ("upper_bound", Json.ofOption Decimal.toJson b.upperBound), ("rate", b.rate.toJson),
    ("taxable_amount", b.taxableAmount.toJson), ("tax", b.tax.toJson)]

/-- The contribution of a record. -/
def ofJson? (j : Json) : Option BracketContribution := do
  let r ← j.record? ["lower_bound", "upper_bound", "rate", "taxable_amount", "tax"]
  let lowerBound ← r.required "lower_bound" Decimal.ofJson?
  let upperBound ← r.nullable "upper_bound" Decimal.ofJson?
  let rate ← r.required "rate" Decimal.ofJson?
  let taxableAmount ← r.required "taxable_amount" Decimal.ofJson?
  let tax ← r.required "tax" Decimal.ofJson?
  return ⟨lowerBound, upperBound, rate, taxableAmount, tax⟩

end BracketContribution

namespace CalculationResult

/-- The names of the fields, in order. -/
def fieldNames : List String :=
  ["tax_year", "category", "rate_table_version", "income_by_category", "total_income",
    "total_deductions", "taxable_income", "brackets", "tax_before_credits", "credits_applied",
    "tax_after_credits", "withholding", "net_amount", "collectible_amount"]

/-- The result as a record. -/
def toJson (c : CalculationResult) : Json :=
  .object [("tax_year", c.taxYear.toJson), ("category", c.category.toJson),
    ("rate_table_version", .string c.rateTableVersion),
    ("income_by_category", c.incomeByCategory.toJson IncomeCategory.name Decimal.toJson),
    ("total_income", c.totalIncome.toJson), ("total_deductions", c.totalDeductions.toJson),
    ("taxable_income", c.taxableIncome.toJson),
    ("brackets", Json.ofList BracketContribution.toJson c.brackets),
    ("tax_before_credits", c.taxBeforeCredits.toJson),
    ("credits_applied", c.creditsApplied.toJson), ("tax_after_credits", c.taxAfterCredits.toJson),
    ("withholding", c.withholding.toJson), ("net_amount", c.netAmount.toJson),
    ("collectible_amount", c.collectibleAmount.toJson)]

/-- The result of a record. -/
def ofJson? (j : Json) : Option CalculationResult := do
  let r ← j.record? fieldNames
  let taxYear ← r.required "tax_year" TaxYear.ofJson?
  let category ← r.required "category" DeclarationCategory.ofJson?
  let rateTableVersion ← r.required "rate_table_version" Json.text?
  let incomeByCategory ← r.required "income_by_category"
    (OrderedMap.ofJson? IncomeCategory.ofName? Decimal.ofJson?)
  let totalIncome ← r.required "total_income" Decimal.ofJson?
  let totalDeductions ← r.required "total_deductions" Decimal.ofJson?
  let taxableIncome ← r.required "taxable_income" Decimal.ofJson?
  let brackets ← r.required "brackets" (Json.items? BracketContribution.ofJson?)
  let taxBeforeCredits ← r.required "tax_before_credits" Decimal.ofJson?
  let creditsApplied ← r.required "credits_applied" Decimal.ofJson?
  let taxAfterCredits ← r.required "tax_after_credits" Decimal.ofJson?
  let withholding ← r.required "withholding" Decimal.ofJson?
  let netAmount ← r.required "net_amount" Decimal.ofJson?
  let collectibleAmount ← r.required "collectible_amount" Decimal.ofJson?
  return {
    taxYear, category, rateTableVersion, incomeByCategory, totalIncome, totalDeductions,
    taxableIncome, brackets, taxBeforeCredits, creditsApplied, taxAfterCredits, withholding,
    netAmount, collectibleAmount }

end CalculationResult

end IncomeTax

import IncomeTax.Assessment.Result
import IncomeTax.Decimal.Rounding
import IncomeTax.Declaration.Resolution
import IncomeTax.Filing.Error

/-!
# Assessment of declarations

The calculation runs in six steps: gross income by category and in total; taxable income, which is
total income less the allowed deductions, at least zero; bracket tax, each bracket taxing its part
of the taxable income; tax after credits, at least zero; the net amount, which is that tax less what
was withheld, rounded to cents; and the collectible amount, which is the net amount, or zero when it
does not reach the threshold for collecting or refunding. Rounding to cents happens only once.

An assessment validates a declaration, resolves its claims and calculates it.

## Main definitions

* `RateTable.contributions?` — the tax of each bracket on an income
* `RateTable.directTax?` — the same tax through the base tax of one bracket
* `Declaration.calculate` — the calculation, given the resolved claims
* `Declaration.assess` — validation, resolution and calculation
-/

namespace IncomeTax

namespace RateTable

/-- The name of the threshold below which owed tax is not collected. -/
def minimumAssessment : String := "minimum_assessment"

/-- The name of the threshold below which a refund is not paid. -/
def minimumRefund : String := "minimum_refund"

/-- What one bracket contributes to the tax on an income: nothing if no part of the income lies
above its lower bound. The outer `none` is an overflow. -/
def contribution? (income : Decimal) (bracket : TaxBracket) :
    Option (Option BracketContribution) := do
  let ceiling := match bracket.upperBound with
    | some upper => upper.min income
    | none => income
  let amount := (← ceiling.sub? bracket.lowerBound).nonNegative
  -- A bracket above the income takes no part, and neither does one that only touches it.
  if amount.isZero then return none
  else
    let tax ← amount.mul? bracket.rate
    return some ⟨bracket.lowerBound, bracket.upperBound, bracket.rate, amount, tax⟩

/-- The contributions of the brackets that tax part of an income, none on overflow. -/
def contributions? (t : RateTable) (income : Decimal) : Option (List BracketContribution) :=
  (t.brackets.mapM (contribution? income)).map fun parts => parts.filterMap id

/-- The tax on an income: the base tax of the bracket it falls into, and the rate of the bracket on
what exceeds the lower bound. `none` is an overflow. -/
def directTax? (t : RateTable) (income : Decimal) : Option Decimal :=
  if income ≤ Decimal.zero then some Decimal.zero
  else
    match t.brackets.find? (·.contains income) with
    | none => some Decimal.zero
    | some bracket => do
      let excess ← income.sub? bracket.lowerBound
      let tax ← excess.mul? bracket.rate
      bracket.baseTax.add? tax

/-- Whether the amount is below the threshold with the given name, if there is one. -/
def isBelow (t : RateTable) (name : String) (amount : Decimal) : Bool :=
  (t.threshold? name).any fun threshold => decide (amount < threshold)

/-- The part of a net amount that is collected or paid: all of it, or nothing. -/
def collectible (t : RateTable) (net : Decimal) : Decimal :=
  if Decimal.zero < net ∧ t.isBelow minimumAssessment net then Decimal.zero
  else if net < Decimal.zero ∧ t.isBelow minimumRefund net.neg then Decimal.zero
  else net

end RateTable

/-- Gross income added to that of its category, none on overflow. -/
def addIncome? (totals : OrderedMap IncomeCategory Decimal) (record : IncomeRecord) :
    Option (OrderedMap IncomeCategory Decimal) := do
  let total ← ((totals.find? record.category).getD Decimal.zero).add? record.grossAmount
  return totals.insert record.category total

/-- Gross income by category, none on overflow. -/
def incomeByCategory? (income : List IncomeRecord) : Option (OrderedMap IncomeCategory Decimal) :=
  income.foldlM addIncome? OrderedMap.empty

namespace Declaration

/-- The calculation of a declaration under the table of its key, none on overflow. -/
def calculation? (d : Declaration) (table : RateTable) (r : Resolution) :
    Option CalculationResult := do
  let incomeByCategory ← incomeByCategory? d.content.income
  let totalIncome ← Decimal.sum? incomeByCategory.values
  let totalDeductions ← r.totalDeductions?
  let taxableIncome := (← totalIncome.sub? totalDeductions).nonNegative
  let brackets ← table.contributions? taxableIncome
  let taxBeforeCredits ← Decimal.sum? (brackets.map (·.tax))
  -- Credits can use up the tax but never turn it into a payment.
  let totalCredits ← r.totalCredits?
  let taxAfterCredits := (← taxBeforeCredits.sub? totalCredits).nonNegative
  let creditsApplied ← taxBeforeCredits.sub? taxAfterCredits
  let withholding ← Decimal.sum? (d.content.income.map (·.withholding))
  let netAmount := (← taxAfterCredits.sub? withholding).roundCents
  return {
    taxYear := table.key.taxYear
    category := table.key.category
    rateTableVersion := table.version
    incomeByCategory
    totalIncome
    totalDeductions
    taxableIncome
    brackets
    taxBeforeCredits
    creditsApplied
    taxAfterCredits
    withholding
    netAmount
    collectibleAmount := table.collectible netAmount }

/-- Calculates a declaration under a table, which must be the one it needs. -/
def calculate (d : Declaration) (table : RateTable) (r : Resolution) :
    Except FilingError CalculationResult :=
  if d.rateTableKey ≠ table.key then .error (.state (.tableMismatch d.rateTableKey table.key))
  else FilingError.ofOption (d.calculation? table r)

/-- Calculates a declaration if it is valid. -/
def calculateValid (d : Declaration) (table : RateTable) (r : Resolution) :
    Except FilingError CalculationResult :=
  if d.validate = [] then d.calculate table r else .error (.invalid d.validate)

/-- Validates, resolves and calculates a declaration without changing it. Violations and rejected
claims are reported together, the violations first; a resolution that fails as a whole only shows
once the declaration is valid. -/
def assess (d : Declaration) (table : RateTable) : Except FilingError CalculationResult :=
  match d.validate, d.resolve table with
  | [], .ok r => if r.isClean then d.calculate table r else .error (.invalid r.errors)
  | [], .error e => .error (.state e)
  | errors, .ok r => .error (.invalid (errors ++ r.errors))
  | errors, .error _ => .error (.invalid errors)

end Declaration

end IncomeTax

import IncomeTax.Proofs.Assessment.ExactTax
import IncomeTax.Proofs.Assessment.Income
import IncomeTax.Proofs.Declaration.Claims

/-!
# Assessments are exact

For a moderate table and at most a million income records, every number of an assessment is the one
that exact arithmetic gives. All amounts on the way have at most ten decimals and stay below
`10 ^ 18`, so they fit; rounding to cents happens once, to the net amount. An assessment that finds
no fault therefore always comes to a result.

## Main definitions

* `RateTable.Waives` — a net amount that reaches no collection threshold
* `Declaration.ExactResult`, `Declaration.ExactParts` — what exact arithmetic says of each number of
  a result

## Main results

* `Declaration.exists_calculation?` — the calculation exists and is exact
* `Declaration.assess_exact` — so is every assessment that answers
* `Declaration.exists_assess` — no assessment without faults overflows
-/

namespace IncomeTax

open Decimal (Within)

/-- The net amount is owed but too small to collect, or refunded but too small to pay. -/
def RateTable.Waives (t : RateTable) (net : ℚ) : Prop :=
  (0 < net ∧ ∃ threshold ∈ t.threshold? minimumAssessment, net < threshold.toRat) ∨
    (net < 0 ∧ ∃ threshold ∈ t.threshold? minimumRefund, -net < threshold.toRat)

namespace RateTable

variable {t : RateTable} {net : Decimal}

theorem isBelow_iff {name : String} {amount : Decimal} :
    t.isBelow name amount = true ↔
      ∃ threshold ∈ t.threshold? name, amount.toRat < threshold.toRat := by
  unfold isBelow
  cases t.threshold? name <;> simp [Decimal.lt_iff_toRat]

theorem collectible_of_waives (waived : t.Waives net.toRat) : (t.collectible net).toRat = 0 := by
  unfold collectible
  simp only [Decimal.lt_iff_toRat, Decimal.toRat_zero, isBelow_iff, Decimal.toRat_neg]
  rcases waived with owed | refunded
  · rw [if_pos owed, Decimal.toRat_zero]
  · split_ifs <;> exact Decimal.toRat_zero

theorem collectible_of_not_waives (kept : ¬ t.Waives net.toRat) : t.collectible net = net := by
  unfold collectible
  simp only [Decimal.lt_iff_toRat, Decimal.toRat_zero, isBelow_iff, Decimal.toRat_neg]
  rw [if_neg fun owed => kept (.inl owed), if_neg fun refunded => kept (.inr refunded)]

end RateTable

namespace Declaration

/-- The numbers of a result are those of exact arithmetic, rounded once. -/
structure ExactResult (d : Declaration) (table : RateTable) (r : Resolution)
    (c : CalculationResult) : Prop where
  categories : ∀ category, category ∈ c.incomeByCategory.keys ↔
    ∃ record ∈ d.content.income, record.category = category
  total_income : c.totalIncome.toRat = (d.content.income.map (·.grossAmount.toRat)).sum
  total_income_eq_sum_categories :
    c.totalIncome.toRat = (c.incomeByCategory.values.map (·.toRat)).sum
  taxable_income : c.taxableIncome.toRat =
    max 0 (c.totalIncome.toRat - (r.deductions.map (·.allowed.toRat)).sum)
  tax_before_credits : c.taxBeforeCredits.toRat = table.exactTax c.taxableIncome.toRat
  tax_after_credits : c.taxAfterCredits.toRat =
    max 0 (c.taxBeforeCredits.toRat - (r.credits.map (·.amount.toRat)).sum)
  credits_applied : c.creditsApplied.toRat = c.taxBeforeCredits.toRat - c.taxAfterCredits.toRat
  net_amount : c.netAmount.toRat = nearestCent
    (c.taxAfterCredits.toRat - (d.content.income.map (·.withholding.toRat)).sum)
  waived : table.Waives c.netAmount.toRat → c.collectibleAmount.toRat = 0
  collected : ¬ table.Waives c.netAmount.toRat → c.collectibleAmount.toRat = c.netAmount.toRat

/-- So are the parts that the numbers are added up from, and the total of what is withheld. -/
structure ExactParts (d : Declaration) (table : RateTable) (r : Resolution)
    (c : CalculationResult) : Prop where
  taxYear_eq : c.taxYear = table.key.taxYear
  category_eq : c.category = table.key.category
  rateTableVersion_eq : c.rateTableVersion = table.version
  incomeByCategory : IncomeTotals d.content.income c.incomeByCategory
  totalDeductions : c.totalDeductions.toRat = (r.deductions.map (·.allowed.toRat)).sum
  brackets : List.Forall₂ (fun b part => part.Exact b c.taxableIncome.toRat)
    (table.brackets.filter fun b => 0 < b.portion c.taxableIncome.toRat) c.brackets
  withholding : c.withholding.toRat = (d.content.income.map (·.withholding.toRat)).sum

variable {d : Declaration} {table : RateTable} {r : Resolution} {c : CalculationResult}

/-! ### Totals -/

/-- Amounts of few items have a sum, and it is exact. -/
theorem exists_sum? {α : Type} {items : List α} {amount : α → Decimal} {k : ℕ} {limit : ℚ}
    (within : ∀ item ∈ items, Within k limit (amount item).toRat) (short : k ≤ 28)
    (small : items.length * limit * 10 ^ k < 2 ^ 96) :
    ∃ total, Decimal.sum? (items.map amount) = some total ∧
      total.toRat = (items.map fun item => (amount item).toRat).sum ∧
      Within k (items.length * limit) total.toRat := by
  have sum := Within.sum (List.forall_mem_map.2 within)
  rw [List.length_map] at sum
  have sums := Decimal.map_toRat_sum? short
    (List.forall_mem_map.2 fun item member => (within item member).mem_grid)
    (List.forall_mem_map.2 fun item member => (within item member).nonneg)
    (by
      rw [List.map_map]
      refine lt_of_le_of_lt ?_ small
      exact mul_le_mul_of_nonneg_right sum.le (by positivity))
  rw [List.map_map] at sums
  obtain ⟨total, added, value⟩ := Option.map_eq_some_iff.1 sums
  exact ⟨total, added, value, value ▸ sum⟩

section Totals

variable (regular : d.content.Regular) (many : d.content.income.length ≤ 10 ^ 10)

theorem length_mul_le (few : d.content.income.length ≤ 1000000) :
    (d.content.income.length : ℚ) * (99999999999999 / 100) ≤ 10 ^ 18 := by
  have le : (d.content.income.length : ℚ) ≤ 1000000 := by exact_mod_cast few
  norm_num
  linarith

include many in
theorem length_mul_lt :
    (d.content.income.length : ℚ) * (99999999999999 / 100) * 10 ^ 2 < 2 ^ 96 := by
  have le : (d.content.income.length : ℚ) ≤ 10 ^ 10 := by exact_mod_cast many
  norm_num
  linarith

include regular many

theorem exists_grossIncome? : ∃ total, d.content.grossIncome? = some total ∧
    total.toRat = (d.content.income.map (·.grossAmount.toRat)).sum ∧
    Within 2 (d.content.income.length * (99999999999999 / 100)) total.toRat :=
  exists_sum? regular.gross (by norm_num) (length_mul_lt many)

theorem exists_withholding : ∃ total,
    Decimal.sum? (d.content.income.map (·.withholding)) = some total ∧
    total.toRat = (d.content.income.map (·.withholding.toRat)).sum ∧
    Within 2 (d.content.income.length * (99999999999999 / 100)) total.toRat :=
  exists_sum? regular.withholding (by norm_num) (length_mul_lt many)

/-- The total income is that of the records and that of the categories. -/
theorem exists_totalIncome : ∃ totals total,
    incomeByCategory? d.content.income = some totals ∧ IncomeTotals d.content.income totals ∧
    Decimal.sum? totals.values = some total ∧
    total.toRat = (d.content.income.map (·.grossAmount.toRat)).sum ∧
    Within 2 (d.content.income.length * (99999999999999 / 100)) total.toRat := by
  obtain ⟨gross, -, value, within⟩ := exists_grossIncome? regular many
  rw [value] at within
  have small : (d.content.income.map (·.grossAmount.toRat)).sum * 10 ^ 2 < 2 ^ 96 :=
    lt_of_le_of_lt (mul_le_mul_of_nonneg_right within.le (by norm_num)) (length_mul_lt many)
  obtain ⟨totals, found, read⟩ := exists_incomeByCategory? regular.gross small
  have sums := Decimal.map_toRat_sum? (by norm_num) read.mem_grid read.nonneg
    (by rwa [read.sum])
  rw [read.sum] at sums
  obtain ⟨total, added, value⟩ := Option.map_eq_some_iff.1 sums
  exact ⟨totals, total, found, read, added, value, value ▸ within⟩

end Totals

theorem exists_totalDeductions? (regular : r.Regular) : ∃ total,
    r.totalDeductions? = some total ∧
    total.toRat = (r.deductions.map (·.allowed.toRat)).sum ∧ Within 2 (10 ^ 18) total.toRat := by
  have le : (r.deductions.length : ℚ) ≤ 2080 := by exact_mod_cast regular.few_deductions
  obtain ⟨total, found, value, within⟩ := exists_sum? regular.deductions (by norm_num)
    (by norm_num; linarith)
  exact ⟨total, found, value, within.mono le_rfl (by norm_num; linarith)⟩

theorem exists_totalCredits? (regular : r.Regular) : ∃ total,
    r.totalCredits? = some total ∧
    total.toRat = (r.credits.map (·.amount.toRat)).sum ∧ Within 10 (10 ^ 18) total.toRat := by
  have le : (r.credits.length : ℚ) ≤ 2085 := by exact_mod_cast regular.few_credits
  obtain ⟨total, found, value, within⟩ := exists_sum? regular.credits (by norm_num)
    (by norm_num; linarith)
  exact ⟨total, found, value, within.mono le_rfl (by norm_num; linarith)⟩

/-! ### The calculation -/

/-- A difference floored at zero is exact. -/
theorem exists_nonNegative_sub? {a b : Decimal} {k : ℕ} (short : k ≤ 10)
    (left : Within k (10 ^ 18) a.toRat) (right : Within k (10 ^ 18) b.toRat) :
    ∃ difference, a.sub? b = some difference ∧
      difference.nonNegative.toRat = max 0 (a.toRat - b.toRat) ∧
      Within k (10 ^ 18) difference.nonNegative.toRat := by
  have fits := (left.mono short le_rfl).fits_sub (right.mono short le_rfl)
  obtain ⟨difference, found, value⟩ :=
    Option.map_eq_some_iff.1 (Decimal.map_toRat_sub? (by norm_num) fits)
  have floored : difference.nonNegative.toRat = max 0 (a.toRat - b.toRat) := by
    rw [Decimal.toRat_nonNegative, value]
  exact ⟨difference, found, floored, floored ▸ left.max_zero_sub right⟩

/-- The calculation of regular contents under a moderate table exists and is exact. -/
theorem exists_calculation? (regular : d.content.Regular) (granted : r.Regular)
    (few : d.content.income.length ≤ 1000000) (checked : table.Checked)
    (moderate : table.Moderate) :
    ∃ c, d.calculation? table r = some c ∧ d.ExactResult table r c ∧ d.ExactParts table r c := by
  -- Taxable income, in whole cents.
  have many : d.content.income.length ≤ 10 ^ 10 := few.trans (by norm_num)
  obtain ⟨totals, totalIncome, found, read, added, income, grossWithin⟩ :=
    exists_totalIncome regular many
  have incomeWithin := grossWithin.mono le_rfl (length_mul_le few)
  obtain ⟨totalDeductions, deducted, deductions, deductionsWithin⟩ :=
    exists_totalDeductions? granted
  obtain ⟨taxable, subtracted, taxableIncome, taxableWithin⟩ :=
    exists_nonNegative_sub? (by norm_num) incomeWithin deductionsWithin
  -- Tax and credits, with the eight decimals of a rate more.
  obtain ⟨before, taxed, tax⟩ :=
    Option.map_eq_some_iff.1 (RateTable.map_toRat_bracketTax? checked moderate.brackets taxableWithin)
  have taxWithin := RateTable.within_exactTax checked moderate.brackets taxableWithin
  rw [← tax] at taxWithin
  obtain ⟨parts, contributed, summed⟩ := Option.bind_eq_some_iff.1 taxed
  obtain ⟨parts', contributed', exactParts⟩ :=
    RateTable.exists_contributions? (checked.bracket_exact moderate.brackets) taxableWithin
  obtain rfl : parts = parts' := Option.some.inj (contributed.symm.trans contributed')
  obtain ⟨totalCredits, credited, credits, creditsWithin⟩ := exists_totalCredits? granted
  obtain ⟨after, reduced, afterCredits, afterWithin⟩ :=
    exists_nonNegative_sub? le_rfl taxWithin creditsWithin
  obtain ⟨applied, difference, creditsApplied⟩ := Option.map_eq_some_iff.1
    (Decimal.map_toRat_sub? (by norm_num) (taxWithin.fits_sub afterWithin))
  -- The net amount, which is the only one that is rounded.
  obtain ⟨withheld, totalled, withholding, withholdingWithin⟩ := exists_withholding regular many
  obtain ⟨net, settled, netAmount⟩ := Option.map_eq_some_iff.1 (Decimal.map_toRat_sub?
    (by norm_num) (afterWithin.fits_sub (withholdingWithin.mono (by norm_num) (length_mul_le few))))
  let c : CalculationResult :=
    { taxYear := table.key.taxYear
      category := table.key.category
      rateTableVersion := table.version
      incomeByCategory := totals
      totalIncome := totalIncome
      totalDeductions := totalDeductions
      taxableIncome := taxable.nonNegative
      brackets := parts
      taxBeforeCredits := before
      creditsApplied := applied
      taxAfterCredits := after.nonNegative
      withholding := withheld
      netAmount := net.roundCents
      collectibleAmount := table.collectible net.roundCents }
  have calculated : d.calculation? table r = some c := by
    simp only [calculation?, found, added, deducted, subtracted, contributed, summed, credited,
      reduced, difference, totalled, settled, Option.bind_eq_bind, Option.bind_some]
    rfl
  exact ⟨c, calculated,
    { categories := read.keys
      total_income := income
      total_income_eq_sum_categories := income.trans read.sum.symm
      taxable_income := deductions ▸ taxableIncome
      tax_before_credits := tax
      tax_after_credits := credits ▸ afterCredits
      credits_applied := creditsApplied
      net_amount := by
        rw [← withholding, ← netAmount]
        exact Decimal.toRat_roundCents net
      waived := RateTable.collectible_of_waives
      collected := fun kept => congrArg Decimal.toRat (RateTable.collectible_of_not_waives kept) },
    { taxYear_eq := rfl
      category_eq := rfl
      rateTableVersion_eq := rfl
      incomeByCategory := read
      totalDeductions := deductions
      brackets := exactParts
      withholding := withholding }⟩

/-! ### Assessments -/

theorem calculate_eq_ok_iff : d.calculate table r = .ok c ↔
    d.rateTableKey = table.key ∧ d.calculation? table r = some c := by
  unfold calculate
  split
  next differ => simp [differ]
  next same =>
    simp only [not_not.1 same, true_and]
    cases d.calculation? table r <;> simp [FilingError.ofOption]

/-- An assessment answers when nothing is violated, no claim is rejected and nothing overflows. -/
theorem assess_eq_ok_iff : d.assess table = .ok c ↔
    d.validate = [] ∧ ∃ r, d.resolve table = .ok r ∧ r.isClean = true ∧
      d.rateTableKey = table.key ∧ d.calculation? table r = some c := by
  simp only [← calculate_eq_ok_iff]
  unfold assess
  cases d.validate with
  | cons => cases d.resolve table <;> simp
  | nil =>
    cases d.resolve table with
    | error => simp
    | ok r => cases clean : r.isClean <;> simp [clean]

theorem rateTableKey_eq_of_resolve (resolved : d.resolve table = .ok r) :
    d.rateTableKey = table.key := by
  unfold resolve at resolved
  split at resolved
  · cases resolved
  next same => exact not_not.1 same

section Moderate

variable {definition : RateTableDefinition} (built : RateTable.ofDefinition definition = .ok table)
  (moderate : table.Moderate) (few : d.content.income.length ≤ 1000000)

include built moderate few

/-- The claims of a valid declaration are granted regular amounts. -/
theorem regular_of_valid (valid : d.validate = []) (resolved : d.resolve table = .ok r) :
    r.Regular := by
  have regular := regular_of_validate valid
  obtain ⟨gross, found, -, within⟩ := exists_grossIncome? regular (few.trans (by norm_num))
  refine regular_of_resolve regular (RateTable.checked_of_ofDefinition built) moderate
    (fun total member => ?_) resolved
  rw [found] at member
  cases member
  exact within.mono le_rfl (length_mul_le few)

theorem exists_calculation?_of_resolve (valid : d.validate = [])
    (resolved : d.resolve table = .ok r) :
    ∃ c, d.calculation? table r = some c ∧ d.ExactResult table r c ∧ d.ExactParts table r c :=
  exists_calculation? (regular_of_validate valid) (regular_of_valid built moderate few valid resolved)
    few (RateTable.checked_of_ofDefinition built) moderate

/-- A valid declaration whose claims are all granted is assessed without overflow. -/
theorem exists_assess (valid : d.validate = []) (resolved : d.resolve table = .ok r)
    (clean : r.isClean = true) : ∃ c, d.assess table = .ok c := by
  obtain ⟨c, calculated, -⟩ := exists_calculation?_of_resolve built moderate few valid resolved
  exact ⟨c, assess_eq_ok_iff.2
    ⟨valid, r, resolved, clean, rateTableKey_eq_of_resolve resolved, calculated⟩⟩

/-- An assessment grants every claim, and its numbers are those of exact arithmetic. -/
theorem exists_clean_exactResult (assessed : d.assess table = .ok c) :
    ∃ r, d.validate = [] ∧ d.resolve table = .ok r ∧ r.isClean = true ∧
      d.ExactResult table r c ∧ d.ExactParts table r c := by
  obtain ⟨valid, r, resolved, clean, -, calculated⟩ := assess_eq_ok_iff.1 assessed
  obtain ⟨c', calculated', exact_, parts⟩ :=
    exists_calculation?_of_resolve built moderate few valid resolved
  obtain rfl : c' = c := Option.some.inj (calculated'.symm.trans calculated)
  exact ⟨r, valid, resolved, clean, exact_, parts⟩

end Moderate

/-- Every number of an assessment under a moderate table is the exact one, the net amount alone
being rounded, as long as there are at most a million income records. -/
theorem assess_exact {definition : RateTableDefinition}
    (built : RateTable.ofDefinition definition = .ok table) (moderate : table.Moderate)
    (few : d.content.income.length ≤ 1000000) (assessed : d.assess table = .ok c) :
    ∃ r, d.resolve table = .ok r ∧ d.ExactResult table r c := by
  obtain ⟨r, -, resolved, -, exact_, -⟩ :=
    exists_clean_exactResult built moderate few assessed
  exact ⟨r, resolved, exact_⟩

/-- The sample declaration is assessed exactly, with gifts up to their ceiling and a refund. -/
theorem assess_exact_of_sample2024 :
    let d := Declaration.draft ⟨1⟩ .sample2024
    ∃ table c, RateTable.ofDefinition .sample2024 = .ok table ∧ table.Moderate ∧
      d.content.income.length ≤ 1000000 ∧ d.assess table = .ok c ∧
      c.netAmount = (Decimal.unsigned 155064 2).neg ∧
      ∃ r, d.resolve table = .ok r ∧ d.ExactResult table r c := by
  intro d
  have few : d.content.income.length ≤ 1000000 := by decide
  have outcome : (RateTable.ofDefinition .sample2024).toOption.any (fun table =>
      decide table.Moderate && (d.assess table).toOption.any fun c =>
        decide (c.netAmount = (Decimal.unsigned 155064 2).neg)) = true := by
    decide +kernel
  cases built : RateTable.ofDefinition .sample2024 with
  | error e =>
    rw [built] at outcome
    cases outcome
  | ok table =>
    simp only [built, Except.toOption, Option.any_some, Bool.and_eq_true, decide_eq_true_eq]
      at outcome
    obtain ⟨moderate, outcome⟩ := outcome
    cases assessed : d.assess table with
    | error e =>
      rw [assessed] at outcome
      cases outcome
    | ok c =>
      rw [assessed] at outcome
      exact ⟨table, c, rfl, moderate, few, assessed, of_decide_eq_true outcome,
        assess_exact built moderate few assessed⟩

end Declaration

end IncomeTax

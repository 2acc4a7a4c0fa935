import IncomeTax.Proofs.Assessment.Exact
import IncomeTax.Proofs.Declaration.Rearranged

/-!
# The order of entries does not matter

Under a moderate table an assessment answers exactly when the declaration is valid and its claims
are permitted, and then each of its numbers is the one of exact arithmetic. Neither depends on the
order in which income, claims and dependents are listed. So a declaration and a rearranged one are
assessed alike: both or neither, and with the same numbers, though an amount may be written at
another scale.

## Main definitions

* `CalculationResult.Agrees` — every field stands for the same number

## Main results

* `Declaration.exists_assess_iff` — when an assessment answers
* `Declaration.assess_rearranged` — rearranged declarations are assessed alike
-/

namespace IncomeTax

/-- The contribution of the same bracket, in the same numbers. -/
structure BracketContribution.Agrees (part part' : BracketContribution) : Prop where
  lowerBound : part.lowerBound.toRat = part'.lowerBound.toRat
  upperBound : part.upperBound.map Decimal.toRat = part'.upperBound.map Decimal.toRat
  rate : part.rate.toRat = part'.rate.toRat
  taxableAmount : part.taxableAmount.toRat = part'.taxableAmount.toRat
  tax : part.tax.toRat = part'.tax.toRat

/-- Results of the same table whose amounts all stand for the same numbers. -/
structure CalculationResult.Agrees (c c' : CalculationResult) : Prop where
  taxYear : c.taxYear = c'.taxYear
  category : c.category = c'.category
  rateTableVersion : c.rateTableVersion = c'.rateTableVersion
  incomeByCategory : ∀ category,
    (c.incomeByCategory.find? category).map Decimal.toRat =
      (c'.incomeByCategory.find? category).map Decimal.toRat
  totalIncome : c.totalIncome.toRat = c'.totalIncome.toRat
  totalDeductions : c.totalDeductions.toRat = c'.totalDeductions.toRat
  taxableIncome : c.taxableIncome.toRat = c'.taxableIncome.toRat
  brackets : List.Forall₂ BracketContribution.Agrees c.brackets c'.brackets
  taxBeforeCredits : c.taxBeforeCredits.toRat = c'.taxBeforeCredits.toRat
  creditsApplied : c.creditsApplied.toRat = c'.creditsApplied.toRat
  taxAfterCredits : c.taxAfterCredits.toRat = c'.taxAfterCredits.toRat
  withholding : c.withholding.toRat = c'.withholding.toRat
  netAmount : c.netAmount.toRat = c'.netAmount.toRat
  collectibleAmount : c.collectibleAmount.toRat = c'.collectibleAmount.toRat

/-- Contributions of one bracket to one income agree. -/
theorem BracketContribution.Exact.agrees {part part' : BracketContribution} {b : TaxBracket}
    {income : ℚ} (exact_ : part.Exact b income) (exact' : part'.Exact b income) :
    part.Agrees part' where
  lowerBound := by rw [exact_.lowerBound_eq, exact'.lowerBound_eq]
  upperBound := by rw [exact_.upperBound_eq, exact'.upperBound_eq]
  rate := by rw [exact_.rate_eq, exact'.rate_eq]
  taxableAmount := exact_.taxableAmount.trans exact'.taxableAmount.symm
  tax := exact_.tax.trans exact'.tax.symm

/-- Contributions of the same brackets to one income agree one by one. -/
theorem forall₂_agrees {brackets : List TaxBracket} {parts parts' : List BracketContribution}
    {income : ℚ} (exact_ : List.Forall₂ (fun b part => part.Exact b income) brackets parts)
    (exact' : List.Forall₂ (fun b part => part.Exact b income) brackets parts') :
    List.Forall₂ BracketContribution.Agrees parts parts' := by
  induction exact_ generalizing parts' with
  | nil =>
    cases exact'
    exact .nil
  | cons exactPart _ ih =>
    cases exact' with
    | cons exactPart' exactParts' => exact .cons (exactPart.agrees exactPart') (ih exactParts')

namespace Declaration

variable {d d' : Declaration} {table : RateTable} {c c' : CalculationResult}
  {definition : RateTableDefinition} (built : RateTable.ofDefinition definition = .ok table)
  (moderate : table.Moderate) (few : d.content.income.length ≤ 1000000)

include built moderate few

/-- Under a moderate table an assessment answers exactly when the declaration is valid, needs the
table and claims only what is permitted. -/
theorem exists_assess_iff : (∃ c, d.assess table = .ok c) ↔
    d.validate = [] ∧ d.rateTableKey = table.key ∧ d.Permitted table := by
  constructor
  · rintro ⟨c, assessed⟩
    obtain ⟨valid, r, resolved, clean, -⟩ := assess_eq_ok_iff.1 assessed
    obtain ⟨same, -, permitted⟩ := exists_clean_resolution_iff.1 ⟨r, resolved, clean⟩
    exact ⟨valid, same, permitted⟩
  · rintro ⟨valid, same, permitted⟩
    -- The income of so few records can always be added up.
    obtain ⟨total, found, -⟩ :=
      exists_grossIncome? (regular_of_validate valid) (few.trans (by norm_num))
    obtain ⟨r, resolved, clean⟩ := exists_clean_resolution_iff.2 ⟨same, ⟨total, found⟩, permitted⟩
    exact exists_assess built moderate few valid resolved clean

/-- The assessments of a declaration and a rearranged one agree. -/
theorem agrees_of_rearranged (rearranged : d.Rearranged d') (assessed : d.assess table = .ok c)
    (assessed' : d'.assess table = .ok c') : c.Agrees c' := by
  have few' : d'.content.income.length ≤ 1000000 := rearranged.content.income.length_eq ▸ few
  have checked := RateTable.checked_of_ofDefinition built
  obtain ⟨r, valid, resolved, clean, exact_, parts⟩ :=
    exists_clean_exactResult built moderate few assessed
  obtain ⟨r', valid', resolved', clean', exact', parts'⟩ :=
    exists_clean_exactResult built moderate few' assessed'
  have regular := regular_of_validate valid
  have regular' := regular_of_validate valid'
  -- The same income less the same deductions is taxed.
  have income : c.totalIncome.toRat = c'.totalIncome.toRat := by
    rw [exact_.total_income, exact'.total_income, rearranged.sum_gross_eq]
  have deductions := rearranged.sum_deductions_eq regular regular' checked resolved clean resolved'
    clean'
  have taxable : c.taxableIncome.toRat = c'.taxableIncome.toRat := by
    rw [exact_.taxable_income, exact'.taxable_income, income, deductions]
  have before : c.taxBeforeCredits.toRat = c'.taxBeforeCredits.toRat := by
    rw [exact_.tax_before_credits, exact'.tax_before_credits, taxable]
  have brackets := parts'.brackets
  rw [← taxable] at brackets
  -- The same credits are granted, since they are phased out with the same income.
  obtain ⟨gross, found, value, within⟩ := exists_grossIncome? regular (few.trans (by norm_num))
  obtain ⟨gross', found', value', -⟩ := exists_grossIncome? regular' (few'.trans (by norm_num))
  have same : gross.toRat = gross'.toRat := by
    rw [value, value', rearranged.sum_gross_eq]
  have credits := rearranged.sum_credits_eq regular regular' checked resolved clean resolved'
    clean' moderate found found' (within.mono le_rfl (length_mul_le few)) same
  have after : c.taxAfterCredits.toRat = c'.taxAfterCredits.toRat := by
    rw [exact_.tax_after_credits, exact'.tax_after_credits, before, credits]
  have net : c.netAmount.toRat = c'.netAmount.toRat := by
    rw [exact_.net_amount, exact'.net_amount, after, rearranged.sum_withholding_eq]
  exact
    { taxYear := parts.taxYear_eq.trans parts'.taxYear_eq.symm
      category := parts.category_eq.trans parts'.category_eq.symm
      rateTableVersion := parts.rateTableVersion_eq.trans parts'.rateTableVersion_eq.symm
      incomeByCategory := parts.incomeByCategory.map_find?_eq_of_perm parts'.incomeByCategory
        rearranged.content.income
      totalIncome := income
      totalDeductions := by
        rw [parts.totalDeductions, parts'.totalDeductions, deductions]
      taxableIncome := taxable
      brackets := forall₂_agrees parts.brackets brackets
      taxBeforeCredits := before
      creditsApplied := by
        rw [exact_.credits_applied, exact'.credits_applied, before, after]
      taxAfterCredits := after
      withholding := by
        rw [parts.withholding, parts'.withholding, rearranged.sum_withholding_eq]
      netAmount := net
      collectibleAmount := by
        by_cases waives : table.Waives c.netAmount.toRat
        · rw [exact_.waived waives, exact'.waived (net ▸ waives)]
        · rw [exact_.collected waives, exact'.collected (net ▸ waives), net] }

/-- Under a moderate table, a declaration with at most a million income records and one with the
same entries in another order are both assessed or neither is, and the results agree in every
field. -/
theorem assess_rearranged (rearranged : d.Rearranged d') :
    ((∃ c, d.assess table = .ok c) ↔ ∃ c', d'.assess table = .ok c') ∧
    ∀ c c', d.assess table = .ok c → d'.assess table = .ok c' → c.Agrees c' := by
  have few' : d'.content.income.length ≤ 1000000 := rearranged.content.income.length_eq ▸ few
  constructor
  · rw [exists_assess_iff built moderate few, exists_assess_iff built moderate few',
      rearranged.validate_eq_nil_iff, rearranged.rateTableKey_eq, rearranged.permitted_iff]
  · intro c c' assessed assessed'
    exact agrees_of_rearranged built moderate few rearranged assessed assessed'

end Declaration

/-! ### A declaration in reverse -/

/-- The contents with every list in reverse. -/
def DeclarationContent.reversed (content : DeclarationContent) : DeclarationContent :=
  { content with
    dependents := content.dependents.reverse
    income := content.income.reverse
    deductions := content.deductions.reverse
    credits := content.credits.reverse }

theorem DeclarationContent.rearranged_reversed (content : DeclarationContent) :
    content.Rearranged content.reversed :=
  ⟨rfl, rfl, rfl, (List.reverse_perm _).symm, (List.reverse_perm _).symm,
    (List.reverse_perm _).symm, (List.reverse_perm _).symm⟩

open Decimal (unsigned) in
/-- The sample declaration with two dependents and, for the periods of its two gifts, two claims of
a credit. -/
def NewDeclaration.sampleFamily : NewDeclaration :=
  { sample2024 with
    content := { sample2024.content with
      dependents := [⟨⟨2011, 3, 14, by decide, by decide⟩⟩, ⟨⟨2014, 9, 1, by decide, by decide⟩⟩]
      credits := List.zipWith (fun gift amount => ⟨.generalTaxCredit, amount, gift.period⟩)
        sample2024.content.deductions [unsigned 1900 0, unsigned 185000 2] } }

namespace Declaration

/-- The declaration of a family is assessed in reverse too, and the results agree, though the total
of the deductions is written at another scale. -/
theorem assess_rearranged_of_sampleFamily :
    let d := draft ⟨1⟩ .sampleFamily
    let d' := { d with content := d.content.reversed }
    ∃ table c c', RateTable.ofDefinition .sample2024 = .ok table ∧ table.Moderate ∧
      d.content.income.length ≤ 1000000 ∧ d.Rearranged d' ∧ d.assess table = .ok c ∧
      d'.assess table = .ok c' ∧ c.Agrees c' ∧ .zero < c.creditsApplied ∧
      c.totalDeductions = .unsigned 500 0 ∧ c'.totalDeductions = .unsigned 50000 2 := by
  intro d d'
  have few : d.content.income.length ≤ 1000000 := by decide
  have rearranged : d.Rearranged d' := ⟨rfl, rfl, d.content.rearranged_reversed⟩
  obtain ⟨table, built, evaluated⟩ : ∃ table, RateTable.ofDefinition .sample2024 = .ok table ∧
      (decide table.Moderate &&
        ((d.assess table).toOption.any fun c =>
          decide (.zero < c.creditsApplied ∧ c.totalDeductions = .unsigned 500 0)) &&
        ((d'.assess table).toOption.any fun c' =>
          decide (c'.totalDeductions = .unsigned 50000 2))) = true :=
    exists_ok_of_any (by decide +kernel)
  rw [Bool.and_eq_true, Bool.and_eq_true, decide_eq_true_eq] at evaluated
  obtain ⟨⟨moderate, forward⟩, backward⟩ := evaluated
  obtain ⟨c, assessed, numbers⟩ := exists_ok_of_any forward
  obtain ⟨c', assessed', numbers'⟩ := exists_ok_of_any backward
  rw [decide_eq_true_eq] at numbers numbers'
  have agree := (assess_rearranged built moderate few rearranged).2 c c' assessed assessed'
  exact ⟨table, c, c', built, moderate, few, rearranged, assessed, assessed', agree, numbers.1,
    numbers.2, numbers'⟩

end Declaration

end IncomeTax

import IncomeTax.Proofs.Declaration.Granted
import IncomeTax.Proofs.Declaration.Permitted

/-!
# The order of entries

Income, claims and dependents are listed in whatever order the filer likes. Validation looks at
entries one by one, at the overlap of two claims in whichever order they come, and at a total of
days. Resolution looks at claims one by one, except that deductions of a kind use up a common
ceiling; what they are allowed together only depends on what is claimed of the kind. The ages of the
dependents matter through the least of them. So none of it depends on the order.

## Main definitions

* `Declaration.Rearranged` — the same entries in another order

## Main results

* `Declaration.Rearranged.validate_eq_nil_iff` — validation accepts both orders or none
* `Declaration.Rearranged.permitted_iff` — so does resolution
* `Declaration.Rearranged.sum_deductions_eq`, `Declaration.Rearranged.sum_credits_eq` — it grants
  the same totals
-/

namespace IncomeTax

/-- The same contents, with the entries of each list in another order. -/
structure DeclarationContent.Rearranged (content content' : DeclarationContent) : Prop where
  taxpayer_eq : content'.taxpayer = content.taxpayer
  fiscalPartner_eq : content'.fiscalPartner = content.fiscalPartner
  refundAccount_eq : content'.refundAccount = content.refundAccount
  dependents : content.dependents.Perm content'.dependents
  income : content.income.Perm content'.income
  deductions : content.deductions.Perm content'.deductions
  credits : content.credits.Perm content'.credits

/-- A declaration of the same kind for the same year, with rearranged contents. -/
structure Declaration.Rearranged (d d' : Declaration) : Prop where
  taxYear_eq : d'.taxYear = d.taxYear
  category_eq : d'.category = d.category
  content : d.content.Rearranged d'.content

namespace Validation

theorem overlaps_comm (period period' : Period) :
    period.overlaps period' = period'.overlaps period :=
  Bool.and_comm _ _

theorem repeatsDeduction_comm (claim claim' : DeductionClaim) :
    repeatsDeduction claim claim' = repeatsDeduction claim' claim := by
  rw [repeatsDeduction, repeatsDeduction, overlaps_comm, Bool.beq_comm]

theorem repeatsCredit_comm (claim claim' : CreditClaim) :
    repeatsCredit claim claim' = repeatsCredit claim' claim := by
  rw [repeatsCredit, repeatsCredit, overlaps_comm, Bool.beq_comm]

end Validation

namespace Resolution

/-- What is claimed of a kind does not depend on the order of the claims. -/
theorem claimedOf_eq_of_perm {claims claims' : List DeductionClaim} (same : claims.Perm claims')
    (type : DeductionType) : claimedOf type claims = claimedOf type claims' :=
  ((same.filter _).map _).sum_eq

end Resolution

/-- The least of some numbers does not depend on their order. -/
theorem min?_eq_of_perm {ages ages' : List ℕ} (same : ages.Perm ages') :
    ages.min? = ages'.min? := by
  apply Option.ext
  intro least
  rw [List.min?_eq_some_iff, List.min?_eq_some_iff, same.mem_iff]
  simp only [same.mem_iff]

namespace Declaration.Rearranged

open Validation Resolution

variable {d d' : Declaration} {table : RateTable} {r r' : Resolution} {year : Period}

theorem symm (rearranged : d.Rearranged d') : d'.Rearranged d where
  taxYear_eq := rearranged.taxYear_eq.symm
  category_eq := rearranged.category_eq.symm
  content :=
    { taxpayer_eq := rearranged.content.taxpayer_eq.symm
      fiscalPartner_eq := rearranged.content.fiscalPartner_eq.symm
      refundAccount_eq := rearranged.content.refundAccount_eq.symm
      dependents := rearranged.content.dependents.symm
      income := rearranged.content.income.symm
      deductions := rearranged.content.deductions.symm
      credits := rearranged.content.credits.symm }

/-! ### Validation -/

theorem supportedYear?_eq (rearranged : d.Rearranged d') :
    d'.supportedYear? = d.supportedYear? := by
  rw [supportedYear?, supportedYear?, rearranged.taxYear_eq]

theorem accepted (rearranged : d.Rearranged d') (accepted : d.Accepted year) :
    d'.Accepted year := by
  obtain ⟨-, category_eq, content⟩ := rearranged
  refine
    { taxpayer := ?_
      partner := ?_
      fiscalPartner := ?_
      dependents := fun dependent member => ?_
      refundAccount := ?_
      income := fun record member => ?_
      deductions := fun claim member => ?_
      credits := fun claim member => ?_
      postalCode := ?_
      residency := ?_
      matching := ?_
      partialYear := ?_
      distinctDeductions := ?_
      distinctCredits := ?_ }
  · rw [content.taxpayer_eq]
    exact accepted.taxpayer
  · rw [content.taxpayer_eq]
    exact accepted.partner
  · rw [content.fiscalPartner_eq]
    exact accepted.fiscalPartner
  · exact accepted.dependents dependent (content.dependents.mem_iff.2 member)
  · rw [content.refundAccount_eq]
    exact accepted.refundAccount
  · exact accepted.income record (content.income.mem_iff.2 member)
  · rw [content.taxpayer_eq]
    exact accepted.deductions claim (content.deductions.mem_iff.2 member)
  · exact accepted.credits claim (content.credits.mem_iff.2 member)
  · rw [content.taxpayer_eq]
    exact accepted.postalCode
  · rw [content.taxpayer_eq, category_eq]
    exact accepted.residency
  · rw [content.taxpayer_eq, content.fiscalPartner_eq]
    exact accepted.matching
  · rw [category_eq, ← (content.income.map _).sum_eq]
    exact accepted.partialYear
  · -- Two claims that overlap do so whichever comes first.
    refine accepted.distinctDeductions.perm content.deductions fun {earlier later} fresh => ?_
    rwa [repeatsDeduction_comm]
  · refine accepted.distinctCredits.perm content.credits fun {earlier later} fresh => ?_
    rwa [repeatsCredit_comm]

theorem validate_eq_nil (rearranged : d.Rearranged d') (valid : d.validate = []) :
    d'.validate = [] := by
  obtain ⟨year, supported, accepted⟩ := Declaration.validate_eq_nil_iff.1 valid
  rw [← rearranged.supportedYear?_eq] at supported
  exact Declaration.validate_eq_nil_iff.2 ⟨year, supported, rearranged.accepted accepted⟩

/-- A rearranged declaration is valid when the declaration is. -/
theorem validate_eq_nil_iff (rearranged : d.Rearranged d') : d.validate = [] ↔ d'.validate = [] :=
  ⟨rearranged.validate_eq_nil, rearranged.symm.validate_eq_nil⟩

/-! ### Resolution -/

theorem rateTableKey_eq (rearranged : d.Rearranged d') : d'.rateTableKey = d.rateTableKey := by
  rw [rateTableKey, rateTableKey, rearranged.taxYear_eq, rearranged.category_eq]

/-- The conditions of credit rules see the same taxpayer. -/
theorem eligibility_eq (rearranged : d.Rearranged d') : d'.eligibility = d.eligibility := by
  have youngest (day : Date) :
      (d'.content.dependents.map (·.dateOfBirth.wholeYearsUntil day)).min? =
        (d.content.dependents.map (·.dateOfBirth.wholeYearsUntil day)).min? :=
    min?_eq_of_perm (rearranged.content.dependents.symm.map _)
  simp only [eligibility, rearranged.taxYear_eq, rearranged.content.taxpayer_eq, youngest]

/-- The same credits are automatic. -/
theorem automaticRules_eq (rearranged : d.Rearranged d')
    (rules : OrderedMap CreditType CreditRule) :
    automaticRules rules d'.eligibility d'.content.credits =
      automaticRules rules d.eligibility d.content.credits := by
  have claimed (type : CreditType) : (d'.content.credits.map (·.creditType)).contains type =
      (d.content.credits.map (·.creditType)).contains type :=
    (rearranged.content.credits.symm.map _).contains_eq
  simp only [automaticRules, rearranged.eligibility_eq, claimed]

theorem permitted (rearranged : d.Rearranged d') (permitted : d.Permitted table) :
    d'.Permitted table where
  shared claim member := by
    rw [rearranged.content.fiscalPartner_eq]
    exact permitted.shared claim (rearranged.content.deductions.mem_iff.2 member)
  deductions claim member :=
    permitted.deductions claim (rearranged.content.deductions.mem_iff.2 member)
  credits claim member := by
    rw [rearranged.eligibility_eq]
    exact permitted.credits claim (rearranged.content.credits.mem_iff.2 member)

/-- The claims of a rearranged declaration are permitted when those of the declaration are. -/
theorem permitted_iff (rearranged : d.Rearranged d') : d.Permitted table ↔ d'.Permitted table :=
  ⟨rearranged.permitted, rearranged.symm.permitted⟩

theorem sum_gross_eq (rearranged : d.Rearranged d') :
    (d.content.income.map (·.grossAmount.toRat)).sum =
      (d'.content.income.map (·.grossAmount.toRat)).sum :=
  (rearranged.content.income.map _).sum_eq

theorem sum_withholding_eq (rearranged : d.Rearranged d') :
    (d.content.income.map (·.withholding.toRat)).sum =
      (d'.content.income.map (·.withholding.toRat)).sum :=
  (rearranged.content.income.map _).sum_eq

section Clean

variable (rearranged : d.Rearranged d') (regular : d.content.Regular)
  (regular' : d'.content.Regular) (checked : table.Checked)
  (resolved : d.resolve table = .ok r) (clean : r.isClean = true)
  (resolved' : d'.resolve table = .ok r') (clean' : r'.isClean = true)

include rearranged regular regular' checked resolved clean resolved' clean'

/-- The same deductions are allowed in total, whatever share of a ceiling each claim gets. -/
theorem sum_deductions_eq :
    (r.deductions.map (·.allowed.toRat)).sum = (r'.deductions.map (·.allowed.toRat)).sum := by
  rw [sum_deductions_of_clean regular checked resolved clean,
    sum_deductions_of_clean regular' checked resolved' clean']
  simp only [claimedOf_eq_of_perm rearranged.content.deductions]

/-- The same credits are granted in total. -/
theorem sum_credits_eq (moderate : table.Moderate) {totalIncome totalIncome' : Decimal}
    (found : d.content.grossIncome? = some totalIncome)
    (found' : d'.content.grossIncome? = some totalIncome')
    (income : Decimal.Within 2 (10 ^ 18) totalIncome.toRat)
    (same : totalIncome.toRat = totalIncome'.toRat) :
    (r.credits.map (·.amount.toRat)).sum = (r'.credits.map (·.amount.toRat)).sum := by
  rw [sum_credits_of_clean regular checked resolved clean moderate found income,
    sum_credits_of_clean regular' checked resolved' clean' moderate found' (same ▸ income),
    rearranged.automaticRules_eq, same, (rearranged.content.credits.map _).sum_eq]

end Clean

end Declaration.Rearranged

end IncomeTax

import IncomeTax.Proofs.Assessment.Exact
import IncomeTax.Proofs.Assessment.Marginal
import IncomeTax.Proofs.Declaration.Granted

/-!
# More income or fewer claims never lower the tax

A declaration is heavier than another when it says the same, but for higher gross amounts, lower
withholdings and lower claims. Income then raises what is taxed and phases out credits, and lower
claims leave more income and more tax, though claims of one kind share a ceiling. Every step of the
calculation keeps the order: so do the floors at zero, the rounding to cents, and the thresholds below
which nothing is collected or refunded.

## Main definitions

* `IncomeRecord.Heavier`, `DeductionClaim.Heavier`, `CreditClaim.Heavier` — one entry
* `DeclarationContent.Heavier`, `Declaration.Heavier` — all entries, the rest being the same

## Main results

* `RateTable.collectible_mono` — what is collected
* `Declaration.Heavier.sum_deductions_le`, `Declaration.Heavier.sum_credits_le` — what is granted
* `Declaration.assess_mono` — the whole assessment
-/

namespace IncomeTax

/-! ### Heavier declarations -/

/-- The same income, but as much or more of it, and with as much or less withheld. -/
structure IncomeRecord.Heavier (record record' : IncomeRecord) : Prop where
  category_eq : record'.category = record.category
  period_eq : record'.period = record.period
  gross_le : record.grossAmount ≤ record'.grossAmount
  withholding_le : record'.withholding ≤ record.withholding

/-- The same claim, but for as much or less. -/
structure DeductionClaim.Heavier (claim claim' : DeductionClaim) : Prop where
  deductionType_eq : claim'.deductionType = claim.deductionType
  period_eq : claim'.period = claim.period
  sharedWith_eq : claim'.sharedWith = claim.sharedWith
  amount_le : claim'.amount ≤ claim.amount

/-- The same claim, but for as much or less. -/
structure CreditClaim.Heavier (claim claim' : CreditClaim) : Prop where
  creditType_eq : claim'.creditType = claim.creditType
  period_eq : claim'.period = claim.period
  amount_le : claim'.amount ≤ claim.amount

/-- The same contents, with heavier entries. -/
structure DeclarationContent.Heavier (content content' : DeclarationContent) : Prop where
  taxpayer_eq : content'.taxpayer = content.taxpayer
  fiscalPartner_eq : content'.fiscalPartner = content.fiscalPartner
  dependents_eq : content'.dependents = content.dependents
  refundAccount_eq : content'.refundAccount = content.refundAccount
  income : List.Forall₂ IncomeRecord.Heavier content.income content'.income
  deductions : List.Forall₂ DeductionClaim.Heavier content.deductions content'.deductions
  credits : List.Forall₂ CreditClaim.Heavier content.credits content'.credits

/-- A declaration of the same kind for the same year, with heavier contents. -/
structure Declaration.Heavier (d d' : Declaration) : Prop where
  taxYear_eq : d'.taxYear = d.taxYear
  category_eq : d'.category = d.category
  content : d.content.Heavier d'.content

/-- Lists whose items are related pairwise have totals in the order of the items. -/
theorem sum_map_le_of_forall₂ {α β : Type} {related : α → β → Prop} {items : List α}
    {items' : List β} (pairs : List.Forall₂ related items items') {f : α → ℚ} {g : β → ℚ}
    (le : ∀ a b, related a b → f a ≤ g b) : (items.map f).sum ≤ (items'.map g).sum := by
  apply List.Forall₂.sum_le_sum
  rw [List.forall₂_map_left_iff, List.forall₂_map_right_iff]
  exact pairs.imp le

/-! ### Collection keeps the order -/

/-- What is collected of net amounts is in their order, though each may be waived. -/
theorem RateTable.collectible_mono {t : RateTable} {p q : ℚ} (le : p ≤ q) {collected collected' : ℚ}
    (waived : t.Waives p → collected = 0) (kept : ¬ t.Waives p → collected = p)
    (waived' : t.Waives q → collected' = 0) (kept' : ¬ t.Waives q → collected' = q) :
    collected ≤ collected' := by
  by_cases waives : t.Waives p <;> by_cases waives' : t.Waives q
  · rw [waived waives, waived' waives']
  · rw [waived waives, kept' waives']
    -- A refund smaller than one that is waived would be waived too.
    by_contra below
    rw [not_le] at below
    rcases waives with ⟨owed, -⟩ | ⟨-, threshold, known, small⟩
    · linarith
    · exact waives' (.inr ⟨below, threshold, known, by linarith⟩)
  · rw [kept waives, waived' waives']
    -- A debt smaller than one that is waived would be waived too.
    by_contra above
    rw [not_le] at above
    rcases waives' with ⟨-, threshold, known, small⟩ | ⟨refunded, -⟩
    · exact waives (.inl ⟨above, threshold, known, by linarith⟩)
    · linarith
  · rw [kept waives, kept' waives']
    exact le

/-! ### Granted claims keep the order -/

namespace Resolution

variable {claims claims' : List DeductionClaim}

theorem claimedOf_le (lower : List.Forall₂ DeductionClaim.Heavier claims claims')
    (type : DeductionType) : claimedOf type claims' ≤ claimedOf type claims := by
  induction lower with
  | nil => exact le_rfl
  | @cons claim claim' claims claims' heavier _ ih =>
    have amount := Decimal.le_iff_toRat.1 heavier.amount_le
    by_cases same : claim.deductionType = type
    · rw [claimedOf_cons_self same, claimedOf_cons_self (heavier.deductionType_eq.trans same)]
      exact add_le_add amount ih
    · have same' : claim'.deductionType ≠ type := heavier.deductionType_eq ▸ same
      rw [claimedOf_cons_of_ne same, claimedOf_cons_of_ne same']
      exact ih

/-- A claimed credit falls with the claim and with rising income. -/
theorem claimedCredit_le {rule? : CreditType → Option CreditRule}
    (exact_ : ∀ type, ∀ rule ∈ rule? type, rule.Exact) {income income' : ℚ}
    (higher : income ≤ income') {claim claim' : CreditClaim} (heavier : claim.Heavier claim') :
    claimedCredit rule? income' claim' ≤ claimedCredit rule? income claim := by
  have amount := Decimal.le_iff_toRat.1 heavier.amount_le
  rw [claimedCredit, claimedCredit, heavier.creditType_eq]
  cases found : rule? claim.creditType with
  | none => exact le_rfl
  | some rule =>
    have rates (phaseOut : PhaseOut) (phased : phaseOut ∈ rule.phaseOut) :
        0 ≤ phaseOut.rate.toRat := ((exact_ _ rule found).rate phaseOut phased).nonneg
    exact phasedOut_mono rates (min_le_min_right _ amount) higher

theorem automaticCredit_le {entry : CreditType × CreditRule} (exact_ : entry.2.Exact)
    {income income' : ℚ} (higher : income ≤ income') :
    automaticCredit income' entry ≤ automaticCredit income entry :=
  phasedOut_mono (fun phaseOut phased => (exact_.rate phaseOut phased).nonneg) le_rfl higher

end Resolution

namespace Declaration

open Resolution

variable {d d' : Declaration} {table : RateTable} {r r' : Resolution} {c c' : CalculationResult}

namespace Heavier

theorem eligibility_eq (heavier : d.Heavier d') : d'.eligibility = d.eligibility := by
  unfold eligibility
  rw [heavier.taxYear_eq, heavier.content.taxpayer_eq, heavier.content.dependents_eq]

/-- The same credits are automatic. -/
theorem automaticRules_eq (heavier : d.Heavier d') (rules : OrderedMap CreditType CreditRule) :
    automaticRules rules d'.eligibility d'.content.credits =
      automaticRules rules d.eligibility d.content.credits := by
  have kinds : d'.content.credits.map (·.creditType) = d.content.credits.map (·.creditType) := by
    rw [← List.forall₂_eq_eq_eq, List.forall₂_map_left_iff, List.forall₂_map_right_iff]
    exact heavier.content.credits.flip.imp fun claim' claim heavier => heavier.creditType_eq
  rw [automaticRules, automaticRules, heavier.eligibility_eq, kinds]

theorem sum_gross_le (heavier : d.Heavier d') :
    (d.content.income.map (·.grossAmount.toRat)).sum ≤
      (d'.content.income.map (·.grossAmount.toRat)).sum :=
  sum_map_le_of_forall₂ heavier.content.income fun _ _ heavier =>
    Decimal.le_iff_toRat.1 heavier.gross_le

theorem sum_withholding_le (heavier : d.Heavier d') :
    (d'.content.income.map (·.withholding.toRat)).sum ≤
      (d.content.income.map (·.withholding.toRat)).sum :=
  sum_map_le_of_forall₂ heavier.content.income.flip fun _ _ heavier =>
    Decimal.le_iff_toRat.1 heavier.withholding_le

section Clean

variable (heavier : d.Heavier d') (regular : d.content.Regular) (regular' : d'.content.Regular)
  (checked : table.Checked) (resolved : d.resolve table = .ok r) (clean : r.isClean = true)
  (resolved' : d'.resolve table = .ok r') (clean' : r'.isClean = true)

include heavier regular regular' checked resolved clean resolved' clean'

/-- A heavier declaration is allowed no more deductions. -/
theorem sum_deductions_le :
    (r'.deductions.map (·.allowed.toRat)).sum ≤ (r.deductions.map (·.allowed.toRat)).sum := by
  rw [sum_deductions_of_clean regular checked resolved clean,
    sum_deductions_of_clean regular' checked resolved' clean']
  -- Kind by kind: what is left of a ceiling is the same, and less is claimed.
  refine List.sum_le_sum fun type _ => ?_
  exact upTo_mono _ (claimedOf_le heavier.content.deductions type)

/-- A heavier declaration is granted no more credits. -/
theorem sum_credits_le (moderate : table.Moderate) {totalIncome totalIncome' : Decimal}
    (found : d.content.grossIncome? = some totalIncome)
    (found' : d'.content.grossIncome? = some totalIncome')
    (income : Decimal.Within 2 (10 ^ 18) totalIncome.toRat)
    (income' : Decimal.Within 2 (10 ^ 18) totalIncome'.toRat)
    (higher : totalIncome.toRat ≤ totalIncome'.toRat) :
    (r'.credits.map (·.amount.toRat)).sum ≤ (r.credits.map (·.amount.toRat)).sum := by
  rw [sum_credits_of_clean regular checked resolved clean moderate found income,
    sum_credits_of_clean regular' checked resolved' clean' moderate found' income',
    heavier.automaticRules_eq]
  apply add_le_add
  · exact sum_map_le_of_forall₂ heavier.content.credits.flip fun _ _ heavier =>
      claimedCredit_le (checked.creditRule_exact moderate) higher heavier
  · refine List.sum_le_sum fun entry member => ?_
    exact automaticCredit_le (checked.credit_exact moderate entry (List.mem_of_mem_filter member))
      higher

end Clean

end Heavier

/-! ### Assessments keep the order -/

/-- Under a moderate table, no higher income, lower withholding or lower claim makes the tax, the net
amount or the amount to collect any less. -/
theorem assess_mono {definition : RateTableDefinition}
    (built : RateTable.ofDefinition definition = .ok table) (moderate : table.Moderate)
    (few : d.content.income.length ≤ 1000000) (heavier : d.Heavier d')
    (assessed : d.assess table = .ok c) (assessed' : d'.assess table = .ok c') :
    c.taxAfterCredits ≤ c'.taxAfterCredits ∧ c.netAmount ≤ c'.netAmount ∧
      c.collectibleAmount ≤ c'.collectibleAmount := by
  have few' : d'.content.income.length ≤ 1000000 := heavier.content.income.length_eq ▸ few
  have checked := RateTable.checked_of_ofDefinition built
  obtain ⟨r, valid, resolved, clean, exact_, -⟩ :=
    exists_clean_exactResult built moderate few assessed
  obtain ⟨r', valid', resolved', clean', exact', -⟩ :=
    exists_clean_exactResult built moderate few' assessed'
  have regular := regular_of_validate valid
  have regular' := regular_of_validate valid'
  -- More income and fewer deductions: more is taxed.
  obtain ⟨gross, found, value, within⟩ := exists_grossIncome? regular (few.trans (by norm_num))
  obtain ⟨gross', found', value', within'⟩ :=
    exists_grossIncome? regular' (few'.trans (by norm_num))
  have higher : gross.toRat ≤ gross'.toRat := by
    rw [value, value']
    exact heavier.sum_gross_le
  have income : c.totalIncome.toRat ≤ c'.totalIncome.toRat := by
    rw [exact_.total_income, exact'.total_income]
    exact heavier.sum_gross_le
  have deductions :=
    heavier.sum_deductions_le regular regular' checked resolved clean resolved' clean'
  have taxable : c.taxableIncome.toRat ≤ c'.taxableIncome.toRat := by
    rw [exact_.taxable_income, exact'.taxable_income]
    exact max_le_max_left 0 (sub_le_sub income deductions)
  have before : c.taxBeforeCredits.toRat ≤ c'.taxBeforeCredits.toRat := by
    rw [exact_.tax_before_credits, exact'.tax_before_credits]
    exact RateTable.exactTax_mono checked taxable
  -- More tax and fewer credits: more is due.
  have credits :=
    heavier.sum_credits_le regular regular' checked resolved clean resolved' clean' moderate
      found found' (within.mono le_rfl (length_mul_le few))
      (within'.mono le_rfl (length_mul_le few')) higher
  have after : c.taxAfterCredits.toRat ≤ c'.taxAfterCredits.toRat := by
    rw [exact_.tax_after_credits, exact'.tax_after_credits]
    exact max_le_max_left 0 (sub_le_sub before credits)
  -- More due and less withheld: more is owed, and more of it is collected.
  have net : c.netAmount.toRat ≤ c'.netAmount.toRat := by
    rw [exact_.net_amount, exact'.net_amount]
    exact nearestCent_mono (sub_le_sub after heavier.sum_withholding_le)
  have collectible : c.collectibleAmount.toRat ≤ c'.collectibleAmount.toRat :=
    RateTable.collectible_mono net exact_.waived exact_.collected exact'.waived exact'.collected
  exact ⟨Decimal.le_iff_toRat.2 after, Decimal.le_iff_toRat.2 net,
    Decimal.le_iff_toRat.2 collectible⟩

end Declaration

/-! ### Two sample declarations -/

open Decimal (unsigned) in
/-- The sample declaration with all income raised to a wage of which less is withheld, and all gifts
cut to one amount. -/
def NewDeclaration.sampleHeavier : NewDeclaration :=
  { sample2024 with
    content := { sample2024.content with
      income := sample2024.content.income.map fun record =>
        { record with
          grossAmount := record.grossAmount.max (unsigned 6250050 2)
          withholding := record.withholding.min (unsigned 1400025 2) }
      deductions := sample2024.content.deductions.map fun claim =>
        { claim with amount := claim.amount.min (unsigned 15050 2) } } }

theorem NewDeclaration.sampleHeavier_heavier :
    sample2024.content.Heavier sampleHeavier.content where
  taxpayer_eq := rfl
  fiscalPartner_eq := rfl
  dependents_eq := rfl
  refundAccount_eq := rfl
  income := .cons ⟨rfl, rfl, by decide, by decide⟩ (.cons ⟨rfl, rfl, by decide, by decide⟩ .nil)
  deductions := .cons ⟨rfl, rfl, rfl, by decide⟩ (.cons ⟨rfl, rfl, rfl, by decide⟩ .nil)
  credits := .nil

namespace Declaration

/-- The sample declaration gives a refund, and the heavier one a debt. -/
theorem assess_mono_of_sample2024 :
    let d := draft ⟨1⟩ .sample2024
    let d' := draft ⟨2⟩ .sampleHeavier
    ∃ table c c', RateTable.ofDefinition .sample2024 = .ok table ∧ table.Moderate ∧
      d.content.income.length ≤ 1000000 ∧ d.Heavier d' ∧ d.assess table = .ok c ∧
      d'.assess table = .ok c' ∧ c.taxAfterCredits ≤ c'.taxAfterCredits ∧
      c.netAmount ≤ c'.netAmount ∧ c.collectibleAmount ≤ c'.collectibleAmount ∧
      c.collectibleAmount < .zero ∧ .zero < c'.collectibleAmount := by
  intro d d'
  have few : d.content.income.length ≤ 1000000 := by decide
  have heavier : d.Heavier d' := ⟨rfl, rfl, NewDeclaration.sampleHeavier_heavier⟩
  obtain ⟨table, built, evaluated⟩ : ∃ table, RateTable.ofDefinition .sample2024 = .ok table ∧
      (decide table.Moderate &&
        ((d.assess table).toOption.any fun c => decide (c.collectibleAmount < .zero)) &&
        ((d'.assess table).toOption.any fun c => decide (.zero < c.collectibleAmount))) = true :=
    exists_ok_of_any (by decide +kernel)
  rw [Bool.and_eq_true, Bool.and_eq_true, decide_eq_true_eq] at evaluated
  obtain ⟨⟨moderate, refunded⟩, owed⟩ := evaluated
  obtain ⟨c, assessed, refunded⟩ := exists_ok_of_any refunded
  obtain ⟨c', assessed', owed⟩ := exists_ok_of_any owed
  rw [decide_eq_true_eq] at refunded owed
  obtain ⟨tax, net, collectible⟩ := assess_mono built moderate few heavier assessed assessed'
  exact ⟨table, c, c', built, moderate, few, heavier, assessed, assessed', tax, net, collectible,
    refunded, owed⟩

end Declaration

end IncomeTax

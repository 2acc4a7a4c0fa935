import IncomeTax.Proofs.Assessment.Exact

/-!
# Tax within income, refunds within what is withheld

Deductions lower the income that is taxed, brackets tax it at no more than all of it, and credits
lower the tax at most to zero. So no tax exceeds the income, and a net amount lies between minus
what is withheld and the income. Both ends are whole cents, which rounding does not move, and
rounding keeps the order: the rounded amount does not pass them either.

## Main definitions

* `CalculationResult.Bounded` — each number of a result within the one it is taken from

## Main results

* `Declaration.assess_bounded` — the numbers of an assessment stay within each other
-/

namespace IncomeTax

/-- Each number of a result stays within the one it is taken from. -/
structure CalculationResult.Bounded (c : CalculationResult) : Prop where
  credits_nonneg : 0 ≤ c.creditsApplied.toRat
  credits_le_tax : c.creditsApplied.toRat ≤ c.taxBeforeCredits.toRat
  tax_le_taxable : c.taxBeforeCredits.toRat ≤ c.taxableIncome.toRat
  taxable_le_income : c.taxableIncome.toRat ≤ c.totalIncome.toRat
  refund_le_withholding : -c.withholding.toRat ≤ c.netAmount.toRat
  net_le_income : c.netAmount.toRat ≤ c.totalIncome.toRat
  all_or_nothing : c.collectibleAmount.toRat = 0 ∨ c.collectibleAmount.toRat = c.netAmount.toRat

/-- Rounding to cents does not pass a number of whole cents. -/
theorem nearestCent_bounds {low high q : ℚ} (lowCents : low ∈ Decimal.grid 2)
    (highCents : high ∈ Decimal.grid 2) (above : low ≤ q) (below : q ≤ high) :
    low ≤ nearestCent q ∧ nearestCent q ≤ high := by
  constructor
  · exact (Decimal.nearestCent_of_mem_grid lowCents).ge.trans (nearestCent_mono above)
  · exact (nearestCent_mono below).trans (Decimal.nearestCent_of_mem_grid highCents).le

namespace Declaration

variable {d : Declaration} {table : RateTable} {c : CalculationResult}

/-- Under a moderate table, the numbers of an assessment of at most a million income records stay
within each other. -/
theorem assess_bounded {definition : RateTableDefinition}
    (built : RateTable.ofDefinition definition = .ok table) (moderate : table.Moderate)
    (few : d.content.income.length ≤ 1000000) (assessed : d.assess table = .ok c) :
    c.Bounded := by
  obtain ⟨r, valid, resolved, -, exact_, parts⟩ :=
    exists_clean_exactResult built moderate few assessed
  have checked := RateTable.checked_of_ofDefinition built
  have regular := regular_of_validate valid
  have granted := regular_of_valid built moderate few valid resolved
  -- Sums of whole cents, none of them negative.
  have income := Decimal.Within.sum (List.forall_mem_map.2 regular.gross)
  have withheld := Decimal.Within.sum (List.forall_mem_map.2 regular.withholding)
  have deductions := Decimal.Within.sum (List.forall_mem_map.2 granted.deductions)
  have credits := Decimal.Within.sum (List.forall_mem_map.2 granted.credits)
  rw [← exact_.total_income] at income
  rw [← parts.withholding] at withheld
  have taxable : 0 ≤ c.taxableIncome.toRat ∧ c.taxableIncome.toRat ≤ c.totalIncome.toRat := by
    rw [exact_.taxable_income]
    exact ⟨le_max_left 0 _, max_le income.nonneg (sub_le_self _ deductions.nonneg)⟩
  have tax : c.taxBeforeCredits.toRat ≤ c.taxableIncome.toRat := by
    rw [exact_.tax_before_credits]
    exact RateTable.exactTax_le checked taxable.1
  have before : 0 ≤ c.taxBeforeCredits.toRat := by
    rw [exact_.tax_before_credits]
    exact RateTable.exactTax_nonneg checked _
  have after : 0 ≤ c.taxAfterCredits.toRat ∧
      c.taxAfterCredits.toRat ≤ c.taxBeforeCredits.toRat := by
    rw [exact_.tax_after_credits]
    exact ⟨le_max_left 0 _, max_le before (sub_le_self _ credits.nonneg)⟩
  -- Both bounds of the net amount are whole cents.
  have net : -c.withholding.toRat ≤ c.netAmount.toRat ∧
      c.netAmount.toRat ≤ c.totalIncome.toRat := by
    rw [exact_.net_amount, ← parts.withholding]
    refine nearestCent_bounds (neg_mem withheld.mem_grid) income.mem_grid ?_ ?_
    · linarith
    · linarith [withheld.nonneg]
  exact
    { credits_nonneg := by
        rw [exact_.credits_applied]
        exact sub_nonneg.2 after.2
      credits_le_tax := by
        rw [exact_.credits_applied]
        exact sub_le_self _ after.1
      tax_le_taxable := tax
      taxable_le_income := taxable.2
      refund_le_withholding := net.1
      net_le_income := net.2
      all_or_nothing := by
        by_cases waives : table.Waives c.netAmount.toRat
        · exact .inl (exact_.waived waives)
        · exact .inr (exact_.collected waives) }

/-- The sample declaration is granted a credit and gets a refund. -/
theorem assess_bounded_of_sample2024 :
    let d := draft ⟨1⟩ .sample2024
    ∃ table c, RateTable.ofDefinition .sample2024 = .ok table ∧ table.Moderate ∧
      d.content.income.length ≤ 1000000 ∧ d.assess table = .ok c ∧ c.Bounded ∧
      .zero < c.creditsApplied ∧ c.netAmount < .zero := by
  intro d
  have few : d.content.income.length ≤ 1000000 := by decide
  obtain ⟨table, built, evaluated⟩ : ∃ table, RateTable.ofDefinition .sample2024 = .ok table ∧
      (decide table.Moderate && ((d.assess table).toOption.any fun c =>
        decide (.zero < c.creditsApplied ∧ c.netAmount < .zero))) = true :=
    exists_ok_of_any (by decide +kernel)
  rw [Bool.and_eq_true, decide_eq_true_eq] at evaluated
  obtain ⟨c, assessed, signs⟩ := exists_ok_of_any evaluated.2
  rw [decide_eq_true_eq] at signs
  exact ⟨table, c, built, evaluated.1, few, assessed,
    assess_bounded built evaluated.1 few assessed, signs⟩

end Declaration

end IncomeTax

import IncomeTax.Declaration.Resolution
import IncomeTax.Proofs.Decimal.Order
import IncomeTax.Proofs.RateTable.Moderate

/-!
# Phasing out a credit

What is left of a credit falls with income: it is all of the credit up to the threshold, and from
there on less and less of it, but never less than nothing. The income above the threshold, its product
with the rate and what that leaves of the credit are each rounded to an amount and held in the range
of amounts. Each of these steps keeps the order, so the whole does, at any income that can be written
and with any number of decimals in the credit, the threshold and the rate.

## Main definitions

* `PhaseOut.Admitted` — the phase-outs that a checked table may have
* `PhaseOut.reduction` — what a phase-out takes off a credit

## Main results

* `PhaseOut.reduction_mono`, `PhaseOut.reduction_eq_zero` — more is taken off a higher income, and
  nothing up to the threshold
* `RateTable.admitted_of_ofDefinition` — the phase-outs of a table are admitted
* `creditAfterPhaseOut_bounds` — what is left lies between nothing and the credit
* `creditAfterPhaseOut_antitone` — and falls with income
-/

namespace IncomeTax

open Decimal (RoundsTo)

variable {base income income' : Decimal} {phaseOut : PhaseOut}

namespace PhaseOut

/-- The threshold is not negative and the rate lies between zero and one. -/
structure Admitted (phaseOut : PhaseOut) : Prop where
  threshold : .zero ≤ phaseOut.threshold
  rate : RateTable.isFraction phaseOut.rate = true

/-- What is taken off a credit at an income. -/
def reduction (phaseOut : PhaseOut) (income : Decimal) : Decimal :=
  phaseOut.rate.saturatingMul (income.saturatingSub phaseOut.threshold).nonNegative

theorem reduction_nonneg (rate : 0 ≤ phaseOut.rate.toRat) (income : Decimal) :
    0 ≤ (phaseOut.reduction income).toRat := by
  apply Decimal.toRat_saturatingMul_nonneg rate
  rw [Decimal.toRat_nonNegative]
  exact le_max_left 0 _

namespace Admitted

/-- The income above the threshold is rounded. -/
theorem roundsTo_excess (admitted : phaseOut.Admitted) (income : Decimal) :
    RoundsTo (max 0 (income.toRat - phaseOut.threshold.toRat))
      (income.saturatingSub phaseOut.threshold).nonNegative.toRat := by
  apply Decimal.roundsTo_nonNegative_saturatingSub
  simpa [Decimal.le_iff_toRat] using admitted.threshold

/-- So is its product with the rate. -/
theorem roundsTo_reduction (admitted : phaseOut.Admitted) (income : Decimal) :
    RoundsTo (phaseOut.rate.toRat * (income.saturatingSub phaseOut.threshold).nonNegative.toRat)
      (phaseOut.reduction income).toRat := by
  obtain ⟨nonneg, atMostOne⟩ := RateTable.isFraction_iff.1 admitted.rate
  apply Decimal.roundsTo_saturatingMul nonneg atMostOne
  rw [Decimal.toRat_nonNegative]
  exact le_max_left 0 _

/-- More income, more taken off. -/
theorem reduction_mono (admitted : phaseOut.Admitted) (le : income ≤ income') :
    (phaseOut.reduction income).toRat ≤ (phaseOut.reduction income').toRat := by
  have nonneg := (RateTable.isFraction_iff.1 admitted.rate).1
  have excess := (admitted.roundsTo_excess income).mono (admitted.roundsTo_excess income')
    (max_le_max_left 0 (sub_le_sub_right (Decimal.le_iff_toRat.1 le) _))
  exact (admitted.roundsTo_reduction income).mono (admitted.roundsTo_reduction income')
    (mul_le_mul_of_nonneg_left excess nonneg)

/-- Nothing is taken off up to the threshold. -/
theorem reduction_eq_zero (admitted : phaseOut.Admitted) (le : income ≤ phaseOut.threshold) :
    (phaseOut.reduction income).toRat = 0 := by
  have excess := admitted.roundsTo_excess income
  rw [max_eq_left (sub_nonpos.2 (Decimal.le_iff_toRat.1 le))] at excess
  have product := admitted.roundsTo_reduction income
  rw [excess.unique Decimal.roundsTo_zero, mul_zero] at product
  exact product.unique Decimal.roundsTo_zero

end Admitted

end PhaseOut

/-- The phase-outs of a table made from a definition. -/
theorem RateTable.admitted_of_ofDefinition {definition : RateTableDefinition} {t : RateTable}
    {type : CreditType} {rule : CreditRule} (built : ofDefinition definition = .ok t)
    (found : t.creditRule? type = some rule) : ∀ phaseOut ∈ rule.phaseOut, phaseOut.Admitted := by
  intro phaseOut listed
  obtain ⟨-, rules⟩ :=
    (checked_of_ofDefinition built).credits (type, rule) (OrderedMap.mem_entries_of_find? found)
  obtain ⟨threshold, rate⟩ := rules phaseOut listed
  exact ⟨Decimal.le_iff_toRat.2 (by simpa using threshold), rate⟩

/-- What is left of a credit is rounded once more. -/
theorem roundsTo_creditAfterPhaseOut (rate : 0 ≤ phaseOut.rate.toRat) (base income : Decimal) :
    RoundsTo (max 0 (base.toRat - (phaseOut.reduction income).toRat))
      (creditAfterPhaseOut base (some phaseOut) income).toRat :=
  Decimal.roundsTo_nonNegative_saturatingSub base (phaseOut.reduction_nonneg rate income)

/-- What is left of a credit lies between nothing and the credit. -/
theorem creditAfterPhaseOut_bounds {phaseOut : Option PhaseOut}
    (rates : ∀ rule ∈ phaseOut, 0 ≤ rule.rate.toRat) (nonneg : 0 ≤ base.toRat) (income : Decimal) :
    0 ≤ (creditAfterPhaseOut base phaseOut income).toRat ∧
      (creditAfterPhaseOut base phaseOut income).toRat ≤ base.toRat := by
  cases phaseOut with
  | none => exact ⟨nonneg, le_rfl⟩
  | some rule =>
    have rate := rates rule rfl
    have rounds := roundsTo_creditAfterPhaseOut rate base income
    refine ⟨Decimal.roundsTo_zero.mono rounds (le_max_left 0 _), ?_⟩
    -- The credit itself is an amount, so rounding does not pass it.
    apply rounds.mono (Decimal.roundsTo_toRat base)
    exact max_le nonneg (sub_le_self _ (rule.reduction_nonneg rate income))

/-- A credit has something left of it at every income. With more income it is no more, it stays
between nothing and the credit, and up to the threshold it is the credit. -/
theorem creditAfterPhaseOut_antitone (admitted : phaseOut.Admitted) (nonneg : .zero ≤ base)
    (le : income ≤ income') :
    .zero ≤ creditAfterPhaseOut base (some phaseOut) income' ∧
      creditAfterPhaseOut base (some phaseOut) income' ≤
        creditAfterPhaseOut base (some phaseOut) income ∧
      creditAfterPhaseOut base (some phaseOut) income ≤ base ∧
      (income ≤ phaseOut.threshold →
        (creditAfterPhaseOut base (some phaseOut) income).toRat = base.toRat) := by
  simp only [Decimal.le_iff_toRat (b := base), Decimal.le_iff_toRat (a := .zero),
    Decimal.toRat_zero] at nonneg ⊢
  have rate := (RateTable.isFraction_iff.1 admitted.rate).1
  have rates : ∀ rule ∈ some phaseOut, 0 ≤ rule.rate.toRat := by simpa using rate
  have rounds (income : Decimal) := roundsTo_creditAfterPhaseOut rate base income
  refine ⟨(creditAfterPhaseOut_bounds rates nonneg income').1, ?_,
    (creditAfterPhaseOut_bounds rates nonneg income).2, fun small => ?_⟩
  · rw [Decimal.le_iff_toRat]
    apply (rounds income').mono (rounds income)
    exact max_le_max_left 0 (sub_le_sub_left (admitted.reduction_mono le) _)
  · have kept := rounds income
    rw [admitted.reduction_eq_zero small, sub_zero, max_eq_right nonneg] at kept
    exact kept.unique (Decimal.roundsTo_toRat base)

/-- The sample table with a phase-out by a third, written with as many decimals as there can be. -/
def RateTableDefinition.sampleThird : RateTableDefinition :=
  { sample2024 with
    credits := .ofList [(.generalTaxCredit,
      ⟨.unsigned 3362 0, some ⟨.unsigned 24812 0, .unsigned 3333333333333333333333333333 28⟩,
        true, none, none, .any⟩)] }

/-- Between the least and the greatest income the whole credit is lost. -/
theorem creditAfterPhaseOut_antitone_of_sampleThird :
    ∃ table rule phaseOut, RateTable.ofDefinition .sampleThird = .ok table ∧
      table.creditRule? .generalTaxCredit = some rule ∧ rule.phaseOut = some phaseOut ∧
      phaseOut.Admitted ∧ Decimal.zero ≤ rule.maximum ∧ Decimal.least ≤ Decimal.greatest ∧
      let left := creditAfterPhaseOut rule.maximum rule.phaseOut
      .zero ≤ left .greatest ∧ left .greatest ≤ left .least ∧ left .least ≤ rule.maximum ∧
        (Decimal.least ≤ phaseOut.threshold → (left .least).toRat = rule.maximum.toRat) ∧
        Decimal.least ≤ phaseOut.threshold ∧ left .greatest < left .least := by
  let phaseOut : PhaseOut := ⟨.unsigned 24812 0, .unsigned 3333333333333333333333333333 28⟩
  obtain ⟨table, built, found⟩ : ∃ table, RateTable.ofDefinition .sampleThird = .ok table ∧
      decide (table.creditRule? .generalTaxCredit =
        some ⟨.unsigned 3362 0, some phaseOut, true, none, none, .any⟩) = true :=
    exists_ok_of_any (by decide +kernel)
  have rule := of_decide_eq_true found
  have admitted := RateTable.admitted_of_ofDefinition built rule phaseOut rfl
  have nonneg : Decimal.zero ≤ Decimal.unsigned 3362 0 := by decide +kernel
  have le : Decimal.least ≤ Decimal.greatest := by decide +kernel
  obtain ⟨floor, falls, ceiling, kept⟩ := creditAfterPhaseOut_antitone admitted nonneg le
  exact ⟨table, _, phaseOut, built, rule, rfl, admitted, nonneg, le, floor, falls, ceiling, kept,
    by decide +kernel, by decide +kernel⟩

end IncomeTax

import IncomeTax.Proofs.Declaration.Ceiling
import IncomeTax.Proofs.RateTable.Moderate

/-!
# Amounts of resolved claims

Resolution does not round, as long as the rules and the claimed amounts are whole numbers of cents.
What a deduction is allowed is then a whole number of cents too. A credit lies between zero and the
maximum of its kind; phasing it out adds at most eight decimals.

## Main definitions

* `IsCredit` — the numbers a granted credit may stand for

## Main results

* `Resolution.isMoney_of_granted` — every allowed deduction is a whole number of cents
* `Resolution.isCredit_creditAfterPhaseOut` — what is left of a credit
-/

namespace IncomeTax

/-- A number up to 999 999 999 999.99 with at most ten decimals. -/
abbrev IsCredit (q : ℚ) : Prop := Decimal.Within 10 (99999999999999 / 100) q

namespace Resolution

open Decimal (Within)

/-! ### Deductions -/

section Deductions

variable {rule? : DeductionType → Option DeductionRule} {spent : DeductionType → Decimal}
  {claims : List DeductionClaim}

/-- What is allowed of a whole number of cents is one too, when the ceiling is. -/
theorem isMoney_allowed {n : ℕ} {rule : DeductionRule} {used amount : Decimal} (exact_ : rule.Exact)
    (within : ∀ ceiling ∈ rule.ceiling, Spent n ceiling used) (few : n ≤ Validation.claimLimit)
    (claimed : IsMoney amount.toRat) : IsMoney (allowed rule used amount).toRat := by
  cases limited : rule.ceiling with
  | none =>
    rw [allowed, limited]
    exact claimed
  | some ceiling =>
    have before := within ceiling limited
    have grid := (exact_ ceiling limited).mem_grid
    rw [before.toRat_allowed few limited claimed]
    refine claimed.min (sub_nonneg.2 before.le) (sub_mem grid ?_)
    rcases before.cents with cents | all
    · exact cents.mem_grid
    · exact all ▸ grid

/-- Every allowed deduction is a whole number of cents. -/
theorem isMoney_of_granted (exact_ : ∀ type, ∀ rule ∈ rule? type, rule.Exact) {n : ℕ}
    (within : WithinCeilings rule? n spent) (few : n + claims.length ≤ Validation.claimLimit)
    (claimed : ∀ claim ∈ claims, IsMoney claim.amount.toRat) (index : ℕ) :
    ∀ r ∈ granted (resolveDeductions rule? spent index claims), IsMoney r.allowed.toRat := by
  -- The invariant is on what was used before, which grows along the list.
  induction claims generalizing spent index n with
  | nil => exact fun r member => nomatch member
  | cons claim rest ih =>
    rw [List.forall_mem_cons] at claimed
    rw [List.length_cons] at few
    rcases resolveDeductions_cons_cases rule? spent index claim rest with
      ⟨-, rule, found, outcomes⟩ | ⟨-, outcomes⟩
    · rw [outcomes, granted_ok, List.forall_mem_cons]
      exact ⟨isMoney_allowed (exact_ _ _ found) (within _ _ found) (by omega) claimed.1,
        ih (within.grant (by omega) found claimed.1) (by omega) claimed.2 _⟩
    · rw [outcomes, granted_error]
      exact ih within (by omega) claimed.2 _

end Deductions

/-! ### Credits -/

section Credits

variable {rule : CreditRule} {base totalIncome : Decimal}

/-- The number that is left of a credit after its phase-out with income. -/
def phasedOut (phaseOut : Option PhaseOut) (base income : ℚ) : ℚ :=
  phaseOut.elim base fun rule =>
    max 0 (base - rule.rate.toRat * max 0 (income - rule.threshold.toRat))

section PhaseOut

variable {phaseOut : PhaseOut} (exact_ : rule.Exact) (phased : rule.phaseOut = some phaseOut)
  (income : Within 2 (10 ^ 18) totalIncome.toRat)

include exact_ phased income

/-- What a phase-out takes off a credit has two decimals of the excess and eight of the rate. -/
theorem within_reduction : Within 10 (10 ^ 18)
    (phaseOut.rate.toRat * max 0 (totalIncome.toRat - phaseOut.threshold.toRat)) :=
  ((exact_.rate phaseOut phased).mul
    (income.max_zero_sub (exact_.threshold phaseOut phased))).mono (by norm_num) (by norm_num)

theorem toRat_reduction :
    (phaseOut.rate.saturatingMul (totalIncome.saturatingSub phaseOut.threshold).nonNegative).toRat =
      phaseOut.rate.toRat * max 0 (totalIncome.toRat - phaseOut.threshold.toRat) := by
  have fits := (income.mono (by norm_num) le_rfl).fits_sub
    ((exact_.threshold phaseOut phased).mono (by norm_num) (by norm_num))
  have excess : (totalIncome.saturatingSub phaseOut.threshold).nonNegative.toRat =
      max 0 (totalIncome.toRat - phaseOut.threshold.toRat) := by
    rw [Decimal.toRat_nonNegative, Decimal.toRat_saturatingSub (by norm_num) fits]
  have reduction := (within_reduction exact_ phased income).fits
  rw [← excess] at reduction ⊢
  exact Decimal.toRat_saturatingMul (by norm_num) reduction

end PhaseOut

/-- Credits are phased out without rounding. -/
theorem toRat_creditAfterPhaseOut (exact_ : rule.Exact) (money : IsMoney base.toRat)
    (income : Within 2 (10 ^ 18) totalIncome.toRat) :
    (creditAfterPhaseOut base rule.phaseOut totalIncome).toRat =
      phasedOut rule.phaseOut base.toRat totalIncome.toRat := by
  cases phased : rule.phaseOut with
  | none => rfl
  | some phaseOut =>
    have value := toRat_reduction exact_ phased income
    have fits := (money.mono (by norm_num) (by norm_num)).fits_sub
      (within_reduction exact_ phased income)
    rw [← value] at fits
    simp only [creditAfterPhaseOut, phasedOut, Option.elim_some]
    rw [Decimal.toRat_nonNegative, Decimal.toRat_saturatingSub (by norm_num) fits, value]

/-- What is left of a credit lies between zero and the credit. -/
theorem isCredit_creditAfterPhaseOut (exact_ : rule.Exact) (money : IsMoney base.toRat)
    (income : Within 2 (10 ^ 18) totalIncome.toRat) :
    IsCredit (creditAfterPhaseOut base rule.phaseOut totalIncome).toRat := by
  rw [toRat_creditAfterPhaseOut exact_ money income]
  cases phased : rule.phaseOut with
  | none => exact money.mono (by norm_num) le_rfl
  | some phaseOut =>
    exact (money.mono (by norm_num) le_rfl).max_zero_sub (within_reduction exact_ phased income)

/-- A smaller credit at a higher income leaves no more. -/
theorem phasedOut_mono {phaseOut : Option PhaseOut} {base base' income income' : ℚ}
    (rates : ∀ rule ∈ phaseOut, 0 ≤ rule.rate.toRat) (smaller : base' ≤ base)
    (higher : income ≤ income') : phasedOut phaseOut base' income' ≤ phasedOut phaseOut base income := by
  cases phaseOut with
  | none => exact smaller
  | some rule =>
    have rate := rates rule rfl
    simp only [phasedOut, Option.elim_some]
    gcongr

variable {claims : List CreditClaim} {rules : OrderedMap CreditType CreditRule}
  {eligibility : Eligibility}

/-- There are at most as many automatic credits as kinds. -/
theorem length_automaticCredits_le :
    (automaticCredits rules eligibility totalIncome claims).length ≤ 5 := by
  have distinct : (rules.entries.map fun entry => entry.1.rank).Nodup := by
    rw [List.Nodup, List.pairwise_map]
    refine rules.ascending.imp fun {a b} lt same => ?_
    have equal := CreditType.rank_injective same
    rw [equal, Std.ReflOrd.compare_self] at lt
    cases lt
  have few := Validation.length_le_card_of_nodup distinct
    (List.forall_mem_map.2 fun entry _ => Finset.mem_range.2 entry.1.rank_lt)
  rw [List.length_map, Finset.card_range] at few
  exact (List.length_filterMap_le _ _).trans few

end Credits

/-- The amounts and the number of granted claims of a declaration with regular contents. -/
structure Regular (r : Resolution) : Prop where
  deductions : ∀ deduction ∈ r.deductions, IsMoney deduction.allowed.toRat
  credits : ∀ credit ∈ r.credits, IsCredit credit.amount.toRat
  few_deductions : r.deductions.length ≤ Validation.claimLimit
  few_credits : r.credits.length ≤ Validation.claimLimit + 5

end Resolution

namespace Declaration

open Resolution

variable {d : Declaration} {table : RateTable} {r : Resolution}

/-- Few claims are granted of regular contents. -/
theorem few_of_resolve (regular : d.content.Regular) (resolved : d.resolve table = .ok r) :
    r.deductions.length ≤ Validation.claimLimit ∧
      r.credits.length ≤ Validation.claimLimit + 5 := by
  obtain ⟨-, deductions, rest⟩ := resolve_cases resolved
  refine ⟨?_, ?_⟩
  · rw [deductions]
    exact (length_granted_le _).trans
      ((length_resolveDeductions 0).trans_le regular.few_deductions)
  · rcases rest with ⟨-, none_left, -⟩ | ⟨totalIncome, -, credits, -⟩
    · simp [none_left]
    · rw [credits, List.length_append]
      refine Nat.add_le_add ((length_granted_le _).trans ?_) length_automaticCredits_le
      simpa [creditOutcomes] using regular.few_credits

/-- Claims of regular contents are granted regular amounts. -/
theorem regular_of_resolve (regular : d.content.Regular) (checked : table.Checked)
    (moderate : table.Moderate)
    (income : ∀ total ∈ d.content.grossIncome?, Decimal.Within 2 (10 ^ 18) total.toRat)
    (resolved : d.resolve table = .ok r) : r.Regular := by
  have rules := checked.deductionRule_exact moderate
  have allowed := isMoney_of_granted rules (.zero checked.deductionRule_nonneg)
    (by simpa using regular.few_deductions) regular.deductions 0
  obtain ⟨-, deductions, -⟩ := resolve_cases resolved
  obtain ⟨few_deductions, few_credits⟩ := few_of_resolve regular resolved
  refine
    { deductions := deductions ▸ allowed
      credits := fun credit member => ?_
      few_deductions := few_deductions
      few_credits := few_credits }
  obtain ⟨total, found, entry, listed, amount, base⟩ :=
    exists_entry_of_credit resolved credit member
  have sound := checked.credit_exact moderate entry listed
  have money : IsMoney credit.base.toRat := by
    rcases base with maximum | ⟨claim, claimed, capped⟩
    · exact maximum ▸ sound.maximum
    · rw [capped, Decimal.toRat_min]
      exact (regular.credits claim claimed).min sound.maximum.nonneg sound.maximum.mem_grid
  rw [amount]
  exact isCredit_creditAfterPhaseOut sound money (income total found)

end Declaration

end IncomeTax

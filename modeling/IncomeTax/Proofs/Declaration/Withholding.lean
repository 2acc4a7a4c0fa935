import IncomeTax.Proofs.Declaration.Validity

/-!
# Amounts, periods and withholding of a valid declaration

Every amount of a valid declaration is a monetary number, whatever its scale and the sign of a zero.
Every period lies in the tax year, which is 2001 or later. The check of an amount looks at the sign
of the number, while withholding is compared with the gross amount only when that has no negative
sign. So there is one gross amount that the withholding may exceed: a zero with a negative sign.

## Main results

* `IncomeRecord.Accepted.withholding_le_iff` — when the withholding is at most the gross amount
* `Declaration.amounts_of_validate` — the amounts and periods of a valid declaration
* `Declaration.withholding_above_gross` — a valid declaration with more withheld than was earned
-/

namespace IncomeTax

variable {year : Period}

theorem IncomeRecord.Accepted.toRat_eq_zero_of_negative {record : IncomeRecord}
    (accepted : record.Accepted year) (signed : record.grossAmount.negative = true) :
    record.grossAmount.toRat = 0 := by
  refine le_antisymm ?_ accepted.gross.1
  by_contra positive
  rw [not_le] at positive
  simp [Decimal.negative_eq_false_of_pos positive] at signed

/-- The withholding is at most the gross amount, unless there is some and the gross amount is a zero
with a negative sign. -/
theorem IncomeRecord.Accepted.withholding_le_iff {record : IncomeRecord}
    (accepted : record.Accepted year) :
    record.withholding.toRat ≤ record.grossAmount.toRat ↔
      ¬ (record.grossAmount.negative = true ∧ record.grossAmount.toRat = 0 ∧
        0 < record.withholding.toRat) := by
  constructor
  · rintro le ⟨-, zero, positive⟩
    rw [zero] at le
    exact absurd positive le.not_gt
  · intro compared
    by_cases signed : record.grossAmount.negative = true
    · have zero := accepted.toRat_eq_zero_of_negative signed
      have none_withheld : record.withholding.toRat ≤ 0 :=
        not_lt.1 fun positive => compared ⟨signed, zero, positive⟩
      exact none_withheld.trans_eq zero.symm
    · exact accepted.compared (Bool.eq_false_of_not_eq_true signed)

namespace Declaration

open Validation

variable {d : Declaration}

/-- The amounts of a valid declaration are monetary numbers, its periods lie in the tax year, and
that is 2001 or later. The withholding on income is at most the gross amount, unless there is some
and the gross amount is a zero with a negative sign. -/
theorem amounts_of_validate (valid : d.validate = []) :
    2001 ≤ d.taxYear.val ∧
    (∀ record ∈ d.content.income,
      IsMoney record.grossAmount.toRat ∧ IsMoney record.withholding.toRat ∧
      record.period.LiesIn d.taxYear.val ∧
      (record.withholding.toRat ≤ record.grossAmount.toRat ↔
        ¬ (record.grossAmount.negative = true ∧ record.grossAmount.toRat = 0 ∧
          0 < record.withholding.toRat))) ∧
    (∀ claim ∈ d.content.deductions,
      IsMoney claim.amount.toRat ∧ claim.period.LiesIn d.taxYear.val) ∧
    (∀ claim ∈ d.content.credits,
      IsMoney claim.amount.toRat ∧ claim.period.LiesIn d.taxYear.val) := by
  obtain ⟨year, supported, accepted⟩ := validate_eq_nil_iff.1 valid
  obtain ⟨late, calendar⟩ := supportedYear?_eq_some_iff.1 supported
  refine ⟨late, ?_, ?_, ?_⟩
  · intro record member
    have checked := accepted.income record member
    exact ⟨checked.gross, checked.withholding,
      liesIn_of_contains calendar checked.forward checked.within, checked.withholding_le_iff⟩
  · intro claim member
    have checked := accepted.deductions claim member
    exact ⟨checked.amount, liesIn_of_contains calendar checked.forward checked.within⟩
  · intro claim member
    have checked := accepted.credits claim member
    exact ⟨checked.amount, liesIn_of_contains calendar checked.forward checked.within⟩

/-- The withholding of the sample declaration is at most the income. -/
theorem amounts_of_sample2024 :
    (draft ⟨1⟩ .sample2024).validate = [] ∧
    ∀ record ∈ NewDeclaration.sample2024.content.income,
      record.withholding.toRat ≤ record.grossAmount.toRat := by
  have valid : (draft ⟨1⟩ .sample2024).validate = [] := by decide +kernel
  refine ⟨valid, fun record member => ?_⟩
  have unsigned : record.grossAmount.negative = false := by
    revert record
    decide +kernel
  have compared := ((amounts_of_validate valid).2.1 record member).2.2.2
  exact compared.2 fun exempt => absurd exempt.1 (by simp [unsigned])

/-- The sample declaration with a zero for the income from employment, written with a negative
sign. -/
def negativeZeroIncome : Declaration :=
  let d := draft ⟨1⟩ .sample2024
  { d with
    content := { d.content with
      income := d.content.income.map fun record =>
        if record.category = .employment then
          { record with grossAmount := (Decimal.unsigned 0 28).neg }
        else record } }

/-- The withholding of a valid declaration may exceed the gross amount. -/
theorem withholding_above_gross :
    negativeZeroIncome.validate = [] ∧
    ∃ record ∈ negativeZeroIncome.content.income,
      ¬ record.withholding.toRat ≤ record.grossAmount.toRat := by
  refine ⟨by decide +kernel, _, List.mem_cons_self, ?_⟩
  rw [← Decimal.le_iff_toRat]
  decide +kernel

end Declaration

end IncomeTax

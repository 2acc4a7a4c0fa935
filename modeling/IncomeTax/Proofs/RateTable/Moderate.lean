import IncomeTax.Proofs.Declaration.Validity
import IncomeTax.Proofs.OrderedMap
import IncomeTax.Proofs.RateTable.Checked

/-!
# Rate tables with moderate amounts

A moderate table has amounts like those of a declaration, whole numbers of cents in the same range,
and rates of at most eight decimals. With a checked table this is all that exact calculations need
of brackets and rules.

## Main definitions

* `RateTable.Moderate`, `RateTable.ModerateBrackets` — the condition on a table and on its brackets
  alone, which can be decided
* `IsRate` — a fraction with at most eight decimals
* `TaxBracket.Exact`, `CreditRule.Exact`, `DeductionRule.Exact` — what it says of numbers

## Main results

* `RateTable.Checked.bracket_exact`, `RateTable.Checked.credit_exact`,
  `RateTable.Checked.deduction_exact` — checked moderate tables have exact brackets and rules
-/

namespace IncomeTax

/-- At most 999 999 999 999.99, with at most two decimals. -/
def Decimal.Moderate (a : Decimal) : Prop := a ≤ Validation.greatestAmount ∧ a.trimmedScale ≤ 2

instance (a : Decimal) : Decidable a.Moderate := inferInstanceAs (Decidable (_ ∧ _))

/-- All bounds, maxima, thresholds of phase-outs and ceilings are moderate, and all rates have at
most eight decimals. -/
def RateTable.Moderate (t : RateTable) : Prop :=
  (∀ b ∈ t.brackets, b.lowerBound.Moderate ∧ (∀ upper ∈ b.upperBound, upper.Moderate) ∧
    b.rate.trimmedScale ≤ 8) ∧
  (∀ entry ∈ t.credits.entries, entry.2.maximum.Moderate ∧
    ∀ phaseOut ∈ entry.2.phaseOut, phaseOut.threshold.Moderate ∧ phaseOut.rate.trimmedScale ≤ 8) ∧
  ∀ entry ∈ t.deductions.entries, ∀ ceiling ∈ entry.2.ceiling, ceiling.Moderate

instance (t : RateTable) : Decidable t.Moderate := inferInstanceAs (Decidable (_ ∧ _ ∧ _))

/-- All bounds are moderate, and all bracket rates have at most eight decimals. The rules of the table
may say what they like. -/
def RateTable.ModerateBrackets (t : RateTable) : Prop :=
  ∀ b ∈ t.brackets, b.lowerBound.Moderate ∧ (∀ upper ∈ b.upperBound, upper.Moderate) ∧
    b.rate.trimmedScale ≤ 8

instance (t : RateTable) : Decidable t.ModerateBrackets :=
  inferInstanceAs (Decidable (∀ b ∈ t.brackets, _))

theorem RateTable.Moderate.brackets {t : RateTable} (moderate : t.Moderate) :
    t.ModerateBrackets := moderate.1

/-- A fraction with at most eight decimals. -/
abbrev IsRate (q : ℚ) : Prop := Decimal.Within 8 1 q

theorem Decimal.Moderate.isMoney {a : Decimal} (moderate : a.Moderate) (nonneg : 0 ≤ a.toRat) :
    IsMoney a.toRat where
  nonneg := nonneg
  le := by
    have le := Decimal.le_iff_toRat.1 moderate.1
    rwa [Validation.toRat_greatestAmount] at le
  mem_grid := Decimal.trimmedScale_le_iff.1 moderate.2

theorem isRate_of_isFraction {rate : Decimal} (fraction : RateTable.isFraction rate = true)
    (short : rate.trimmedScale ≤ 8) : IsRate rate.toRat :=
  have bounds := RateTable.isFraction_iff.1 fraction
  ⟨bounds.1, bounds.2, Decimal.trimmedScale_le_iff.1 short⟩

/-- A bracket between whole numbers of cents. -/
structure TaxBracket.Exact (b : TaxBracket) : Prop where
  lower : IsMoney b.lowerBound.toRat
  upper : ∀ upper ∈ b.upperBound, IsMoney upper.toRat
  rate : IsRate b.rate.toRat

/-- A rule for credits whose amounts are whole numbers of cents. -/
structure CreditRule.Exact (rule : CreditRule) : Prop where
  maximum : IsMoney rule.maximum.toRat
  threshold : ∀ phaseOut ∈ rule.phaseOut, IsMoney phaseOut.threshold.toRat
  rate : ∀ phaseOut ∈ rule.phaseOut, IsRate phaseOut.rate.toRat

/-- A rule for deductions whose ceiling is a whole number of cents. -/
def DeductionRule.Exact (rule : DeductionRule) : Prop :=
  ∀ ceiling ∈ rule.ceiling, IsMoney ceiling.toRat

namespace TaxBracket

variable {b : TaxBracket} {above : List TaxBracket}

/-- No stacked bracket starts below the lowest one. -/
theorem Stacked.lowerBound_le (stacked : Stacked b above) :
    ∀ b' ∈ b :: above, b.lowerBound.toRat ≤ b'.lowerBound.toRat := by
  induction stacked with
  | top => simp
  | beneath _ _ increasing joined _ _ ih =>
    rw [List.forall_mem_cons]
    exact ⟨le_refl _, fun b' member => (increasing.le.trans joined.ge).trans (ih b' member)⟩

theorem Stacked.upperBound_le (stacked : Stacked b above) :
    ∀ b' ∈ b :: above, ∀ upper ∈ b'.upperBound, b'.lowerBound.toRat ≤ upper.toRat := by
  induction stacked with
  | top _ opened => simp [opened]
  | beneath _ bound increasing _ _ _ ih =>
    rw [List.forall_mem_cons]
    refine ⟨fun upper found => ?_, ih⟩
    rw [bound] at found
    cases found
    exact increasing.le

theorem Stacked.fraction (stacked : Stacked b above) :
    ∀ b' ∈ b :: above, RateTable.isFraction b'.rate = true := by
  induction stacked with
  | top fraction => simpa using fraction
  | beneath fraction _ _ _ _ _ ih => exact List.forall_mem_cons.2 ⟨fraction, ih⟩

end TaxBracket

namespace RateTable

variable {t : RateTable}

theorem Checked.fraction (checked : t.Checked) : ∀ b ∈ t.brackets, isFraction b.rate = true := by
  obtain ⟨first, above, brackets, -, -, stacked⟩ := checked.stacked
  exact brackets ▸ stacked.fraction

theorem Checked.bracket_exact (checked : t.Checked) (moderate : t.ModerateBrackets) :
    ∀ b ∈ t.brackets, b.Exact := by
  obtain ⟨first, above, brackets, start, -, stacked⟩ := checked.stacked
  intro b member
  obtain ⟨lower, upper, short⟩ := moderate b member
  rw [brackets] at member
  have floor : 0 ≤ b.lowerBound.toRat := start.ge.trans (stacked.lowerBound_le b member)
  exact
    { lower := lower.isMoney floor
      upper := fun bound found =>
        (upper bound found).isMoney (floor.trans (stacked.upperBound_le b member bound found))
      rate := isRate_of_isFraction (stacked.fraction b member) short }

theorem Checked.credit_exact (checked : t.Checked) (moderate : t.Moderate) :
    ∀ entry ∈ t.credits.entries, entry.2.Exact := by
  intro entry member
  obtain ⟨floor, rules⟩ := checked.credits entry member
  obtain ⟨maximum, phaseOuts⟩ := moderate.2.1 entry member
  exact
    { maximum := maximum.isMoney floor
      threshold := fun phaseOut found =>
        (phaseOuts phaseOut found).1.isMoney (rules phaseOut found).1
      rate := fun phaseOut found =>
        isRate_of_isFraction (rules phaseOut found).2 (phaseOuts phaseOut found).2 }

theorem Checked.deduction_exact (checked : t.Checked) (moderate : t.Moderate) :
    ∀ entry ∈ t.deductions.entries, entry.2.Exact := fun entry member ceiling found =>
  (moderate.2.2 entry member ceiling found).isMoney (checked.deductions entry member ceiling found)

theorem Checked.creditRule_exact (checked : t.Checked) (moderate : t.Moderate) :
    ∀ type, ∀ rule ∈ t.creditRule? type, rule.Exact := fun _ _ found =>
  checked.credit_exact moderate _ (OrderedMap.mem_entries_of_find? found)

theorem Checked.deductionRule_nonneg (checked : t.Checked) :
    ∀ type, ∀ rule ∈ t.deductionRule? type, ∀ ceiling ∈ rule.ceiling, 0 ≤ ceiling.toRat :=
  fun _ _ found => checked.deductions _ (OrderedMap.mem_entries_of_find? found)

theorem Checked.deductionRule_exact (checked : t.Checked) (moderate : t.Moderate) :
    ∀ type, ∀ rule ∈ t.deductionRule? type, rule.Exact := fun _ _ found =>
  checked.deduction_exact moderate _ (OrderedMap.mem_entries_of_find? found)

end RateTable

/-! ### A moderate table -/

open Decimal (unsigned) in
/-- A table for residents, with the lowest bracket free of tax. One bound and the rate of the
phase-out are written with more decimals than they need. -/
def RateTableDefinition.sample2024 : RateTableDefinition where
  taxYear := NewDeclaration.sample2024.taxYear
  category := .resident
  version := "2024.1"
  brackets :=
    [⟨unsigned 0 0, some (unsigned 10000 0), unsigned 0 0⟩,
      ⟨unsigned 1000000 2, some (unsigned 75518 0), unsigned 3697 4⟩,
      ⟨unsigned 75518 0, none, unsigned 495 3⟩]
  thresholds := .ofList [("minimum_assessment", unsigned 56 0), ("minimum_refund", unsigned 18 0)]
  credits := .ofList [(.generalTaxCredit,
    ⟨unsigned 3362 0, some ⟨unsigned 24812 0, unsigned 6630 5⟩, true, none, none, .any⟩)]
  deductions := .ofList [(.gifts, ⟨some (unsigned 500 0), false⟩)]

example : (RateTable.ofDefinition .sample2024).toOption.any (decide ·.Moderate) = true := by
  decide +kernel

/-- A computation whose answer, if any, is found to pass a check has an answer that passes it. -/
theorem exists_ok_of_any {ε α : Type} {answer : Except ε α} {holds : α → Bool}
    (evaluated : answer.toOption.any holds = true) : ∃ a, answer = .ok a ∧ holds a = true := by
  cases answer with
  | error e => cases evaluated
  | ok a => exact ⟨a, rfl, evaluated⟩

end IncomeTax

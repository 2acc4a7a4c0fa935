import IncomeTax.Proofs.Calendar.DayNumber
import IncomeTax.Proofs.Declaration.Acceptance
import Mathlib.Data.Finset.Prod
import Mathlib.Data.Finset.Range

/-!
# What validation leaves

The amounts of a valid declaration are whole numbers of cents between zero and the greatest amount.
Its claims lie within the tax year, and two claims of one kind never overlap. So claims of one kind
start on different days of the year, which bounds the number of claims.

## Main definitions

* `Period.LiesIn` — the periods within a year
* `DeclarationContent.Regular` — amounts and number of claims of valid contents

## Main results

* `Validation.liesIn_of_contains` — a period within a calendar year lies in that year
* `Declaration.regular_of_validate` — valid contents are regular
-/

namespace IncomeTax

/-- The period runs forward from one day of the year to another. -/
structure Period.LiesIn (period : Period) (year : ℤ) : Prop where
  forward : period.start ≤ period.finish
  first : period.start.year = year
  last : period.finish.year = year

namespace Validation

variable {α : Type} {claims : List α} {period period' year : Period} {y : ℤ}

/-- A period within a calendar year lies in that year. -/
theorem liesIn_of_contains (found : Period.calendarYear? y = some year)
    (forward : period.isReversed = false) (within : year.contains period = true) :
    period.LiesIn y := by
  obtain ⟨⟨first, -⟩, last, -⟩ := Period.calendarYear?_eq_some_iff.1 found
  rw [isReversed_eq_false_iff] at forward
  simp only [Period.contains, Bool.and_eq_true, decide_eq_true_eq] at within
  -- The year of the first day is at most that of the last one, and both are between `y` and `y`.
  have order := Date.year_le_of_le forward
  have early := Date.year_le_of_le within.1
  have late := Date.year_le_of_le within.2
  exact ⟨forward, by omega, by omega⟩

/-- Two periods that start on one day overlap. -/
theorem overlaps_of_start_eq (forward : period.isReversed = false)
    (forward' : period'.isReversed = false) (same : period.start = period'.start) :
    period.overlaps period' = true := by
  rw [isReversed_eq_false_iff] at forward forward'
  rw [Period.overlaps, ← same, decide_eq_true forward, same, decide_eq_true forward']
  rfl

/-! ### The number of claims -/

/-- The greatest number of claims of five kinds that start on different days of a year, counted
with room to spare. -/
def claimLimit : ℕ := 5 * 13 * 32

/-- A list without repetition is no longer than a set its members are from. -/
theorem length_le_card_of_nodup {β : Type} [DecidableEq β] {l : List β} {s : Finset β}
    (distinct : l.Nodup) (members : ∀ b ∈ l, b ∈ s) : l.length ≤ s.card := by
  rw [← List.toFinset_card_of_nodup distinct]
  exact Finset.card_le_card fun b member => members b (List.mem_toFinset.1 member)

/-- Claims of five kinds within a year are few when none repeats another. -/
theorem length_le_of_pairwise (kind : α → ℕ) (span : α → Period) (y : ℤ)
    (kinds : ∀ claim ∈ claims, kind claim < 5)
    (spans : ∀ claim ∈ claims, (span claim).isReversed = false ∧ (span claim).start.year = y)
    (apart : claims.Pairwise fun earlier later =>
      ¬ (kind earlier = kind later ∧ (span earlier).overlaps (span later) = true)) :
    claims.length ≤ claimLimit := by
  -- Claims of one kind that start on one day overlap, so kind and day tell all claims apart.
  let place (claim : α) : ℕ × ℕ × ℕ :=
    (kind claim, (span claim).start.month, (span claim).start.day)
  have distinct : (claims.map place).Nodup := by
    rw [List.Nodup, List.pairwise_map]
    refine apart.imp_of_mem fun {earlier later} member member' differ same => differ ?_
    obtain ⟨forward, inYear⟩ := spans earlier member
    obtain ⟨forward', inYear'⟩ := spans later member'
    simp only [place, Prod.mk.injEq] at same
    obtain ⟨kinds, months, days⟩ := same
    have start := Date.eq_of_parts (inYear.trans inYear'.symm) months days
    exact ⟨kinds, overlaps_of_start_eq forward forward' start⟩
  have few : (claims.map place).length ≤
      (Finset.range 5 ×ˢ Finset.range 13 ×ˢ Finset.range 32).card := by
    refine length_le_card_of_nodup distinct (List.forall_mem_map.2 fun claim member => ?_)
    simp [place, kinds claim member, Date.month_lt, Date.day_lt]
  simpa [Finset.card_product, claimLimit] using few

end Validation

theorem DeductionType.rank_injective : Function.Injective DeductionType.rank := by
  intro type type' same
  cases type <;> cases type' <;> first | rfl | cases same

theorem CreditType.rank_injective : Function.Injective CreditType.rank := by
  intro type type' same
  cases type <;> cases type' <;> first | rfl | cases same

theorem DeductionType.rank_lt (type : DeductionType) : type.rank < 5 := by
  cases type <;> decide

theorem CreditType.rank_lt (type : CreditType) : type.rank < 5 := by
  cases type <;> decide

/-- The amounts and the number of claims of valid contents. -/
structure DeclarationContent.Regular (content : DeclarationContent) : Prop where
  gross : ∀ record ∈ content.income, IsMoney record.grossAmount.toRat
  withholding : ∀ record ∈ content.income, IsMoney record.withholding.toRat
  deductions : ∀ claim ∈ content.deductions, IsMoney claim.amount.toRat
  credits : ∀ claim ∈ content.credits, IsMoney claim.amount.toRat
  few_deductions : content.deductions.length ≤ Validation.claimLimit
  few_credits : content.credits.length ≤ Validation.claimLimit

namespace Declaration

open Validation

variable {d : Declaration} {year : Period}

/-- The contents of a valid declaration are regular. -/
theorem regular_of_validate (valid : d.validate = []) : d.content.Regular := by
  obtain ⟨year, found, accepted⟩ := validate_eq_nil_iff.1 valid
  obtain ⟨-, calendar⟩ := supportedYear?_eq_some_iff.1 found
  refine
    { gross := fun record member => (accepted.income record member).gross
      withholding := fun record member => (accepted.income record member).withholding
      deductions := fun claim member => (accepted.deductions claim member).amount
      credits := fun claim member => (accepted.credits claim member).amount
      few_deductions := ?_
      few_credits := ?_ }
  · refine length_le_of_pairwise (·.deductionType.rank) (·.period) d.taxYear.val
      (fun claim _ => claim.deductionType.rank_lt) (fun claim member => ?_)
      (accepted.distinctDeductions.imp fun fresh same => ?_)
    · obtain ⟨-, forward, within, -⟩ := accepted.deductions claim member
      exact ⟨forward, (liesIn_of_contains calendar forward within).first⟩
    · simp [repeatsDeduction, DeductionType.rank_injective same.1, same.2] at fresh
  · refine length_le_of_pairwise (·.creditType.rank) (·.period) d.taxYear.val
      (fun claim _ => claim.creditType.rank_lt) (fun claim member => ?_)
      (accepted.distinctCredits.imp fun fresh same => ?_)
    · obtain ⟨-, forward, within⟩ := accepted.credits claim member
      exact ⟨forward, (liesIn_of_contains calendar forward within).first⟩
    · simp [repeatsCredit, CreditType.rank_injective same.1, same.2] at fresh

end Declaration

/-! ### Two valid declarations -/

/-- The period from one day of 2024 to another. -/
def Period.in2024 (start finish : ℕ × ℕ)
    (real : 1 ≤ start.2 ∧ start.2 ≤ daysInMonth 2024 start.1 := by decide)
    (real' : 1 ≤ finish.2 ∧ finish.2 ≤ daysInMonth 2024 finish.1 := by decide) : Period :=
  ⟨⟨2024, start.1, start.2, by decide, real⟩, ⟨2024, finish.1, finish.2, by decide, real'⟩⟩

open Decimal (unsigned) in
/-- A declaration of a resident with two sources of income and two gifts. -/
def NewDeclaration.sample2024 : NewDeclaration where
  taxYear := ⟨2024, by decide⟩
  category := .resident
  identity := none
  content :=
    { taxpayer := ⟨"111222333", .resident, ⟨1980, 2, 29, by decide, by decide⟩, none,
        some "1234 AB", none⟩
      fiscalPartner := none
      dependents := []
      income :=
        [⟨.employment, unsigned 5000000 2, .in2024 (1, 1) (12, 31), unsigned 15000 0⟩,
          ⟨.foreign, unsigned 1234500 3, .in2024 (3, 1) (3, 31), unsigned 0 0⟩]
      deductions :=
        [⟨.gifts, unsigned 300 0, .in2024 (1, 1) (6, 30), none⟩,
          ⟨.gifts, unsigned 40000 2, .in2024 (7, 1) (12, 31), none⟩]
      credits := []
      refundAccount := none }

example : (Declaration.draft ⟨1⟩ .sample2024).validate = [] := by decide +kernel

open Decimal (unsigned) in
/-- The sample declaration with alimony between its two gifts, and a third gift after them. -/
def NewDeclaration.sampleGifts : NewDeclaration :=
  { sample2024 with
    content := { sample2024.content with
      deductions :=
        [⟨.gifts, unsigned 300 0, .in2024 (1, 1) (6, 30), none⟩,
          ⟨.alimony, unsigned 120000 2, .in2024 (1, 1) (12, 31), none⟩,
          ⟨.gifts, unsigned 40000 2, .in2024 (7, 1) (9, 30), none⟩,
          ⟨.gifts, unsigned 25 0, .in2024 (10, 1) (12, 31), none⟩] } }

end IncomeTax

import IncomeTax.Proofs.Calendar.DayNumber
import IncomeTax.Proofs.Declaration.Validity
import Mathlib.Algebra.BigOperators.Ring.Finset

/-!
# Claims of one kind are packed into the year

A valid declaration has no two claims of one kind for a common day, wherever in the list they stand
and whatever claims stand between them. Each claim is for at least one day of the tax year. So the
periods of one kind have no more days than the year when they are added up, and there are no more of
them than days. The periods of income may overlap, but for a migration declaration their days are
limited as well.

## Main definitions

* `Period.Packed` — periods that lie beside each other in a year

## Main results

* `Period.sum_card_le` — disjoint sets of days have no more days than what they are part of
* `Period.packed_of_contains` — what that says of periods
* `Declaration.packed_of_validate` — the claims of each kind are packed
-/

namespace IncomeTax

namespace Period

/-- Periods of one year that have no day in common, with the room they take. -/
structure Packed (periods : List Period) (y : ℤ) : Prop where
  inside : ∀ period ∈ periods, period.LiesIn y
  apart : periods.Pairwise fun period period' =>
    ∀ day, ¬ (period.Covers day ∧ period'.Covers day)
  days_le : (periods.map (·.days)).sum ≤ daysInYear y
  few : periods.length ≤ 366

/-- Sets without common members are no larger together than a set they are part of. -/
theorem sum_card_le {sets : List (Finset ℤ)} {whole : Finset ℤ} (apart : sets.Pairwise Disjoint)
    (within : ∀ set ∈ sets, set ⊆ whole) : (sets.map (·.card)).sum ≤ whole.card := by
  -- Each set is taken out of the whole before the next one is looked at.
  induction sets generalizing whole with
  | nil => exact Nat.zero_le _
  | cons set rest ih =>
    rw [List.pairwise_cons] at apart
    rw [List.forall_mem_cons] at within
    have left : ∀ other ∈ rest, other ⊆ whole \ set := fun other member =>
      Finset.subset_sdiff.2 ⟨within.2 other member, (apart.1 other member).symm⟩
    calc ((set :: rest).map (·.card)).sum = set.card + (rest.map (·.card)).sum := by
          rw [List.map_cons, List.sum_cons]
      _ ≤ set.card + (whole \ set).card := Nat.add_le_add_left (ih apart.2 left) _
      _ = whole.card := by rw [add_comm, Finset.card_sdiff_add_card_eq_card within.1]

variable {periods : List Period} {year : Period} {y : ℤ}

/-- Periods within a year that do not overlap are packed. -/
theorem packed_of_contains (found : calendarYear? y = some year)
    (forward : ∀ period ∈ periods, period.isReversed = false)
    (within : ∀ period ∈ periods, year.contains period = true)
    (apart : periods.Pairwise fun period period' => period.overlaps period' = false) :
    Packed periods y := by
  have whole : (year.dayNumbers.card : ℤ) = daysInYear y := by
    rw [card_dayNumbers, days_of_calendarYear? found]
  have sum : (periods.map (·.days)).sum = (((periods.map dayNumbers).map (·.card)).sum : ℕ) := by
    rw [Nat.cast_list_sum, List.map_map, List.map_map]
    exact congrArg List.sum (List.map_congr_left fun period _ => period.card_dayNumbers.symm)
  have packed : ((periods.map dayNumbers).map (·.card)).sum ≤ year.dayNumbers.card :=
    sum_card_le (List.pairwise_map.2 (apart.imp disjoint_dayNumbers))
      (List.forall_mem_map.2 fun period member => dayNumbers_subset (within period member))
  have days_le : (periods.map (·.days)).sum ≤ daysInYear y := by omega
  have few : (periods.length : ℤ) ≤ (periods.map (·.days)).sum := by
    have least := List.card_nsmul_le_sum (periods.map (·.days)) 1
      (List.forall_mem_map.2 fun period member => one_le_days (forward period member))
    simpa using least
  refine
    { inside := fun period member =>
        Validation.liesIn_of_contains found (forward period member) (within period member)
      apart := apart.imp_of_mem fun {period period'} member member' separate day common => ?_
      days_le := days_le
      few := ?_ }
  · have shared : period.overlaps period' = true :=
      (overlaps_iff (forward period member) (forward period' member')).2 ⟨day, common⟩
    rw [separate] at shared
    cases shared
  · have most := daysInYear_le y
    omega

/-- Among claims that are for a day of one kind at most once, those of a kind are packed. -/
theorem packed_of_kind {α κ : Type} [DecidableEq κ] {claims : List α} (kind : α → κ)
    (span : α → Period) (found : calendarYear? y = some year)
    (forward : ∀ claim ∈ claims, (span claim).isReversed = false)
    (within : ∀ claim ∈ claims, year.contains (span claim) = true)
    (apart : claims.Pairwise fun earlier later =>
      (kind earlier == kind later && (span earlier).overlaps (span later)) = false) (type : κ) :
    Packed ((claims.filter (kind · = type)).map span) y := by
  apply packed_of_contains found
  · exact List.forall_mem_map.2 fun claim member => forward claim (List.mem_of_mem_filter member)
  · exact List.forall_mem_map.2 fun claim member => within claim (List.mem_of_mem_filter member)
  · rw [List.pairwise_map]
    refine (apart.filter _).imp_of_mem fun {earlier later} member member' distinct => ?_
    have first := of_decide_eq_true (List.mem_filter.1 member).2
    have second := of_decide_eq_true (List.mem_filter.1 member').2
    simpa [first, second] using distinct

end Period

namespace Declaration

open Validation

variable {d : Declaration}

/-- In a valid declaration the claims of each kind are packed into the tax year, and the income of a
migration declaration is for 366 days at most, each counted as often as it occurs. -/
theorem packed_of_validate (valid : d.validate = []) :
    (∀ type, Period.Packed
      ((d.content.deductions.filter (·.deductionType = type)).map (·.period)) d.taxYear.val) ∧
    (∀ type, Period.Packed
      ((d.content.credits.filter (·.creditType = type)).map (·.period)) d.taxYear.val) ∧
    (d.category = .migration → (d.content.income.map (·.period.days)).sum ≤ 366) := by
  obtain ⟨year, found, accepted⟩ := validate_eq_nil_iff.1 valid
  obtain ⟨-, calendar⟩ := supportedYear?_eq_some_iff.1 found
  refine ⟨?_, ?_, accepted.partialYear⟩
  · exact Period.packed_of_kind DeductionClaim.deductionType DeductionClaim.period calendar
      (fun claim member => (accepted.deductions claim member).forward)
      (fun claim member => (accepted.deductions claim member).within) accepted.distinctDeductions
  · exact Period.packed_of_kind CreditClaim.creditType CreditClaim.period calendar
      (fun claim member => (accepted.credits claim member).forward)
      (fun claim member => (accepted.credits claim member).within) accepted.distinctCredits

end Declaration

open Decimal (unsigned) in
/-- A declaration for a year of migration, with 366 days of overlapping income. Its gifts fill the
year, with alimony between them, and one credit is claimed for the leap day alone. -/
def NewDeclaration.sampleMigration : NewDeclaration :=
  { sampleGifts with
    category := .migration
    content := { sampleGifts.content with
      taxpayer := { sampleGifts.content.taxpayer with residency := .partialYear }
      income :=
        [⟨.employment, unsigned 5000000 2, .in2024 (1, 2) (6, 29), unsigned 15000 0⟩,
          ⟨.foreign, unsigned 1234500 3, .in2024 (2, 2) (8, 5), unsigned 0 0⟩]
      credits :=
        [⟨.generalTaxCredit, unsigned 100 0, .in2024 (1, 2) (2, 28)⟩,
          ⟨.elderlyCredit, unsigned 100 0, .in2024 (2, 2) (3, 30)⟩,
          ⟨.generalTaxCredit, unsigned 100 0, .in2024 (2, 29) (2, 29)⟩] } }

namespace Declaration

/-- Both limits are reached. -/
theorem packed_of_sampleMigration :
    let d := draft ⟨1⟩ .sampleMigration
    let gifts := (d.content.deductions.filter (·.deductionType = .gifts)).map (·.period)
    d.validate = [] ∧ d.category = .migration ∧ Period.Packed gifts 2024 ∧
      (gifts.map (·.days)).sum = 366 ∧ (d.content.income.map (·.period.days)).sum ≤ 366 ∧
      366 ≤ (d.content.income.map (·.period.days)).sum := by
  intro d gifts
  have valid : d.validate = [] := by decide +kernel
  obtain ⟨deductions, -, income⟩ := packed_of_validate valid
  exact ⟨valid, rfl, deductions .gifts, by decide +kernel, income rfl, by decide +kernel⟩

end Declaration

end IncomeTax

import IncomeTax.Proofs.Calendar.WholeYears
import IncomeTax.Proofs.Declaration.Accounting

/-!
# Eligibility depends on years of birth

Credit rules look at ages at the end of the tax year. In a valid declaration nobody is born after
that day, so an age is the difference of two years, whatever the month and the day of the birth. A
taxpayer is old enough when born in a certain year or earlier. A dependent is young enough when born
after a certain year, and the youngest one is when any of them is; without dependents none is.

## Main definitions

* `Declaration.EligibleByBirthYear` — what a credit rule asks, told by years of birth
* `Declaration.SameBirthYears` — two declarations that credit rules do not tell apart

## Main results

* `Declaration.eligibleFor_iff_byBirthYear` — valid declarations are looked at by years of birth
* `Declaration.meets_by_birthYears` — eligibility depends on nothing else
-/

namespace IncomeTax

namespace Declaration

/-- What a credit rule asks of the taxpayer, told by years: to be born early enough, to have a
dependent born late enough, and to have a partner or none. -/
@[mk_iff]
structure EligibleByBirthYear (d : Declaration) (rule : CreditRule) : Prop where
  age : ∀ least ∈ rule.minimumAge,
    d.content.taxpayer.dateOfBirth.year ≤ d.taxYear.val - least.toNat
  dependent : ∀ limit ∈ rule.dependentUnderAge,
    ∃ dependent ∈ d.content.dependents, d.taxYear.val - limit.toNat < dependent.dateOfBirth.year
  withPartner : rule.partner = .withPartner → d.content.taxpayer.partner.isSome = true
  withoutPartner : rule.partner = .withoutPartner → d.content.taxpayer.partner = none

/-- Declarations of one tax year whose taxpayers are born in one year and both have a partner or
both have none, with dependents born in the same years, however many in each and in any order. -/
structure SameBirthYears (d d' : Declaration) : Prop where
  taxYear : d.taxYear = d'.taxYear
  taxpayer : d.content.taxpayer.dateOfBirth.year = d'.content.taxpayer.dateOfBirth.year
  dependents : ∀ born, (∃ dependent ∈ d.content.dependents, dependent.dateOfBirth.year = born) ↔
    ∃ dependent ∈ d'.content.dependents, dependent.dateOfBirth.year = born
  partner : d.content.taxpayer.partner.isSome = d'.content.taxpayer.partner.isSome

open Validation

variable {d d' : Declaration} {rule : CreditRule}

/-- A credit rule looks at a valid declaration by years of birth. -/
theorem eligibleFor_iff_byBirthYear (valid : d.validate = []) :
    d.EligibleFor rule ↔ d.EligibleByBirthYear rule := by
  obtain ⟨year, supported, accepted⟩ := validate_eq_nil_iff.1 valid
  obtain ⟨-, found⟩ := supportedYear?_eq_some_iff.1 supported
  -- Nobody is born after the end of the year, so no age is held at zero there.
  have age (least : UInt32) :
      least.toNat ≤ d.content.taxpayer.dateOfBirth.wholeYearsUntil year.finish ↔
        d.content.taxpayer.dateOfBirth.year ≤ d.taxYear.val - least.toNat := by
    have passed := Date.wholeYearsUntil_finish found accepted.taxpayer.birth.2
    omega
  have young (limit : UInt32) (dependent : Dependent) (member : dependent ∈ d.content.dependents) :
      dependent.dateOfBirth.wholeYearsUntil year.finish < limit.toNat ↔
        d.taxYear.val - limit.toNat < dependent.dateOfBirth.year := by
    have passed := Date.wholeYearsUntil_finish found (accepted.dependents dependent member).2
    omega
  have youngest (limit : UInt32) :
      (∃ dependent ∈ d.content.dependents,
        dependent.dateOfBirth.wholeYearsUntil year.finish < limit.toNat) ↔
      ∃ dependent ∈ d.content.dependents,
        d.taxYear.val - limit.toNat < dependent.dateOfBirth.year :=
    exists_congr fun dependent => and_congr_right fun member => young limit dependent member
  simp only [eligibleFor_iff, eligibleByBirthYear_iff, found, Option.some.injEq, exists_eq_left',
    age, youngest]

namespace SameBirthYears

theorem symm (same : d.SameBirthYears d') : d'.SameBirthYears d where
  taxYear := same.taxYear.symm
  taxpayer := same.taxpayer.symm
  dependents born := (same.dependents born).symm
  partner := same.partner.symm

/-- Who is eligible by their years of birth is so under every declaration with the same ones. -/
theorem eligible (same : d.SameBirthYears d') (eligible : d.EligibleByBirthYear rule) :
    d'.EligibleByBirthYear rule where
  age least asked := by
    rw [← same.taxpayer, ← same.taxYear]
    exact eligible.age least asked
  dependent limit asked := by
    obtain ⟨young, member, late⟩ := eligible.dependent limit asked
    obtain ⟨young', member', born⟩ := (same.dependents _).1 ⟨young, member, rfl⟩
    rw [← same.taxYear]
    exact ⟨young', member', late.trans_eq born.symm⟩
  withPartner asked := same.partner ▸ eligible.withPartner asked
  withoutPartner asked := by
    have single := Option.not_isSome_iff_eq_none.2 (eligible.withoutPartner asked)
    rw [same.partner] at single
    exact Option.not_isSome_iff_eq_none.1 single

theorem eligible_iff (same : d.SameBirthYears d') :
    d.EligibleByBirthYear rule ↔ d'.EligibleByBirthYear rule :=
  ⟨same.eligible, same.symm.eligible⟩

end SameBirthYears

/-- Eligibility depends on years of birth only. The conditions of a credit rule are met by a valid
declaration exactly when its years of birth and the presence of a partner are what the rule asks,
and so they are met alike by another valid declaration that agrees in these. -/
theorem meets_by_birthYears (valid : d.validate = []) (rule : CreditRule) :
    (d.eligibility.meets rule = true ↔ d.EligibleByBirthYear rule) ∧
    ∀ d', d'.validate = [] → d.SameBirthYears d' →
      d'.eligibility.meets rule = d.eligibility.meets rule := by
  have told {d : Declaration} (valid : d.validate = []) :
      d.eligibility.meets rule = true ↔ d.EligibleByBirthYear rule :=
    meets_eligibility_iff.trans (eligibleFor_iff_byBirthYear valid)
  refine ⟨told valid, fun d' valid' same => ?_⟩
  rw [Bool.eq_iff_iff, told valid, told valid']
  exact same.symm.eligible_iff

end Declaration

/-- The sample declaration of another taxpayer, who is born on a leap day too, with two dependents.
One comes of age on the last day of the tax year, the other on the day after. -/
def NewDeclaration.sampleParent : NewDeclaration :=
  { sample2024 with
    content := { sample2024.content with
      taxpayer := { sample2024.content.taxpayer with
        dateOfBirth := ⟨1984, 2, 29, by decide, by decide⟩ }
      dependents :=
        [⟨⟨2006, 12, 31, by decide, by decide⟩⟩, ⟨⟨2007, 1, 1, by decide, by decide⟩⟩] } }

/-- A declaration of the same years of birth, on other days and with a third dependent. -/
def NewDeclaration.sampleNeighbour : NewDeclaration :=
  { sampleParent with
    content := { sampleParent.content with
      taxpayer := { sampleParent.content.taxpayer with
        dateOfBirth := ⟨1984, 12, 31, by decide, by decide⟩ }
      dependents :=
        [⟨⟨2007, 12, 31, by decide, by decide⟩⟩, ⟨⟨2006, 1, 1, by decide, by decide⟩⟩,
          ⟨⟨2007, 6, 15, by decide, by decide⟩⟩] } }

/-- A credit for taxpayers from an age on who have no partner and a dependent under another age. -/
def CreditRule.sampleAges (least limit : UInt32) : CreditRule :=
  ⟨.unsigned 1000 0, none, false, some least, some limit, .withoutPartner⟩

theorem Declaration.sameBirthYears_sampleNeighbour :
    (draft ⟨1⟩ .sampleParent).SameBirthYears (draft ⟨2⟩ .sampleNeighbour) where
  taxYear := rfl
  taxpayer := rfl
  dependents born := by
    simp only [draft, NewDeclaration.sampleParent, NewDeclaration.sampleNeighbour,
      List.exists_mem_cons_iff, List.not_mem_nil, false_and, exists_false, or_false]
    omega
  partner := rfl

/-- Both taxpayers are eligible from the age of 40 with a dependent under 18. Neither is when the
rule asks for one year more of the taxpayer, or one year less of the dependent. -/
theorem Declaration.meets_by_birthYears_of_sampleParent :
    let d := draft ⟨1⟩ .sampleParent
    let d' := draft ⟨2⟩ .sampleNeighbour
    d.validate = [] ∧ d'.validate = [] ∧ d.SameBirthYears d' ∧
      d.EligibleByBirthYear (.sampleAges 40 18) ∧ d'.eligibility.meets (.sampleAges 40 18) = true ∧
      ¬ d.EligibleByBirthYear (.sampleAges 41 18) ∧
      d'.eligibility.meets (.sampleAges 41 18) = false ∧
      ¬ d.EligibleByBirthYear (.sampleAges 40 17) ∧
      d'.eligibility.meets (.sampleAges 40 17) = false := by
  intro d d'
  have valid : d.validate = [] := by decide +kernel
  have valid' : d'.validate = [] := by decide +kernel
  have same : d.SameBirthYears d' := sameBirthYears_sampleNeighbour
  have met : d.eligibility.meets (.sampleAges 40 18) = true := by decide +kernel
  have tooYoung : d.eligibility.meets (.sampleAges 41 18) = false := by decide +kernel
  have tooOld : d.eligibility.meets (.sampleAges 40 17) = false := by decide +kernel
  have told (rule : CreditRule) := meets_by_birthYears valid rule
  have alike (rule : CreditRule) : d'.eligibility.meets rule = d.eligibility.meets rule :=
    (told rule).2 d' valid' same
  exact ⟨valid, valid', same, (told _).1.1 met, (alike _).trans met,
    mt (told _).1.2 (ne_true_of_eq_false tooYoung), (alike _).trans tooYoung,
    mt (told _).1.2 (ne_true_of_eq_false tooOld), (alike _).trans tooOld⟩

end IncomeTax

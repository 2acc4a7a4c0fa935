import IncomeTax.Declaration.Validation
import IncomeTax.Proofs.Calendar.Date
import IncomeTax.Proofs.Decimal.Cents
import Mathlib.Tactic.MkIffOfInductiveProp

/-!
# What validation lets pass

A declaration is valid exactly when each of its parts is accepted. An entry of a list is looked at
by itself: its place plays a part in the wording of a violation only. Apart from the single entries,
the total number of days of income and the overlap of two claims of one kind are looked at.

## Main definitions

* `IsMoney` — the numbers an amount of a valid declaration may stand for
* `IncomeRecord.Accepted`, `DeductionClaim.Accepted`, `CreditClaim.Accepted`,
  `PartnerReference.Accepted` — what the check of an entry lets pass
* `Declaration.Accepted` — what all checks let pass

## Main results

* `Validation.amountErrors_eq_nil_iff` — what the check of an amount accepts
* `Validation.incomeErrors_eq_nil_iff` — what the check of an income record accepts
* `Declaration.validate_eq_nil_iff` — the valid declarations are the accepted ones
-/

namespace IncomeTax

/-- A whole number of cents from zero to 999 999 999 999.99. -/
abbrev IsMoney (q : ℚ) : Prop := Decimal.Within 2 (99999999999999 / 100) q

namespace Validation

variable {field path : String} {rule : Rule} {violation : Option Rule} {broken : Bool} {a : Decimal}

@[simp] theorem toRat_greatestAmount : greatestAmount.toRat = 99999999999999 / 100 := by
  norm_num [Decimal.toRat_eq, greatestAmount]

@[simp] theorem errorIf_eq_nil_iff : errorIf broken field rule = [] ↔ broken = false := by
  cases broken <;> simp [errorIf]

theorem errorOf_eq_nil_iff : errorOf field violation = [] ↔ violation = none := by
  cases violation <;> simp [errorOf]

/-- The check of an amount accepts the monetary numbers, whatever the scale and the sign of zero. -/
theorem amountErrors_eq_nil_iff : amountErrors field a = [] ↔ IsMoney a.toRat := by
  have sign : (a.negative && !a.isZero) = false ↔ 0 ≤ a.toRat := by
    rw [← Bool.not_eq_true, ← Decimal.toRat_lt_zero_iff, not_lt]
  have range : ¬ greatestAmount < a.abs ↔ |a.toRat| ≤ 99999999999999 / 100 := by
    rw [Decimal.lt_iff_toRat, Decimal.toRat_abs, toRat_greatestAmount, not_lt]
  simp only [amountErrors, List.append_eq_nil_iff, errorIf_eq_nil_iff, sign, range, not_lt,
    decide_eq_false_iff_not, Decimal.trimmedScale_le_iff]
  constructor
  · rintro ⟨⟨nonneg, le⟩, member⟩
    exact ⟨nonneg, (le_abs_self _).trans le, member⟩
  · rintro ⟨nonneg, le, member⟩
    exact ⟨⟨nonneg, (abs_of_nonneg nonneg).trans_le le⟩, member⟩

/-! ### Lists of items -/

variable {α : Type} {check : ℕ → α → List ValidationError} {items claims : List α}

theorem eachErrors_eq_nil_iff :
    eachErrors check items = [] ↔ ∀ i item, items[i]? = some item → check i item = [] := by
  simp only [eachErrors, List.flatMap_eq_nil_iff, Prod.forall, List.mem_zipIdx_iff_getElem?]
  exact forall_comm

/-- What is said of every item with its index, but not of the index, is said of every item. -/
theorem forall_mem_zipIdx_iff {holds : α → Prop} :
    (∀ item ∈ items.zipIdx, holds item.1) ↔ ∀ item ∈ items, holds item := by
  conv_rhs => rw [← List.zipIdx_map_fst 0 items]
  exact List.forall_mem_map.symm

/-- When a check looks at the item alone, and at its index for the path only, every item must pass
it. -/
theorem eachErrors_eq_nil_iff_forall_mem {accepted : α → Prop}
    (passes : ∀ i item, check i item = [] ↔ accepted item) :
    eachErrors check items = [] ↔ ∀ item ∈ items, accepted item := by
  rw [eachErrors, List.flatMap_eq_nil_iff]
  refine Iff.trans (forall₂_congr fun item _ => ?_) forall_mem_zipIdx_iff
  exact passes item.2 item.1

/-- There are no duplicates when no claim repeats an earlier one. -/
theorem duplicateErrors_eq_nil_iff {repeats : α → α → Bool} {list : String} :
    duplicateErrors list repeats claims = [] ↔
      claims.Pairwise fun earlier later => repeats earlier later = false := by
  rw [List.pairwise_iff_getElem]
  constructor
  · intro valid i j below above lt
    have clean := eachErrors_eq_nil_iff.1 valid j claims[j] (List.getElem?_eq_getElem above)
    rw [errorIf_eq_nil_iff, List.any_eq_false] at clean
    exact Bool.eq_false_iff.2 (clean _ (List.mem_take_iff_getElem.2 ⟨i, by omega, rfl⟩))
  · intro distinct
    refine eachErrors_eq_nil_iff.2 fun j later found => ?_
    obtain ⟨above, rfl⟩ := List.getElem?_eq_some_iff.1 found
    rw [errorIf_eq_nil_iff, List.any_eq_false]
    intro earlier member
    obtain ⟨i, below, rfl⟩ := List.mem_take_iff_getElem.1 member
    exact Bool.eq_false_iff.1 (distinct i j (by omega) above (by omega))

/-! ### Periods -/

variable {period year : Period}

theorem isReversed_eq_false_iff : period.isReversed = false ↔ period.start ≤ period.finish :=
  decide_eq_false_iff_not.trans Date.not_lt_iff

theorem periodErrors_eq_nil_iff : periodErrors path period (some year) = [] ↔
    period.isReversed = false ∧ year.contains period = true := by
  unfold periodErrors
  cases period.isReversed <;> simp

end Validation

/-! ### What each check lets pass -/

section Accepted

open Validation

/-- What the check of an income record lets pass in a supported year. The withholding is compared
only with a gross amount without a negative sign. -/
structure IncomeRecord.Accepted (record : IncomeRecord) (year : Period) : Prop where
  gross : IsMoney record.grossAmount.toRat
  withholding : IsMoney record.withholding.toRat
  compared : record.grossAmount.negative = false →
    record.withholding.toRat ≤ record.grossAmount.toRat
  forward : record.period.isReversed = false
  within : year.contains record.period = true

/-- What the check of a profile lets pass in a supported year. The number may be missing when there
is a foreign tax identifier. -/
@[mk_iff]
structure TaxpayerProfile.Accepted (profile : TaxpayerProfile) (year : Period) : Prop where
  number : Text.trim profile.bsn = "" ∧ profile.foreignTaxId.isSome = true ∨
    Bsn.violation (Text.trim profile.bsn) = none
  foreign : ∀ id ∈ profile.foreignTaxId, isForeignId id = true
  birth : earliestBirth ≤ profile.dateOfBirth ∧ profile.dateOfBirth ≤ year.finish
  postalCode : profile.postalCode.bind PostalCode.violation = none

/-- What the check of a reference to a partner of the taxpayer lets pass. -/
def PartnerReference.Accepted (taxpayer : TaxpayerProfile) : PartnerReference → Prop
  | .bsn number =>
    Bsn.violation (Text.trim number) = none ∧ Text.trim number ≠ Text.trim taxpayer.bsn
  | .foreignTaxId id => isForeignId id = true

/-- What the check of a deduction claim of the taxpayer lets pass in a supported year. -/
@[mk_iff]
structure DeductionClaim.Accepted (claim : DeductionClaim) (year : Period)
    (taxpayer : TaxpayerProfile) : Prop where
  amount : IsMoney claim.amount.toRat
  forward : claim.period.isReversed = false
  within : year.contains claim.period = true
  shared : ∀ reference ∈ claim.sharedWith, reference.Accepted taxpayer

/-- What the check of a credit claim lets pass in a supported year. -/
@[mk_iff]
structure CreditClaim.Accepted (claim : CreditClaim) (year : Period) : Prop where
  amount : IsMoney claim.amount.toRat
  forward : claim.period.isReversed = false
  within : year.contains claim.period = true

/-- What all checks let pass in a supported year. -/
@[mk_iff]
structure Declaration.Accepted (d : Declaration) (year : Period) : Prop where
  taxpayer : d.content.taxpayer.Accepted year
  partner : ∀ reference ∈ d.content.taxpayer.partner, reference.Accepted d.content.taxpayer
  fiscalPartner : ∀ profile ∈ d.content.fiscalPartner, profile.Accepted year
  dependents : ∀ dependent ∈ d.content.dependents,
    earliestBirth ≤ dependent.dateOfBirth ∧ dependent.dateOfBirth ≤ year.finish
  refundAccount : d.content.refundAccount.bind Iban.violation = none
  income : ∀ record ∈ d.content.income, record.Accepted year
  deductions : ∀ claim ∈ d.content.deductions, claim.Accepted year d.content.taxpayer
  credits : ∀ claim ∈ d.content.credits, claim.Accepted year
  postalCode : d.content.taxpayer.residency = .resident →
    d.content.taxpayer.postalCode.isNone = false
  residency : d.content.taxpayer.residency = d.category.requiredResidency
  matching : ∀ profile ∈ d.content.fiscalPartner,
    ∃ reference ∈ d.content.taxpayer.partner, reference.identifies profile = true
  partialYear : d.category = .migration →
    (d.content.income.map (·.period.days)).sum ≤ partialYearLimit
  distinctDeductions : d.content.deductions.Pairwise fun earlier later =>
    repeatsDeduction earlier later = false
  distinctCredits : d.content.credits.Pairwise fun earlier later =>
    repeatsCredit earlier later = false

end Accepted

namespace Validation

variable {path field : String} {year : Period} {taxpayer : TaxpayerProfile}

theorem birthErrors_eq_nil_iff {birth : Date} : birthErrors field birth (some year) = [] ↔
    earliestBirth ≤ birth ∧ birth ≤ year.finish := by
  simp only [birthErrors, errorIf_eq_nil_iff, Option.any_some, Bool.or_eq_false_iff,
    decide_eq_false_iff_not, Date.not_lt_iff]

theorem eachErrors_birthErrors_eq_nil_iff {field : ℕ → String} {dependents : List Dependent} :
    eachErrors (fun i dependent => birthErrors (field i) dependent.dateOfBirth (some year))
      dependents = [] ↔ ∀ dependent ∈ dependents,
        earliestBirth ≤ dependent.dateOfBirth ∧ dependent.dateOfBirth ≤ year.finish :=
  eachErrors_eq_nil_iff_forall_mem fun _ _ => birthErrors_eq_nil_iff

theorem profileErrors_eq_nil_iff {profile : TaxpayerProfile} :
    profileErrors path profile (some year) = [] ↔ profile.Accepted year := by
  have foreign : profile.foreignTaxId.any (!isForeignId ·) = false ↔
      ∀ id ∈ profile.foreignTaxId, isForeignId id = true := by
    simp [Option.any_eq_false]
  simp only [profileErrors, List.append_eq_nil_iff, errorIf_eq_nil_iff, errorOf_eq_nil_iff,
    birthErrors_eq_nil_iff, foreign, TaxpayerProfile.accepted_iff, and_assoc]
  refine and_congr_left' ?_
  split_ifs with foreignOnly
  · rw [Bool.and_eq_true, String.isEmpty_iff] at foreignOnly
    simp [foreignOnly]
  · rw [Bool.and_eq_true, String.isEmpty_iff] at foreignOnly
    simp [foreignOnly, errorOf_eq_nil_iff]

theorem referenceErrors_eq_nil_iff {reference : PartnerReference} :
    referenceErrors path reference taxpayer = [] ↔ reference.Accepted taxpayer := by
  cases reference with
  | bsn number =>
    cases broken : Bsn.violation (Text.trim number) <;>
      simp [referenceErrors, PartnerReference.Accepted, broken]
  | foreignTaxId id => simp [referenceErrors, PartnerReference.Accepted]

theorem incomeErrors_eq_nil_iff (i : ℕ) (record : IncomeRecord) :
    incomeErrors (some year) i record = [] ↔ record.Accepted year := by
  simp only [incomeErrors, List.append_eq_nil_iff, amountErrors_eq_nil_iff, errorIf_eq_nil_iff,
    periodErrors_eq_nil_iff]
  constructor
  · rintro ⟨⟨⟨gross, withholding⟩, compared⟩, forward, within⟩
    refine ⟨gross, withholding, fun unsigned => ?_, forward, within⟩
    by_contra exceeds
    rw [not_le] at exceeds
    -- More than was earned is more than zero, so the withholding has no sign and is compared.
    have positive := Decimal.negative_eq_false_of_pos (gross.1.trans_lt exceeds)
    simp [unsigned, positive, Decimal.lt_iff_toRat, exceeds] at compared
  · rintro ⟨gross, withholding, compared, forward, within⟩
    refine ⟨⟨⟨gross, withholding⟩, ?_⟩, forward, within⟩
    cases sign : record.grossAmount.negative with
    | true => simp
    | false => simp [Decimal.lt_iff_toRat, compared sign]

theorem fiscalPartnerErrors_eq_nil_iff {content : DeclarationContent} :
    fiscalPartnerErrors content = [] ↔ ∀ profile ∈ content.fiscalPartner,
      ∃ reference ∈ content.taxpayer.partner, reference.identifies profile = true := by
  simp only [fiscalPartnerErrors, errorIf_eq_nil_iff, Option.any_eq_false, Option.any_eq_true,
    Bool.not_eq_false_eq_eq_true, Option.mem_def]

theorem partialYearErrors_eq_nil_iff {category : DeclarationCategory} {income : List IncomeRecord} :
    partialYearErrors category income = [] ↔ (category = .migration →
      (income.map (·.period.days)).sum ≤ partialYearLimit) := by
  rw [partialYearErrors, errorIf_eq_nil_iff, ← List.sum_eq_foldl]
  simp

theorem flatMap_toList_eq_nil_iff {α β : Type} {o : Option α} {f : α → List β} :
    o.toList.flatMap f = [] ↔ ∀ a ∈ o, f a = [] := by
  cases o <;> simp

theorem deductionErrors_eq_nil_iff (i : ℕ) (claim : DeductionClaim) :
    deductionErrors (some year) taxpayer i claim = [] ↔ claim.Accepted year taxpayer := by
  simp only [deductionErrors, List.append_eq_nil_iff, amountErrors_eq_nil_iff,
    periodErrors_eq_nil_iff, flatMap_toList_eq_nil_iff, referenceErrors_eq_nil_iff,
    DeductionClaim.accepted_iff, and_assoc]

theorem creditErrors_eq_nil_iff (i : ℕ) (claim : CreditClaim) :
    creditErrors (some year) i claim = [] ↔ claim.Accepted year := by
  simp only [creditErrors, List.append_eq_nil_iff, amountErrors_eq_nil_iff, periodErrors_eq_nil_iff,
    CreditClaim.accepted_iff]

end Validation

namespace Declaration

open Validation

variable {d : Declaration} {year : Period}

/-- The supported years are the calendar years from the first supported one. -/
theorem supportedYear?_eq_some_iff : d.supportedYear? = some year ↔
    firstSupportedYear ≤ d.taxYear.val ∧ Period.calendarYear? d.taxYear.val = some year := by
  rw [supportedYear?]
  split_ifs with early
  · exact iff_of_false nofun fun supported => supported.1.not_gt early
  · exact (and_iff_right (not_lt.1 early)).symm

/-- The valid declarations are the ones whose every part is accepted. -/
theorem validate_eq_nil_iff :
    d.validate = [] ↔ ∃ year, d.supportedYear? = some year ∧ d.Accepted year := by
  rcases found : d.supportedYear? with _ | year
  · simp [validate, fieldErrors, found]
  simp only [validate, fieldErrors, crossErrors, found, List.append_eq_nil_iff, errorIf_eq_nil_iff,
    errorOf_eq_nil_iff, flatMap_toList_eq_nil_iff, profileErrors_eq_nil_iff,
    referenceErrors_eq_nil_iff, eachErrors_birthErrors_eq_nil_iff,
    eachErrors_eq_nil_iff_forall_mem incomeErrors_eq_nil_iff,
    eachErrors_eq_nil_iff_forall_mem deductionErrors_eq_nil_iff,
    eachErrors_eq_nil_iff_forall_mem creditErrors_eq_nil_iff, fiscalPartnerErrors_eq_nil_iff,
    partialYearErrors_eq_nil_iff, duplicateErrors_eq_nil_iff, bne_eq_false_iff_eq,
    Option.isNone_some, true_and, Option.some.injEq, exists_eq_left', Bool.and_eq_false_imp,
    beq_iff_eq, accepted_iff, and_assoc]

end Declaration

end IncomeTax

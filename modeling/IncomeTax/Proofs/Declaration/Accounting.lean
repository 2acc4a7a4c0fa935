import IncomeTax.Proofs.Declaration.Permitted
import IncomeTax.Proofs.RateTable.Moderate

/-!
# Every claim is accounted for once

The entries and errors of a resolution come from the claims, each of which accounts for one entry or
one error, and from the automatic rules, whose credits come after those that are claimed. Nothing else
is granted or rejected, however often a kind is claimed and however granted and rejected claims
alternate.

## Main definitions

* `Declaration.EligibleFor`, `Declaration.MayClaim` — what a credit rule asks of the taxpayer
* `Declaration.IsAutomatic` — the credits that are granted without a claim
* `Declaration.Accounts` — where the entries and errors of a resolution come from
* `Declaration.Cleared` — what holds when there are no errors

## Main results

* `Declaration.meets_eligibility_iff` — the check of a credit rule is what the rule asks
* `Declaration.accounts_of_resolve` — all claims of a resolution are accounted for
-/

namespace IncomeTax

/-! ### Eligibility -/

/-- What a credit rule asks of the taxpayer: to be old enough at the end of the tax year, to have a
dependent who is young enough by then, and to have a partner or none. -/
@[mk_iff]
structure Declaration.EligibleFor (d : Declaration) (rule : CreditRule) : Prop where
  age : ∀ least ∈ rule.minimumAge, ∃ year, Period.calendarYear? d.taxYear.val = some year ∧
    least.toNat ≤ d.content.taxpayer.dateOfBirth.wholeYearsUntil year.finish
  dependent : ∀ limit ∈ rule.dependentUnderAge,
    ∃ year, Period.calendarYear? d.taxYear.val = some year ∧
      ∃ dependent ∈ d.content.dependents,
        dependent.dateOfBirth.wholeYearsUntil year.finish < limit.toNat
  withPartner : rule.partner = .withPartner → d.content.taxpayer.partner.isSome = true
  withoutPartner : rule.partner = .withoutPartner → d.content.taxpayer.partner = none

/-- The least of some numbers is below a limit when one of them is. -/
theorem any_min?_lt_iff {numbers : List ℕ} {limit : ℕ} :
    numbers.min?.any (· < limit) = true ↔ ∃ n ∈ numbers, n < limit := by
  cases least : numbers.min? with
  | none => simp [List.min?_eq_none_iff.1 least]
  | some n =>
    obtain ⟨member, le⟩ := List.min?_eq_some_iff.1 least
    rw [Option.any_some, decide_eq_true_eq]
    exact ⟨fun below => ⟨n, member, below⟩, fun ⟨m, member, below⟩ => (le m member).trans_lt below⟩

/-- The check of a credit rule is what the rule asks. -/
theorem Declaration.meets_eligibility_iff {d : Declaration} {rule : CreditRule} :
    d.eligibility.meets rule = true ↔ d.EligibleFor rule := by
  have age : (rule.minimumAge.all fun least =>
      d.eligibility.age.any fun age => least.toNat ≤ age) = true ↔
      ∀ least ∈ rule.minimumAge, ∃ year, Period.calendarYear? d.taxYear.val = some year ∧
        least.toNat ≤ d.content.taxpayer.dateOfBirth.wholeYearsUntil year.finish := by
    simp only [eligibility, Option.all_eq_true, Option.any_map, Option.any_eq_true,
      decide_eq_true_eq, Option.mem_def]
  have dependent : (rule.dependentUnderAge.all fun limit =>
      d.eligibility.youngestDependent.any fun age => age < limit.toNat) = true ↔
      ∀ limit ∈ rule.dependentUnderAge,
        ∃ year, Period.calendarYear? d.taxYear.val = some year ∧
          ∃ dependent ∈ d.content.dependents,
            dependent.dateOfBirth.wholeYearsUntil year.finish < limit.toNat := by
    rw [Option.all_eq_true]
    refine forall₂_congr fun limit _ => ?_
    unfold eligibility
    cases Period.calendarYear? d.taxYear.val with
    | none => simp
    | some year =>
      simp only [Option.map_some, Option.bind_some, any_min?_lt_iff, List.mem_map,
        exists_exists_and_eq_and, Option.some.injEq, exists_eq_left']
  rw [Eligibility.meets, eligibleFor_iff]
  simp only [Bool.and_eq_true, age, dependent, and_assoc]
  refine and_congr_right' (and_congr_right' ?_)
  cases rule.partner <;> simp [eligibility]

namespace Declaration

open Resolution

variable {d : Declaration} {table : RateTable} {r : Resolution} {totalIncome : Decimal}

/-- There is a rule for the kind of credit, and the taxpayer is eligible for it. -/
def MayClaim (d : Declaration) (table : RateTable) (type : CreditType) : Prop :=
  ∃ rule, table.creditRule? type = some rule ∧ d.EligibleFor rule

theorem permitted_iff_mayClaim {claim : CreditClaim} :
    claim.Permitted table.creditRule? d.eligibility ↔ d.MayClaim table claim.creditType := by
  simp only [CreditClaim.Permitted, MayClaim, meets_eligibility_iff]

/-- The credits that are granted without a claim, in the order of kinds: one for each automatic rule
whose kind is not claimed and which the taxpayer is eligible for. -/
structure IsAutomatic (d : Declaration) (table : RateTable) (totalIncome : Decimal)
    (credits : List ResolvedCredit) : Prop where
  ascending : credits.Pairwise fun credit credit' =>
    compare credit.creditType credit'.creditType = .lt
  mem_iff : ∀ credit, credit ∈ credits ↔ ∃ rule,
    table.creditRule? credit.creditType = some rule ∧ rule.automatic = true ∧
      (∀ claim ∈ d.content.credits, claim.creditType ≠ credit.creditType) ∧ d.EligibleFor rule ∧
      credit = ⟨credit.creditType, rule.maximum,
        creditAfterPhaseOut rule.maximum rule.phaseOut totalIncome, true⟩

/-- Where the entries and the errors of a resolution come from. The claims are settled in their order,
so that there is one entry or one error for each; a claim that is permitted has no error at its path,
and another one has one. -/
structure Accounts (d : Declaration) (table : RateTable) (totalIncome : Decimal) (r : Resolution)
    (claimed automatic : List ResolvedCredit) (deductionErrors creditErrors : List ValidationError) :
    Prop where
  credits_eq : r.credits = claimed ++ automatic
  errors_eq : r.errors = deductionErrors ++ creditErrors
  deductions : Settled (·.Permitted table.deductionRule?) DeductionClaim.IsEnteredAs
    (DeductionClaim.refusal table.deductionRule?) 0 d.content.deductions r.deductions deductionErrors
  credits : Settled (d.MayClaim table ·.creditType) (IsGrantedAs table.creditRule? totalIncome)
    (CreditClaim.refusal table.creditRule?) 0 d.content.credits claimed creditErrors
  automatic : d.IsAutomatic table totalIncome automatic
  deductionErrors_at : ∀ i claim, d.content.deductions[i]? = some claim →
    (claim.Permitted table.deductionRule? → r.errors.countP (·.isAt "deductions" i) = 0) ∧
    (¬ claim.Permitted table.deductionRule? → r.errors.countP (·.isAt "deductions" i) = 1)
  creditErrors_at : ∀ i claim, d.content.credits[i]? = some claim →
    (d.MayClaim table claim.creditType → r.errors.countP (·.isAt "credits" i) = 0) ∧
    (¬ d.MayClaim table claim.creditType → r.errors.countP (·.isAt "credits" i) = 1)

/-- What holds when no claim is refused: there is a rule for every claim, deductions are shared with
the fiscal partner where their rule allows it, and no credit is granted that the taxpayer is not
eligible for. -/
structure Cleared (d : Declaration) (table : RateTable) (r : Resolution) : Prop where
  deductions : ∀ claim ∈ d.content.deductions, ∃ rule,
    table.deductionRule? claim.deductionType = some rule ∧
      ∀ reference ∈ claim.sharedWith, rule.shareable = true ∧
        ∃ partner, d.content.fiscalPartner = some partner ∧ reference.identifies partner = true
  claimed : ∀ claim ∈ d.content.credits, d.MayClaim table claim.creditType
  granted : ∀ credit ∈ r.credits, d.MayClaim table credit.creditType

theorem isAutomatic_automaticCredits (d : Declaration) (table : RateTable) (totalIncome : Decimal) :
    d.IsAutomatic table totalIncome
      (automaticCredits table.credits d.eligibility totalIncome d.content.credits) where
  ascending := ascending_automaticCredits
  mem_iff := fun credit => by
    rw [automaticCredits_eq_map, List.mem_map]
    simp only [mem_automaticRules_iff, meets_eligibility_iff]
    constructor
    · rintro ⟨entry, ⟨found, automatic, unclaimed, eligible⟩, rfl⟩
      exact ⟨entry.2, found, automatic, unclaimed, eligible, rfl⟩
    · rintro ⟨rule, found, automatic, unclaimed, eligible, same⟩
      exact ⟨(credit.creditType, rule), ⟨found, automatic, unclaimed, eligible⟩, same.symm⟩

theorem settled_deductions (d : Declaration) (table : RateTable) :
    Settled (·.Permitted table.deductionRule?) DeductionClaim.IsEnteredAs
      (DeductionClaim.refusal table.deductionRule?) 0 d.content.deductions
      (granted (d.deductionOutcomes table)) (rejected (d.deductionOutcomes table)) :=
  settled_resolveDeductions _ 0 _

theorem settled_credits (d : Declaration) (table : RateTable) (totalIncome : Decimal) :
    Settled (d.MayClaim table ·.creditType) (IsGrantedAs table.creditRule? totalIncome)
      (CreditClaim.refusal table.creditRule?) 0 d.content.credits
      (granted (d.creditOutcomes table totalIncome))
      (rejected (d.creditOutcomes table totalIncome)) := by
  simp only [← permitted_iff_mayClaim]
  exact settled_resolveCredit 0 d.content.credits

/-- Both lists of claims and the automatic rules account for a resolution with a total income. -/
theorem accounts_outcomes (resolved : d.resolve table = .ok r)
    (summed : d.content.grossIncome? = some totalIncome) :
    d.Accounts table totalIncome r (granted (d.creditOutcomes table totalIncome))
      (automaticCredits table.credits d.eligibility totalIncome d.content.credits)
      (rejected (d.deductionOutcomes table)) (rejected (d.creditOutcomes table totalIncome)) := by
  obtain ⟨-, entries, ⟨missing, -, -⟩ | ⟨income, found, credits, errors⟩⟩ := resolve_cases resolved
  · rw [summed] at missing
    cases missing
  rw [summed] at found
  cases found
  have deductions := d.settled_deductions table
  have claimed := d.settled_credits table totalIncome
  have plain : '[' ∉ "deductions".toList := by decide
  have plain' : '[' ∉ "credits".toList := by decide
  have differ : "deductions" ≠ "credits" := by decide
  refine
    { credits_eq := credits
      errors_eq := errors
      deductions := entries ▸ deductions
      credits := claimed
      automatic := d.isAutomatic_automaticCredits table totalIncome
      deductionErrors_at := fun i claim listed => ?_
      creditErrors_at := fun i claim listed => ?_ }
  · have here := deductions.countP_isAt exists_part_of_refusal plain listed
    have other := claimed.countP_isAt_eq_zero exists_part_of_creditRefusal plain' plain
      (i := i) fun same => absurd same.symm differ
    rw [Nat.zero_add] at here
    rwa [errors, List.countP_append, other, Nat.add_zero]
  · have here := claimed.countP_isAt exists_part_of_creditRefusal plain' listed
    have other := deductions.countP_isAt_eq_zero exists_part_of_refusal plain plain'
      (i := i) fun same => absurd same differ
    rw [Nat.zero_add] at here
    rwa [errors, List.countP_append, other, Nat.zero_add]

theorem cleared_of_clean (resolved : d.resolve table = .ok r) (clean : r.isClean = true) :
    d.Cleared table r := by
  obtain ⟨-, ⟨totalIncome, summed⟩, permitted⟩ :=
    exists_clean_resolution_iff.1 ⟨r, resolved, clean⟩
  have accounts := accounts_outcomes resolved summed
  refine
    { deductions := fun claim member => ?_
      claimed := fun claim member => permitted_iff_mayClaim.1 (permitted.credits claim member)
      granted := fun credit member => ?_ }
  · obtain ⟨rule, found, shareable⟩ := permitted.deductions claim member
    refine ⟨rule, found, fun reference shared => ⟨shareable (Option.isSome_of_mem shared), ?_⟩⟩
    exact (Option.any_eq_true _ _).1 (permitted.shared claim member reference shared)
  · rw [accounts.credits_eq, List.mem_append] at member
    rcases member with claimed | automatic
    · obtain ⟨claim, -, fits, rule, -, rfl⟩ := accounts.credits.mem_entries credit claimed
      exact fits
    · obtain ⟨rule, found, -, -, eligible, -⟩ := (accounts.automatic.mem_iff credit).1 automatic
      exact ⟨rule, found, eligible⟩

/-- No claim is lost or counted twice: of a declaration whose income can be added up, every claim
accounts for one entry or one error of the resolution, and the automatic rules account for the rest.
When there is no error, every claim is in order. -/
theorem accounts_of_resolve (resolved : d.resolve table = .ok r)
    (summed : d.content.grossIncome? = some totalIncome) :
    (∃ claimed automatic deductionErrors creditErrors,
      d.Accounts table totalIncome r claimed automatic deductionErrors creditErrors) ∧
    (r.isClean = true → d.Cleared table r) :=
  ⟨⟨_, _, _, _, accounts_outcomes resolved summed⟩, cleared_of_clean resolved⟩

end Declaration

/-- The sample declaration with gifts and alimony, and with two claims of one credit. The sample table
has no rule for alimony and none for this credit. -/
def NewDeclaration.sampleRefused : NewDeclaration :=
  { sampleGifts with
    content := { sampleGifts.content with
      credits := sample2024.content.deductions.map fun gift =>
        ⟨.elderlyCredit, gift.amount, gift.period⟩ } }

/-- Three gifts are granted, alimony and both credit claims are refused, and one credit is granted
without a claim. -/
theorem Declaration.accounts_of_sampleRefused :
    let d := draft ⟨1⟩ .sampleRefused
    ∃ table r totalIncome, RateTable.ofDefinition .sample2024 = .ok table ∧
      d.resolve table = .ok r ∧ d.content.grossIncome? = some totalIncome ∧
      (∃ claimed automatic deductionErrors creditErrors,
        d.Accounts table totalIncome r claimed automatic deductionErrors creditErrors) ∧
      (r.isClean = true → d.Cleared table r) ∧
      r.deductions.length = 3 ∧ r.errors.length = 3 ∧ r.credits.length = 1 := by
  intro d
  obtain ⟨table, built, evaluated⟩ : ∃ table, RateTable.ofDefinition .sample2024 = .ok table ∧
      (d.resolve table).toOption.any (fun r => decide
        (r.deductions.length = 3 ∧ r.errors.length = 3 ∧ r.credits.length = 1)) = true :=
    exists_ok_of_any (by decide +kernel)
  obtain ⟨r, resolved, counts⟩ := exists_ok_of_any evaluated
  obtain ⟨totalIncome, summed⟩ : ∃ totalIncome, d.content.grossIncome? = some totalIncome :=
    Option.isSome_iff_exists.1 (by decide +kernel)
  obtain ⟨accounts, cleared⟩ := accounts_of_resolve resolved summed
  exact ⟨table, r, totalIncome, built, resolved, summed, accounts, cleared, of_decide_eq_true counts⟩

end IncomeTax

import IncomeTax.Declaration.Resolution
import IncomeTax.Proofs.OrderedMap
import Mathlib.Data.List.Forall2

/-!
# The outcome of a resolution

A resolution takes each deduction claim and each credit claim to an outcome, grants the credits that
are automatic, and separates what is granted from the errors of what is rejected. Facts about
resolutions are proved of the outcomes, and never look into the resolution again.

## Main definitions

* `DeductionClaim.Permitted`, `CreditClaim.Permitted` — the rule of the kind permits the claim
* `DeductionClaim.refusal`, `CreditClaim.refusal` — the error of a claim that is not permitted
* `Declaration.deductionOutcomes`, `Declaration.creditOutcomes` — the claims, granted or rejected
* `Resolution.automaticRules` — the rules whose credit is granted without a claim

## Main results

* `Resolution.resolveDeductions_cons_cases`, `Resolution.resolveCredit_cases` — the ways a claim goes
* `Resolution.resolveCredit_eq_ok_iff` — what a granted credit is
* `Resolution.automaticCredits_eq_map` — what the automatic credits are
* `Declaration.resolve_cases` — what a resolution consists of
-/

namespace IncomeTax

open Validation (itemPath)

/-- There is a rule for the kind of the deduction, and it lets the claim be shared if it is. -/
def DeductionClaim.Permitted (claim : DeductionClaim)
    (rule? : DeductionType → Option DeductionRule) : Prop :=
  ∃ rule, rule? claim.deductionType = some rule ∧
    (claim.sharedWith.isSome = true → rule.shareable = true)

/-- There is a rule for the kind of the credit, and the taxpayer meets its conditions. -/
def CreditClaim.Permitted (claim : CreditClaim) (rule? : CreditType → Option CreditRule)
    (eligibility : Eligibility) : Prop :=
  ∃ rule, rule? claim.creditType = some rule ∧ eligibility.meets rule = true

/-- What a deduction claim that is not permitted is refused with. -/
def DeductionClaim.refusal (rule? : DeductionType → Option DeductionRule) (index : ℕ)
    (claim : DeductionClaim) : ValidationError :=
  if (rule? claim.deductionType).isNone then
    ⟨itemPath "deductions" index ++ ".deduction_type", .claimTypeNotPermitted⟩
  else ⟨itemPath "deductions" index ++ ".shared_with", .sharingNotPermitted⟩

/-- What a credit claim that is not permitted is refused with. -/
def CreditClaim.refusal (rule? : CreditType → Option CreditRule) (index : ℕ)
    (claim : CreditClaim) : ValidationError :=
  ⟨itemPath "credits" index ++ ".credit_type",
    if (rule? claim.creditType).isNone then .claimTypeNotPermitted else .creditNotEligible⟩

namespace Resolution

/-! ### Granted and rejected outcomes -/

section Outcomes

variable {α : Type} {outcomes : List (Except ValidationError α)} {a : α}

@[simp] theorem granted_error (e : ValidationError) (rest : List (Except ValidationError α)) :
    granted (.error e :: rest) = granted rest := rfl

@[simp] theorem granted_ok (a : α) (rest : List (Except ValidationError α)) :
    granted (.ok a :: rest) = a :: granted rest := rfl

@[simp] theorem rejected_error (e : ValidationError) (rest : List (Except ValidationError α)) :
    rejected (.error e :: rest) = e :: rejected rest := rfl

@[simp] theorem rejected_ok (a : α) (rest : List (Except ValidationError α)) :
    rejected (.ok a :: rest) = rejected rest := rfl

theorem mem_granted_iff : a ∈ granted outcomes ↔ .ok a ∈ outcomes := by
  induction outcomes with
  | nil => simp [granted]
  | cons outcome rest ih => cases outcome <;> simp [ih]

theorem length_granted_le (outcomes : List (Except ValidationError α)) :
    (granted outcomes).length ≤ outcomes.length := List.length_filterMap_le _ _

/-- When nothing is rejected, every item is granted. -/
theorem forall₂_granted {ι : Type} {resolve : ι → Except ValidationError α} {items : List ι}
    (clean : rejected (items.map resolve) = []) :
    List.Forall₂ (fun item a => resolve item = .ok a) items (granted (items.map resolve)) := by
  induction items with
  | nil => exact .nil
  | cons item rest ih =>
    rw [List.map_cons] at clean ⊢
    cases resolved : resolve item with
    | error e =>
      rw [resolved, rejected_error] at clean
      cases clean
    | ok a =>
      rw [resolved, rejected_ok] at clean
      exact .cons resolved (ih clean)

end Outcomes

/-! ### Deductions -/

section Deductions

variable {rule? : DeductionType → Option DeductionRule} {spent : DeductionType → Decimal}
  {claims : List DeductionClaim}

/-- The first of some deduction claims is granted by the rule of its kind, and what it is allowed is
used for the others, or it is refused, and nothing is. -/
theorem resolveDeductions_cons_cases (rule? : DeductionType → Option DeductionRule)
    (spent : DeductionType → Decimal) (index : ℕ) (claim : DeductionClaim)
    (claims : List DeductionClaim) :
    (claim.Permitted rule? ∧ ∃ rule, rule? claim.deductionType = some rule ∧
      let amount := allowed rule (spent claim.deductionType) claim.amount
      resolveDeductions rule? spent index (claim :: claims) =
        .ok ⟨claim.deductionType, claim.amount, amount, amount < claim.amount⟩ ::
          resolveDeductions rule? (fun type => if type = claim.deductionType then
            (spent claim.deductionType).saturatingAdd amount else spent type) (index + 1) claims) ∨
    (¬ claim.Permitted rule? ∧
      resolveDeductions rule? spent index (claim :: claims) =
        .error (claim.refusal rule? index) ::
          resolveDeductions rule? spent (index + 1) claims) := by
  rw [resolveDeductions, DeductionClaim.refusal, DeductionClaim.Permitted]
  cases found : rule? claim.deductionType with
  | none => exact .inr ⟨by simp, rfl⟩
  | some rule =>
    cases unshareable : claim.sharedWith.isSome && !rule.shareable with
    | true =>
      rw [Bool.and_eq_true, Bool.not_eq_true'] at unshareable
      exact .inr ⟨by simp [unshareable], by simp [unshareable]⟩
    | false =>
      have permitted : claim.sharedWith.isSome = true → rule.shareable = true := by
        simpa [Bool.and_eq_false_imp] using unshareable
      exact .inl ⟨⟨rule, rfl, permitted⟩, rule, rfl, by simp only [unshareable]; rfl⟩

theorem length_resolveDeductions (index : ℕ) :
    (resolveDeductions rule? spent index claims).length = claims.length := by
  induction claims generalizing spent index with
  | nil => rfl
  | cons claim rest ih =>
    rcases resolveDeductions_cons_cases rule? spent index claim rest with
      ⟨-, rule, -, outcomes⟩ | ⟨-, outcomes⟩ <;>
    rw [outcomes, List.length_cons, List.length_cons, ih]

/-- When no claim is rejected, the first one is granted by the rule of its kind, and what it is
allowed is used for the others. -/
theorem resolveDeductions_cons_of_clean {claim : DeductionClaim} {index : ℕ}
    (clean : rejected (resolveDeductions rule? spent index (claim :: claims)) = []) :
    ∃ rule, rule? claim.deductionType = some rule ∧
      let amount := allowed rule (spent claim.deductionType) claim.amount
      let rest := resolveDeductions rule? (fun type => if type = claim.deductionType then
        (spent claim.deductionType).saturatingAdd amount else spent type) (index + 1) claims
      rejected rest = [] ∧
        resolveDeductions rule? spent index (claim :: claims) =
          .ok ⟨claim.deductionType, claim.amount, amount, amount < claim.amount⟩ :: rest := by
  rcases resolveDeductions_cons_cases rule? spent index claim claims with
    ⟨-, rule, found, outcomes⟩ | ⟨-, outcomes⟩
  · rw [outcomes, rejected_ok] at clean
    exact ⟨rule, found, clean, outcomes⟩
  · rw [outcomes, rejected_error] at clean
    cases clean

/-- Every granted deduction is what some rule allows of one of the claims. -/
theorem exists_claim_of_granted (index : ℕ) :
    ∀ deduction ∈ granted (resolveDeductions rule? spent index claims),
      ∃ claim ∈ claims, ∃ rule used, deduction.allowed = allowed rule used claim.amount := by
  induction claims generalizing spent index with
  | nil => exact fun deduction member => nomatch member
  | cons claim rest ih =>
    intro deduction member
    -- What is granted of the other claims is known by induction.
    have others {spent : DeductionType → Decimal} {index : ℕ}
        (member : deduction ∈ granted (resolveDeductions rule? spent index rest)) :
        ∃ claim' ∈ claim :: rest, ∃ rule used,
          deduction.allowed = allowed rule used claim'.amount := by
      obtain ⟨claim', listed, found⟩ := ih index deduction member
      exact ⟨claim', List.mem_cons_of_mem claim listed, found⟩
    rcases resolveDeductions_cons_cases rule? spent index claim rest with
      ⟨-, rule, -, outcomes⟩ | ⟨-, outcomes⟩
    · rw [outcomes, granted_ok, List.mem_cons] at member
      rcases member with rfl | member
      · exact ⟨claim, List.mem_cons_self, rule, _, rfl⟩
      · exact others member
    · rw [outcomes, granted_error] at member
      exact others member

end Deductions

/-! ### Credits -/

section Credits

variable {rule? : CreditType → Option CreditRule} {rules : OrderedMap CreditType CreditRule}
  {eligibility : Eligibility} {totalIncome : Decimal} {claim : CreditClaim} {index : ℕ}
  {claims : List CreditClaim} {credit : ResolvedCredit}

/-- A credit claim is granted by the rule of its kind, capped at its maximum and phased out, or it is
refused. -/
theorem resolveCredit_cases (rule? : CreditType → Option CreditRule) (eligibility : Eligibility)
    (totalIncome : Decimal) (index : ℕ) (claim : CreditClaim) :
    (∃ rule, rule? claim.creditType = some rule ∧ eligibility.meets rule = true ∧
      resolveCredit rule? eligibility totalIncome index claim =
        .ok ⟨claim.creditType, claim.amount.min rule.maximum,
          creditAfterPhaseOut (claim.amount.min rule.maximum) rule.phaseOut totalIncome, false⟩) ∨
    (¬ claim.Permitted rule? eligibility ∧
      resolveCredit rule? eligibility totalIncome index claim =
        .error (claim.refusal rule? index)) := by
  rw [resolveCredit, CreditClaim.refusal, CreditClaim.Permitted]
  cases found : rule? claim.creditType with
  | none => exact .inr ⟨by simp, rfl⟩
  | some rule =>
    cases eligible : eligibility.meets rule with
    | false => exact .inr ⟨by simp [eligible], by simp [eligible]⟩
    | true => exact .inl ⟨rule, rfl, eligible, by simp only [eligible]; rfl⟩

/-- A claimed credit is capped at the maximum of its kind and phased out. -/
theorem resolveCredit_eq_ok_iff :
    resolveCredit rule? eligibility totalIncome index claim = .ok credit ↔
      ∃ rule, rule? claim.creditType = some rule ∧ eligibility.meets rule = true ∧
        credit = ⟨claim.creditType, claim.amount.min rule.maximum,
          creditAfterPhaseOut (claim.amount.min rule.maximum) rule.phaseOut totalIncome, false⟩ := by
  rcases resolveCredit_cases rule? eligibility totalIncome index claim with
    ⟨rule, found, eligible, outcome⟩ | ⟨fails, outcome⟩
  · rw [outcome]
    constructor
    · rintro ⟨rfl⟩
      exact ⟨rule, found, eligible, rfl⟩
    · rintro ⟨rule', found', -, rfl⟩
      rw [found] at found'
      cases found'
      rfl
  · rw [outcome]
    refine iff_of_false nofun ?_
    rintro ⟨rule, found, eligible, -⟩
    exact fails ⟨rule, found, eligible⟩

/-- A claim is granted by the rule of its kind, capped and phased out. -/
def IsGrantedAs (rule? : CreditType → Option CreditRule) (totalIncome : Decimal)
    (claim : CreditClaim) (credit : ResolvedCredit) : Prop :=
  ∃ rule, rule? claim.creditType = some rule ∧
    credit = ⟨claim.creditType, claim.amount.min rule.maximum,
      creditAfterPhaseOut (claim.amount.min rule.maximum) rule.phaseOut totalIncome, false⟩

/-- The rules whose credit is granted without a claim, each with its kind. -/
def automaticRules (rules : OrderedMap CreditType CreditRule) (eligibility : Eligibility)
    (claims : List CreditClaim) : List (CreditType × CreditRule) :=
  rules.entries.filter fun entry =>
    entry.2.automatic && !(claims.map (·.creditType)).contains entry.1 && eligibility.meets entry.2

theorem mem_automaticRules_iff {entry : CreditType × CreditRule} :
    entry ∈ automaticRules rules eligibility claims ↔
      rules.find? entry.1 = some entry.2 ∧ entry.2.automatic = true ∧
        (∀ claim ∈ claims, claim.creditType ≠ entry.1) ∧ eligibility.meets entry.2 = true := by
  rw [automaticRules, List.mem_filter, OrderedMap.find?_eq_some_iff, Bool.and_eq_true,
    Bool.and_eq_true, Bool.not_eq_true', ← Bool.not_eq_true, List.contains_iff_mem, List.mem_map,
    and_assoc]
  simp only [not_exists, not_and, ne_eq]

/-- An automatic credit is the maximum of its kind, phased out. -/
theorem automaticCredits_eq_map :
    automaticCredits rules eligibility totalIncome claims =
      (automaticRules rules eligibility claims).map fun entry =>
        ⟨entry.1, entry.2.maximum,
          creditAfterPhaseOut entry.2.maximum entry.2.phaseOut totalIncome, true⟩ := by
  unfold automaticCredits automaticRules
  induction rules.entries with
  | nil => rfl
  | cons entry rest ih =>
    rw [List.filterMap_cons, List.filter_cons, ih]
    cases automatic : entry.2.automatic <;>
      cases claimed : (claims.map (·.creditType)).contains entry.1 <;>
      cases eligible : eligibility.meets entry.2 <;>
      simp only [automatic, claimed, eligible, Bool.not_true, Bool.not_false, Bool.or_true,
        Bool.or_false, Bool.and_true, Bool.and_false, if_true, Bool.false_eq_true, if_false,
        List.map_cons]

/-- The automatic credits are in the order of kinds, one at most of each. -/
theorem ascending_automaticCredits :
    (automaticCredits rules eligibility totalIncome claims).Pairwise fun credit credit' =>
      compare credit.creditType credit'.creditType = .lt := by
  rw [automaticCredits_eq_map, List.pairwise_map]
  exact rules.ascending.sublist List.filter_sublist

end Credits

end Resolution

namespace Declaration

open Resolution

variable {d : Declaration} {table : RateTable} {r : Resolution}

/-- Each deduction claim, granted or rejected. -/
def deductionOutcomes (d : Declaration) (table : RateTable) :
    List (Except ValidationError ResolvedDeduction) :=
  resolveDeductions table.deductionRule? (fun _ => .zero) 0 d.content.deductions

/-- Each credit claim, granted or rejected. -/
def creditOutcomes (d : Declaration) (table : RateTable) (totalIncome : Decimal) :
    List (Except ValidationError ResolvedCredit) :=
  d.content.credits.zipIdx.map fun (claim, index) =>
    resolveCredit table.creditRule? d.eligibility totalIncome index claim

/-- What a resolution consists of: without a total income there are no credits, but an error. -/
theorem resolve_cases (resolved : d.resolve table = .ok r) :
    d.rateTableKey = table.key ∧ r.deductions = granted (d.deductionOutcomes table) ∧
      ((d.content.grossIncome? = none ∧ r.credits = [] ∧ r.isClean = false) ∨
        ∃ totalIncome, d.content.grossIncome? = some totalIncome ∧
          r.credits = granted (d.creditOutcomes table totalIncome) ++
            automaticCredits table.credits d.eligibility totalIncome d.content.credits ∧
          r.errors = rejected (d.deductionOutcomes table) ++
            rejected (d.creditOutcomes table totalIncome)) := by
  unfold resolve at resolved
  split at resolved
  · cases resolved
  next same =>
    split at resolved
    · cases resolved
    simp only at resolved
    split at resolved
    next missing =>
      cases resolved
      exact ⟨not_not.1 same, rfl, .inl ⟨missing, rfl, by simp [isClean]⟩⟩
    next totalIncome found =>
      cases resolved
      exact ⟨not_not.1 same, rfl, .inr ⟨totalIncome, found, rfl, rfl⟩⟩

/-- Every credit of a resolution is a claimed one, capped at the maximum of its kind, or the maximum
itself, phased out by the rule of its kind. -/
theorem exists_entry_of_credit (resolved : d.resolve table = .ok r) :
    ∀ credit ∈ r.credits, ∃ totalIncome, d.content.grossIncome? = some totalIncome ∧
      ∃ entry ∈ table.credits.entries,
        credit.amount = creditAfterPhaseOut credit.base entry.2.phaseOut totalIncome ∧
        (credit.base = entry.2.maximum ∨
          ∃ claim ∈ d.content.credits, credit.base = claim.amount.min entry.2.maximum) := by
  intro credit member
  obtain ⟨-, -, ⟨-, none_left, -⟩ | ⟨totalIncome, found, credits, -⟩⟩ := resolve_cases resolved
  · rw [none_left] at member
    cases member
  refine ⟨totalIncome, found, ?_⟩
  rw [credits] at member
  rcases List.mem_append.1 member with claimed | automatic
  · obtain ⟨⟨claim, index⟩, listed, granted⟩ := List.mem_map.1 (mem_granted_iff.1 claimed)
    obtain ⟨rule, known, -, rfl⟩ := resolveCredit_eq_ok_iff.1 granted
    exact ⟨(claim.creditType, rule), OrderedMap.mem_entries_of_find? known, rfl,
      .inr ⟨claim, List.fst_mem_of_mem_zipIdx listed, rfl⟩⟩
  · rw [automaticCredits_eq_map] at automatic
    obtain ⟨entry, listed, rfl⟩ := List.mem_map.1 automatic
    exact ⟨entry, List.mem_of_mem_filter listed, rfl, .inl rfl⟩

/-- When no claim is rejected, each is granted by the rule of its kind. -/
theorem forall₂_isGrantedAs {totalIncome : Decimal}
    (accepted : rejected (d.creditOutcomes table totalIncome) = []) :
    List.Forall₂ (IsGrantedAs table.creditRule? totalIncome) d.content.credits
      (granted (d.creditOutcomes table totalIncome)) := by
  have outcomes := forall₂_granted accepted
  -- The index of a claim plays a part in errors only.
  rw [← List.zipIdx_map_fst 0 d.content.credits, List.forall₂_map_left_iff]
  refine outcomes.imp fun item credit resolved => ?_
  obtain ⟨rule, found, -, same⟩ := resolveCredit_eq_ok_iff.1 resolved
  exact ⟨rule, found, same⟩

/-- A clean resolution has a total income, and every claim is granted. -/
theorem resolve_clean (resolved : d.resolve table = .ok r) (clean : r.isClean = true) :
    ∃ totalIncome credits, d.content.grossIncome? = some totalIncome ∧
      rejected (d.deductionOutcomes table) = [] ∧
      List.Forall₂ (IsGrantedAs table.creditRule? totalIncome) d.content.credits credits ∧
      r.credits = credits ++
        automaticCredits table.credits d.eligibility totalIncome d.content.credits := by
  obtain ⟨-, -, ⟨-, -, faulty⟩ | ⟨totalIncome, found, credits, errors⟩⟩ := resolve_cases resolved
  · rw [clean] at faulty
    cases faulty
  · rw [isClean, errors, List.isEmpty_iff, List.append_eq_nil_iff] at clean
    exact ⟨totalIncome, _, found, clean.1, forall₂_isGrantedAs clean.2, credits⟩

end Declaration

end IncomeTax

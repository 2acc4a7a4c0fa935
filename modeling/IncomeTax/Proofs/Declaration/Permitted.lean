import IncomeTax.Proofs.Declaration.Acceptance
import IncomeTax.Proofs.Declaration.Settled

/-!
# When a resolution rejects nothing

A claim is granted or rejected by itself: by the rule of its kind, by whether it is shared and by
whether the taxpayer is eligible. A claim shared with someone who is not part of the filing fails the
resolution as a whole. So a resolution is clean exactly when there is a rule for every claim that
permits it and every claim is shared within the filing, whatever the order of the claims.

## Main definitions

* `Declaration.Permitted` — every claim of a declaration is permitted

## Main results

* `Declaration.exists_clean_resolution_iff` — a clean resolution is one of permitted claims
-/

namespace IncomeTax

/-- Every claim is shared within the filing and permitted by the rule of its kind. -/
structure Declaration.Permitted (d : Declaration) (table : RateTable) : Prop where
  shared : ∀ claim ∈ d.content.deductions, ∀ reference ∈ claim.sharedWith,
    d.content.fiscalPartner.any (reference.identifies ·) = true
  deductions : ∀ claim ∈ d.content.deductions, claim.Permitted table.deductionRule?
  credits : ∀ claim ∈ d.content.credits, claim.Permitted table.creditRule? d.eligibility

namespace Resolution

open Validation (forall_mem_zipIdx_iff)

variable {content : DeclarationContent} {rule? : DeductionType → Option DeductionRule}
  {spent : DeductionType → Decimal}

/-- No claim is shared outside the filing when the partner is the one that each refers to. -/
theorem crossReference?_eq_none_iff :
    crossReference? content = none ↔ ∀ claim ∈ content.deductions, ∀ reference ∈ claim.sharedWith,
      content.fiscalPartner.any (reference.identifies ·) = true := by
  rw [crossReference?, List.findSome?_eq_none_iff]
  refine Iff.trans (forall₂_congr fun item _ => ?_) forall_mem_zipIdx_iff
  simp only [Option.bind_eq_none_iff, ite_eq_left_iff, reduceCtorEq, imp_false, not_not,
    Option.mem_def]

/-- No deduction claim is rejected when each is permitted, whatever was used of the ceilings before. -/
theorem rejected_resolveDeductions_eq_nil_iff {claims : List DeductionClaim} (index : ℕ) :
    rejected (resolveDeductions rule? spent index claims) = [] ↔
      ∀ claim ∈ claims, claim.Permitted rule? :=
  (settled_resolveDeductions spent index claims).errors_eq_nil_iff

/-- A credit claim is rejected when no rule permits it. -/
theorem rejected_resolveCredit_eq_nil_iff {rule? : CreditType → Option CreditRule}
    {eligibility : Eligibility} {totalIncome : Decimal} {claims : List CreditClaim} :
    rejected (claims.zipIdx.map fun (claim, index) =>
        resolveCredit rule? eligibility totalIncome index claim) = [] ↔
      ∀ claim ∈ claims, claim.Permitted rule? eligibility :=
  (settled_resolveCredit 0 claims).errors_eq_nil_iff

end Resolution

namespace Declaration

open Resolution

variable {d : Declaration} {table : RateTable}

/-- The claims of a declaration are all granted when its income can be added up and every claim is
permitted by the table of its year and category. -/
theorem exists_clean_resolution_iff :
    (∃ r, d.resolve table = .ok r ∧ r.isClean = true) ↔
      d.rateTableKey = table.key ∧ (∃ total, d.content.grossIncome? = some total) ∧
        d.Permitted table := by
  unfold resolve
  by_cases same : d.rateTableKey = table.key
  · rw [if_neg (not_not.2 same)]
    cases crossed : crossReference? d.content with
    | some e =>
      have outside : ¬ d.Permitted table := fun permitted => by
        rw [crossReference?_eq_none_iff.2 permitted.shared] at crossed
        cases crossed
      simp [outside]
    | none =>
      have shared := crossReference?_eq_none_iff.1 crossed
      cases found : d.content.grossIncome? with
      | none => simp [isClean]
      | some total =>
        have permitted : d.Permitted table ↔
            rejected (resolveDeductions table.deductionRule? (fun _ => .zero) 0
              d.content.deductions) = [] ∧
            rejected (d.content.credits.zipIdx.map fun (claim, index) =>
              resolveCredit table.creditRule? d.eligibility total index claim) = [] := by
          rw [rejected_resolveDeductions_eq_nil_iff, rejected_resolveCredit_eq_nil_iff]
          exact ⟨fun permitted => ⟨permitted.deductions, permitted.credits⟩,
            fun claims => ⟨shared, claims.1, claims.2⟩⟩
        rw [permitted]
        simp [same, isClean]
  · simp [same]

end Declaration

end IncomeTax

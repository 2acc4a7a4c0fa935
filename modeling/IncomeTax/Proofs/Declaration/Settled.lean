import IncomeTax.Proofs.Declaration.FieldPath
import IncomeTax.Proofs.Declaration.Outcomes

/-!
# Claims are settled one after another

A resolution settles the claims of each list in their order. A claim that the rule of its kind permits
adds one entry to what is granted, and another one adds one error at its own path. What earlier claims
used of a ceiling only decides how much of a deduction is allowed, and never whether it is granted.

## Main definitions

* `Settled` — items that add an entry or an error each

## Main results

* `Settled.errors_eq_nil_iff` — there is no error when every item is permitted
* `Settled.countP_isAt` — the number of errors at an item
* `Resolution.settled_resolveDeductions`, `Resolution.settled_resolveCredit` — the claims are settled
-/

namespace IncomeTax

open Validation (itemPath)

/-! ### Claims settled in their order -/

/-- Items, from an index on, that are settled one after another: an item that is permitted adds an
entry, another one adds the error that refuses it. -/
inductive Settled {ι α : Type} (permitted : ι → Prop) (entryOf : ι → α → Prop)
    (refusal : ℕ → ι → ValidationError) : ℕ → List ι → List α → List ValidationError → Prop where
  | nil (index : ℕ) : Settled permitted entryOf refusal index [] [] []
  | granted {index : ℕ} {item : ι} {entry : α} {items : List ι} {entries : List α}
      {errors : List ValidationError} (fits : permitted item) (same : entryOf item entry)
      (others : Settled permitted entryOf refusal (index + 1) items entries errors) :
      Settled permitted entryOf refusal index (item :: items) (entry :: entries) errors
  | refused {index : ℕ} {item : ι} {items : List ι} {entries : List α}
      {errors : List ValidationError} (fails : ¬ permitted item)
      (others : Settled permitted entryOf refusal (index + 1) items entries errors) :
      Settled permitted entryOf refusal index (item :: items) entries
        (refusal index item :: errors)

namespace Settled

variable {ι α : Type} {permitted : ι → Prop} {entryOf : ι → α → Prop}
  {refusal : ℕ → ι → ValidationError} {start : ℕ} {items : List ι} {entries : List α}
  {errors : List ValidationError} {list list' : String}

theorem mem_entries (settled : Settled permitted entryOf refusal start items entries errors) :
    ∀ entry ∈ entries, ∃ item ∈ items, permitted item ∧ entryOf item entry := by
  induction settled with
  | nil => simp
  | @granted _ item entry _ _ _ fits same _ ih =>
    rw [List.forall_mem_cons]
    refine ⟨⟨item, List.mem_cons_self, fits, same⟩, fun other member => ?_⟩
    obtain ⟨item', listed, granted⟩ := ih other member
    exact ⟨item', List.mem_cons_of_mem item listed, granted⟩
  | @refused _ item _ _ _ _ _ ih =>
    intro entry member
    obtain ⟨item', listed, granted⟩ := ih entry member
    exact ⟨item', List.mem_cons_of_mem item listed, granted⟩

/-- There is no error when every item is permitted. -/
theorem errors_eq_nil_iff (settled : Settled permitted entryOf refusal start items entries errors) :
    errors = [] ↔ ∀ item ∈ items, permitted item := by
  induction settled with
  | nil => simp
  | granted fits _ _ ih => rw [List.forall_mem_cons, ih, and_iff_right fits]
  | refused fails => simp [fails]

section Errors

variable (placed : ∀ index item, ∃ part,
  (refusal index item).field = itemPath list index ++ "." ++ part)

include placed

/-- There is no error at an item of another list, or at one that is not settled any more. -/
theorem countP_isAt_eq_zero
    (settled : Settled permitted entryOf refusal start items entries errors)
    (plain : '[' ∉ list.toList) (plain' : '[' ∉ list'.toList) {i : ℕ}
    (outside : list = list' → i < start) : errors.countP (·.isAt list' i) = 0 := by
  induction settled with
  | nil => rfl
  | granted _ _ _ ih => exact ih fun same => (outside same).trans (Nat.lt_succ_self _)
  | @refused index item _ _ _ _ _ ih =>
    obtain ⟨part, field⟩ := placed index item
    have elsewhere : ¬ (refusal index item).isAt list' i = true := by
      rw [ValidationError.isAt_iff plain plain' field]
      rintro ⟨same, rfl⟩
      exact lt_irrefl _ (outside same)
    rw [List.countP_cons_of_neg elsewhere]
    exact ih fun same => (outside same).trans (Nat.lt_succ_self _)

/-- An item that is permitted has no error, and another one has one error. -/
theorem countP_isAt (settled : Settled permitted entryOf refusal start items entries errors)
    (plain : '[' ∉ list.toList) {i : ℕ} {item : ι} (found : items[i]? = some item) :
    (permitted item → errors.countP (·.isAt list (start + i)) = 0) ∧
      (¬ permitted item → errors.countP (·.isAt list (start + i)) = 1) := by
  induction settled generalizing i with
  | nil => cases found
  | @granted index head entry items entries errors fits _ others ih =>
    cases i with
    | zero =>
      cases found
      have later := others.countP_isAt_eq_zero placed plain plain fun _ => Nat.lt_succ_self index
      exact ⟨fun _ => later, fun fails => absurd fits fails⟩
    | succ i =>
      rw [Nat.add_succ, ← Nat.succ_add]
      exact ih found
  | @refused index head items entries errors fails others ih =>
    obtain ⟨part, field⟩ := placed index head
    cases i with
    | zero =>
      cases found
      have later := others.countP_isAt_eq_zero placed plain plain fun _ => Nat.lt_succ_self index
      have here : (refusal index item).isAt list index = true :=
        (ValidationError.isAt_iff plain plain field).2 ⟨rfl, rfl⟩
      rw [Nat.add_zero, List.countP_cons_of_pos here, later]
      exact ⟨fun fits => absurd fits fails, fun _ => rfl⟩
    | succ i =>
      have elsewhere : ¬ (refusal index head).isAt list (index + (i + 1)) = true := by
        rw [ValidationError.isAt_iff plain plain field]
        omega
      rw [List.countP_cons_of_neg elsewhere, Nat.add_succ, ← Nat.succ_add]
      exact ih found

end Errors

end Settled

/-! ### Deduction claims and credit claims -/

/-- An entry is for the kind and the amount of the claim. -/
structure DeductionClaim.IsEnteredAs (claim : DeductionClaim) (entry : ResolvedDeduction) : Prop where
  deductionType_eq : entry.deductionType = claim.deductionType
  claimed_eq : entry.claimed = claim.amount

namespace Resolution

section Settling

variable {deductionRule? : DeductionType → Option DeductionRule}
  {creditRule? : CreditType → Option CreditRule} {eligibility : Eligibility}
  {totalIncome : Decimal}

theorem exists_part_of_refusal (index : ℕ) (claim : DeductionClaim) :
    ∃ part, (claim.refusal deductionRule? index).field =
      itemPath "deductions" index ++ "." ++ part := by
  unfold DeductionClaim.refusal
  split
  · exact ⟨"deduction_type", by rw [String.append_assoc]; rfl⟩
  · exact ⟨"shared_with", by rw [String.append_assoc]; rfl⟩

theorem exists_part_of_creditRefusal (index : ℕ) (claim : CreditClaim) :
    ∃ part, (claim.refusal creditRule? index).field = itemPath "credits" index ++ "." ++ part :=
  ⟨"credit_type", by rw [String.append_assoc]; rfl⟩

/-- The deduction claims are settled one after another, whatever earlier ones used of ceilings. -/
theorem settled_resolveDeductions (spent : DeductionType → Decimal) (index : ℕ)
    (claims : List DeductionClaim) :
    Settled (·.Permitted deductionRule?) DeductionClaim.IsEnteredAs
      (DeductionClaim.refusal deductionRule?) index claims
      (granted (resolveDeductions deductionRule? spent index claims))
      (rejected (resolveDeductions deductionRule? spent index claims)) := by
  induction claims generalizing spent index with
  | nil => exact .nil index
  | cons claim rest ih =>
    rcases resolveDeductions_cons_cases deductionRule? spent index claim rest with
      ⟨fits, rule, -, outcomes⟩ | ⟨fails, outcomes⟩
    · rw [outcomes, granted_ok, rejected_ok]
      exact .granted fits ⟨rfl, rfl⟩ (ih _ (index + 1))
    · rw [outcomes, granted_error, rejected_error]
      exact .refused fails (ih spent (index + 1))

/-- The credit claims are settled one after another too. -/
theorem settled_resolveCredit (index : ℕ) (claims : List CreditClaim) :
    Settled (·.Permitted creditRule? eligibility) (IsGrantedAs creditRule? totalIncome)
      (CreditClaim.refusal creditRule?) index claims
      (granted ((claims.zipIdx index).map fun (claim, index) =>
        resolveCredit creditRule? eligibility totalIncome index claim))
      (rejected ((claims.zipIdx index).map fun (claim, index) =>
        resolveCredit creditRule? eligibility totalIncome index claim)) := by
  induction claims generalizing index with
  | nil => exact .nil index
  | cons claim rest ih =>
    rw [List.zipIdx_cons, List.map_cons]
    rcases resolveCredit_cases creditRule? eligibility totalIncome index claim with
      ⟨rule, found, eligible, outcome⟩ | ⟨fails, outcome⟩
    · simp only [outcome, granted_ok, rejected_ok]
      exact .granted ⟨rule, found, eligible⟩ ⟨rule, found, rfl⟩ (ih (index + 1))
    · simp only [outcome, granted_error, rejected_error]
      exact .refused fails (ih (index + 1))

end Settling

end Resolution

end IncomeTax

import IncomeTax.Proofs.Decimal.Nearest
import IncomeTax.Proofs.Declaration.Outcomes
import IncomeTax.Proofs.Declaration.Validity

/-!
# What is left of a ceiling

The claims of one kind of deduction use up its ceiling one after the other. The ceiling may be any
amount, with any number of decimals, while claims are whole numbers of cents. What is left of it is
still exact, or so much that its rounding does not reach any claim; and what was used is exact as
long as the claims are those of a valid declaration.

## Main definitions

* `Resolution.Spent` — what some claims used of a ceiling
* `Resolution.WithinCeilings` — the same for all kinds at once, the invariant along a list of claims

## Main results

* `Resolution.Spent.toRat_allowed` — a claim is allowed what it asks for, up to what is left
* `Resolution.Spent.toRat_grant`, `Resolution.WithinCeilings.grant` — a grant keeps to the ceiling
-/

namespace IncomeTax

namespace Resolution

open Decimal (Fits Within)
open Validation (claimLimit)

/-- No more is allowed than is claimed, whatever was used before. -/
theorem allowed_bounds (rule : DeductionRule) (used : Decimal) {amount : Decimal}
    (nonneg : 0 ≤ amount.toRat) :
    0 ≤ (allowed rule used amount).toRat ∧ (allowed rule used amount).toRat ≤ amount.toRat := by
  unfold allowed
  cases rule.ceiling with
  | none => exact ⟨nonneg, le_rfl⟩
  | some ceiling =>
    rw [Decimal.toRat_min, Decimal.toRat_nonNegative]
    exact ⟨le_min nonneg (le_max_left 0 _), min_le_left _ _⟩

/-- What earlier claims used of a ceiling: some whole number of cents, as much as `n` claims may ask
for, or all of it. -/
structure Spent (n : ℕ) (ceiling used : Decimal) : Prop where
  nonneg : 0 ≤ used.toRat
  le : used.toRat ≤ ceiling.toRat
  cents : Within 2 (n * (99999999999999 / 100)) used.toRat ∨ used.toRat = ceiling.toRat

namespace Spent

variable {n : ℕ} {rule : DeductionRule} {ceiling used amount : Decimal}

/-- What is left of a ceiling has no more decimals than fit, or is more than any claim. -/
theorem fits_or_ample (spent : Spent n ceiling used) (few : n ≤ claimLimit) :
    (∃ k ≤ 28, Fits k (ceiling.toRat - used.toRat)) ∨
      (10 ^ 12 : ℤ) ≤ ceiling.toRat - used.toRat := by
  have left : 0 ≤ ceiling.toRat - used.toRat := sub_nonneg.2 spent.le
  rcases spent.cents with cents | all
  · rcases le_total 2 ceiling.scale with long | short
    · -- At the scale of the ceiling, what is left has no larger coefficient than the ceiling.
      have whole := ceiling.fits_toRat
      refine .inl ⟨ceiling.scale, ceiling.scale_le,
        sub_mem whole.mem_grid (Decimal.grid_mono long cents.mem_grid), ?_⟩
      refine lt_of_le_of_lt ?_ whole.small
      rw [abs_of_nonneg left, abs_of_nonneg (spent.nonneg.trans spent.le)]
      exact mul_le_mul_of_nonneg_right (sub_le_self _ spent.nonneg) (by positivity)
    · rcases le_total ceiling.toRat (10 ^ 20) with moderate | huge
      · refine .inl ⟨2, by norm_num, sub_mem
          (Decimal.grid_mono short ceiling.toRat_mem_grid) cents.mem_grid, ?_⟩
        rw [abs_of_nonneg left]
        have below := sub_le_self ceiling.toRat spent.nonneg
        norm_num at moderate ⊢
        linarith
      · have counted : (n : ℚ) ≤ 2080 := by exact_mod_cast few
        have small := cents.le
        right
        norm_num at huge small ⊢
        linarith
  · rw [all, sub_self]
    exact .inl ⟨0, by norm_num, by simp, by simp⟩

/-- Under a ceiling, a claim is allowed what it asks for, up to what is left. -/
theorem toRat_allowed (spent : Spent n ceiling used) (few : n ≤ claimLimit)
    (limited : rule.ceiling = some ceiling) (claimed : IsMoney amount.toRat) :
    (allowed rule used amount).toRat = min amount.toRat (ceiling.toRat - used.toRat) := by
  have left : 0 ≤ ceiling.toRat - used.toRat := sub_nonneg.2 spent.le
  rw [allowed, limited]
  simp only
  rw [Decimal.toRat_min, Decimal.toRat_nonNegative]
  rcases spent.fits_or_ample few with ⟨k, short, fits⟩ | ample
  · rw [Decimal.toRat_saturatingSub short fits, max_eq_right left]
  · -- However much of it is rounded, there is more left than the claim asks for.
    obtain ⟨rest, found, near⟩ :=
      Decimal.exists_nearest_sub?_of_nonneg (spent.nonneg.trans spent.le) spent.nonneg
    have enough := near.ge_of_ge ample
    have asked : amount.toRat ≤ (10 ^ 12 : ℤ) := claimed.le.trans (by norm_num)
    rw [Decimal.saturatingSub, found, Option.getD_some,
      min_eq_left (asked.trans (enough.trans (le_max_right 0 _))), min_eq_left (asked.trans ample)]

/-- What a claim is allowed is added to what was used before without rounding. -/
theorem toRat_grant (spent : Spent n ceiling used) (few : n < claimLimit)
    (limited : rule.ceiling = some ceiling) (claimed : IsMoney amount.toRat) :
    (used.saturatingAdd (allowed rule used amount)).toRat =
      used.toRat + (allowed rule used amount).toRat := by
  have value := spent.toRat_allowed few.le limited claimed
  rcases le_total amount.toRat (ceiling.toRat - used.toRat) with granted | capped
  · rw [min_eq_left granted] at value
    rcases spent.cents with cents | all
    · have counted : ((n + 1 : ℕ) : ℚ) ≤ 2080 := by exact_mod_cast few
      have small := cents.le
      have more := claimed.le
      refine Decimal.toRat_saturatingAdd (by norm_num : 2 ≤ 28) ⟨?_, ?_⟩
      · exact value ▸ add_mem cents.mem_grid claimed.mem_grid
      · rw [value, abs_of_nonneg (add_nonneg spent.nonneg claimed.nonneg)]
        push_cast at counted
        norm_num at small more ⊢
        linarith
    · -- Nothing is left, so nothing is asked for.
      rw [all, sub_self] at granted
      have nothing := le_antisymm granted claimed.nonneg
      refine Decimal.toRat_saturatingAdd used.scale_le ?_
      rw [value, nothing, add_zero]
      exact used.fits_toRat
  · -- The rest of the ceiling is granted, which makes up the ceiling.
    rw [min_eq_right capped] at value
    refine Decimal.toRat_saturatingAdd ceiling.scale_le ?_
    rw [value, add_sub_cancel]
    exact ceiling.fits_toRat

/-- A grant keeps to the ceiling. -/
theorem grant (spent : Spent n ceiling used) (few : n < claimLimit)
    (limited : rule.ceiling = some ceiling) (claimed : IsMoney amount.toRat) :
    Spent (n + 1) ceiling (used.saturatingAdd (allowed rule used amount)) := by
  have total := spent.toRat_grant few limited claimed
  rw [spent.toRat_allowed few.le limited claimed] at total
  have left : 0 ≤ ceiling.toRat - used.toRat := sub_nonneg.2 spent.le
  refine ⟨?_, ?_, ?_⟩ <;> rw [total]
  · exact add_nonneg spent.nonneg (le_min claimed.nonneg left)
  · linarith [min_le_right amount.toRat (ceiling.toRat - used.toRat)]
  · rcases le_total amount.toRat (ceiling.toRat - used.toRat) with granted | capped
    · rw [min_eq_left granted]
      rcases spent.cents with cents | all
      · refine .inl ⟨add_nonneg spent.nonneg claimed.nonneg, ?_,
          add_mem cents.mem_grid claimed.mem_grid⟩
        push_cast
        linarith [cents.le, claimed.le]
      · rw [all, sub_self] at granted
        rw [le_antisymm granted claimed.nonneg, add_zero]
        exact .inr all
    · rw [min_eq_right capped]
      exact .inr (add_sub_cancel _ _)

end Spent

/-! ### All kinds at once -/

variable {rule? : DeductionType → Option DeductionRule} {spent : DeductionType → Decimal} {n : ℕ}

/-- What `n` claims used of each ceiling. Without a ceiling nothing is kept, and what was allowed
may have been rounded. -/
def WithinCeilings (rule? : DeductionType → Option DeductionRule) (n : ℕ)
    (spent : DeductionType → Decimal) : Prop :=
  ∀ type, ∀ rule ∈ rule? type, ∀ ceiling ∈ rule.ceiling, Spent n ceiling (spent type)

namespace WithinCeilings

/-- Nothing used is within every ceiling. -/
theorem zero (ceilings : ∀ type, ∀ rule ∈ rule? type, ∀ ceiling ∈ rule.ceiling, 0 ≤ ceiling.toRat) :
    WithinCeilings rule? 0 fun _ => Decimal.zero := by
  intro type rule found ceiling limited
  have floor := ceilings type rule found ceiling limited
  exact ⟨Decimal.toRat_zero.ge, Decimal.toRat_zero ▸ floor,
    .inl (Decimal.toRat_zero ▸ .zero (by norm_num))⟩

/-- A grant to a claim of one kind keeps what was used within every ceiling. -/
theorem grant (within : WithinCeilings rule? n spent) (few : n < claimLimit) {type : DeductionType}
    {rule : DeductionRule} (found : rule? type = some rule) {amount : Decimal}
    (claimed : IsMoney amount.toRat) :
    WithinCeilings rule? (n + 1) fun type' =>
      if type' = type then (spent type).saturatingAdd (allowed rule (spent type) amount)
      else spent type' := by
  intro type' rule' found' ceiling limited
  -- Only the kind of the claim has used more than before.
  by_cases same : type' = type
  · subst same
    obtain rfl : rule = rule' := Option.some.inj (found.symm.trans found')
    simp only [if_true]
    exact (within type' rule found ceiling limited).grant few limited claimed
  · simp only [if_neg same]
    obtain ⟨nonneg, le, cents⟩ := within type' rule' found' ceiling limited
    refine ⟨nonneg, le, cents.imp_left fun cents => cents.mono le_rfl ?_⟩
    push_cast
    linarith

end WithinCeilings

end Resolution

end IncomeTax

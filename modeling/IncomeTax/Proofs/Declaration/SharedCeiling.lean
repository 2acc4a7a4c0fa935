import IncomeTax.Proofs.Declaration.Granted

/-!
# Claims that share a ceiling

The deduction claims of one kind are served in their order. Each is allowed what it asks for until
the ceiling of the kind is reached; the claim that reaches it is allowed the rest, and those after
it nothing. Together they are allowed what they ask for, up to the ceiling. What is claimed of other
kinds, before, after or between them, plays no part.

## Main definitions

* `Resolution.Answers` — a granted deduction, for its claim
* `Resolution.Exhausts` — after a capped deduction nothing is left for a later one of its kind
* `Declaration.SharesCeilings` — the deductions of a declaration share the ceilings of their kinds

## Main results

* `Resolution.filter_granted` — the deductions of a kind are those of its own claims
* `Resolution.pairwise_exhausts` — nothing is allowed after a capped deduction
* `Declaration.sharesCeilings_of_clean` — the deductions of a clean resolution share the ceilings
-/

namespace IncomeTax

namespace Resolution

/-- A granted deduction is allowed no more than its claim asks for, and marked when it is less. -/
structure Answers (claim : DeductionClaim) (deduction : ResolvedDeduction) : Prop where
  deductionType_eq : deduction.deductionType = claim.deductionType
  claimed_eq : deduction.claimed = claim.amount
  nonneg : 0 ≤ deduction.allowed.toRat
  le : deduction.allowed.toRat ≤ deduction.claimed.toRat
  capped_iff : deduction.capped = true ↔ deduction.allowed.toRat < deduction.claimed.toRat

/-- Once a deduction is capped, nothing is left for a later one of its kind. -/
def Exhausts (earlier later : ResolvedDeduction) : Prop :=
  later.deductionType = earlier.deductionType → earlier.capped = true → later.allowed.toRat = 0

variable {rule? : DeductionType → Option DeductionRule} {spent spent' : DeductionType → Decimal}
  {claims : List DeductionClaim} {type : DeductionType} {n : ℕ}

/-! ### One kind among others -/

/-- The deductions of a kind are those of its own claims: what others used before, and where they
stand in the list, plays no part. -/
theorem filter_granted (same : spent type = spent' type) (index index' : ℕ) :
    (granted (resolveDeductions rule? spent index claims)).filter (·.deductionType = type) =
      granted (resolveDeductions rule? spent' index'
        (claims.filter (·.deductionType = type))) := by
  -- The two runs agree on what was used of this kind, after every claim.
  induction claims generalizing spent spent' index index' with
  | nil => rfl
  | cons claim rest ih =>
    by_cases own : claim.deductionType = type
    · subst own
      rw [List.filter_cons_of_pos (by simp), resolveDeductions, resolveDeductions, same]
      cases rule? claim.deductionType with
      | none => exact ih same _ _
      | some rule =>
        simp only
        split
        · exact ih same _ _
        · rw [granted_ok, granted_ok, List.filter_cons_of_pos (by simp)]
          exact congrArg _ (ih (by simp) _ _)
    · rw [List.filter_cons_of_neg (by simpa using own), resolveDeductions]
      cases rule? claim.deductionType with
      | none => exact ih same _ _
      | some rule =>
        simp only
        split
        · exact ih same _ _
        · rw [granted_ok, List.filter_cons_of_neg (by simpa using own)]
          exact ih ((if_neg (Ne.symm own)).trans same) _ _

/-! ### After a capped claim -/

/-- A claim that is allowed less than it asks for takes all that is left. -/
theorem room_eq_zero_of_lt {room : Option ℚ} {q : ℚ} (short : upTo room q < q) :
    room.map (· - upTo room q) = some 0 := by
  cases room with
  | none => exact absurd short (lt_irrefl q)
  | some left =>
    have less : left < q := (min_lt_iff.1 short).resolve_left (lt_irrefl q)
    rw [Option.map_some, upTo, Option.elim_some, min_eq_right less.le, sub_self]

theorem upTo_zero_left {q : ℚ} (nonneg : 0 ≤ q) : upTo (some 0) q = 0 := min_eq_right nonneg

/-- When nothing is allowed of a kind together, nothing is allowed of any of its claims. -/
theorem allowed_eq_zero {deductions : List ResolvedDeduction}
    (nonneg : ∀ deduction ∈ deductions, 0 ≤ deduction.allowed.toRat)
    (nothing : allowedOf type deductions = 0) :
    ∀ deduction ∈ deductions, deduction.deductionType = type → deduction.allowed.toRat = 0 := by
  intro deduction member same
  have parts : ∀ q ∈ (deductions.filter (·.deductionType = type)).map (·.allowed.toRat), 0 ≤ q :=
    List.forall_mem_map.2 fun other listed => nonneg other (List.mem_of_mem_filter listed)
  exact List.all_zero_of_le_zero_le_of_sum_eq_zero parts nothing
    (List.mem_map_of_mem (List.mem_filter.2 ⟨member, decide_eq_true same⟩))

/-- No granted deduction is negative. -/
theorem allowed_nonneg (nonneg : ∀ claim ∈ claims, 0 ≤ claim.amount.toRat) (index : ℕ) :
    ∀ deduction ∈ granted (resolveDeductions rule? spent index claims),
      0 ≤ deduction.allowed.toRat := by
  intro deduction member
  obtain ⟨claim, listed, rule, used, same⟩ := exists_claim_of_granted index deduction member
  rw [same]
  exact (allowed_bounds rule used (nonneg claim listed)).1

/-! ### Clean outcomes -/

section Clean

variable (claimed : ∀ claim ∈ claims, IsMoney claim.amount.toRat) (index : ℕ)
  (clean : rejected (resolveDeductions rule? spent index claims) = [])

include claimed clean

/-- When no claim is rejected, each is answered by a deduction. -/
theorem forall₂_answers :
    List.Forall₂ Answers claims (granted (resolveDeductions rule? spent index claims)) := by
  induction claims generalizing spent index with
  | nil => exact .nil
  | cons claim rest ih =>
    rw [List.forall_mem_cons] at claimed
    obtain ⟨rule, found, clean, granted⟩ := resolveDeductions_cons_of_clean clean
    obtain ⟨nonneg, le⟩ := allowed_bounds rule (spent claim.deductionType) claimed.1.nonneg
    rw [granted, granted_ok]
    exact .cons ⟨rfl, rfl, nonneg, le, decide_eq_true_iff.trans Decimal.lt_iff_toRat⟩
      (ih claimed.2 _ clean)

/-- After a deduction is capped, nothing is allowed to those of its kind. -/
theorem pairwise_exhausts (within : WithinCeilings rule? n spent)
    (few : n + claims.length ≤ Validation.claimLimit) :
    (granted (resolveDeductions rule? spent index claims)).Pairwise Exhausts := by
  induction claims generalizing spent index n with
  | nil => exact .nil
  | cons claim rest ih =>
    rw [List.forall_mem_cons] at claimed
    rw [List.length_cons] at few
    obtain ⟨rule, found, clean, granted⟩ := resolveDeductions_cons_of_clean clean
    have after := within.grant (by omega) found claimed.1
    rw [granted, granted_ok, List.pairwise_cons]
    refine ⟨fun later member same capped => ?_, ih claimed.2 _ clean after (by omega)⟩
    replace same : later.deductionType = claim.deductionType := same
    have short : (allowed rule (spent claim.deductionType) claim.amount).toRat <
        claim.amount.toRat := Decimal.lt_iff_toRat.1 (of_decide_eq_true capped)
    rw [toRat_allowed_eq_upTo within found claimed.1 (by omega)] at short
    -- The claim took all that was left of the ceiling, so the later ones are allowed nothing.
    have nonneg : ∀ claim ∈ rest, 0 ≤ claim.amount.toRat :=
      fun claim member => (claimed.2 claim member).nonneg
    have together : allowedOf claim.deductionType _ = _ :=
      allowedOf_granted after (by omega) claimed.2 (index + 1) clean
    rw [room_grant_self within found claimed.1 (by omega), room_eq_zero_of_lt short,
      upTo_zero_left (claimedOf_nonneg nonneg)] at together
    exact allowed_eq_zero (allowed_nonneg nonneg (index + 1)) together later member same

end Clean

end Resolution

namespace Declaration

open Resolution

variable {d : Declaration} {table : RateTable} {r : Resolution}

/-- The deductions of a declaration share the ceilings of their kinds, in the order of claims. -/
structure SharesCeilings (d : Declaration) (table : RateTable) (r : Resolution) : Prop where
  answered : List.Forall₂ Answers d.content.deductions r.deductions
  limited : ∀ type rule ceiling, table.deductionRule? type = some rule →
    rule.ceiling = some ceiling →
    allowedOf type r.deductions = min ceiling.toRat (claimedOf type d.content.deductions)
  unlimited : ∀ type rule, table.deductionRule? type = some rule → rule.ceiling = none →
    allowedOf type r.deductions = claimedOf type d.content.deductions
  exhausted : r.deductions.Pairwise Exhausts
  apart : ∀ type (d' : Declaration) r', d'.resolve table = .ok r' →
    d'.content.deductions.filter (·.deductionType = type) =
      d.content.deductions.filter (·.deductionType = type) →
    r'.deductions.filter (·.deductionType = type) = r.deductions.filter (·.deductionType = type)

/-- The deductions of a kind are those granted to its claims alone. -/
theorem filter_deductions (resolved : d.resolve table = .ok r) (type : DeductionType) :
    r.deductions.filter (·.deductionType = type) =
      granted (resolveDeductions table.deductionRule? (fun _ => .zero) 0
        (d.content.deductions.filter (·.deductionType = type))) := by
  obtain ⟨-, deductions, -⟩ := resolve_cases resolved
  rw [deductions]
  exact filter_granted rfl 0 0

/-- When no claim of a valid declaration is rejected, its deductions share the ceilings of their
kinds, whatever the ceilings of the table and the number of their decimals. -/
theorem sharesCeilings_of_clean {definition : RateTableDefinition}
    (built : RateTable.ofDefinition definition = .ok table) (valid : d.validate = [])
    (resolved : d.resolve table = .ok r) (clean : r.isClean = true) : d.SharesCeilings table r := by
  have regular := regular_of_validate valid
  have checked := RateTable.checked_of_ofDefinition built
  obtain ⟨-, -, -, accepted, -, -⟩ := resolve_clean resolved clean
  obtain ⟨-, deductions, -⟩ := resolve_cases resolved
  have allowed (type : DeductionType) : allowedOf type r.deductions = _ :=
    allowedOf_of_clean regular checked resolved clean
  refine
    { answered := deductions ▸ forall₂_answers regular.deductions 0 accepted
      limited := fun type rule ceiling found limited => ?_
      unlimited := fun type rule found unlimited => ?_
      exhausted := deductions ▸ pairwise_exhausts regular.deductions 0 accepted
        (.zero checked.deductionRule_nonneg) (by simpa using regular.few_deductions)
      apart := fun type d' r' resolved' same => ?_ }
  · rw [allowed type, room, found, Option.bind_some, limited, Option.map_some, Decimal.toRat_zero,
      sub_zero]
    exact min_comm _ _
  · rw [allowed type, room, found, Option.bind_some, unlimited]
    rfl
  · rw [filter_deductions resolved, filter_deductions resolved', same]

end Declaration

/-! ### Three gifts -/

open Decimal (unsigned) in
/-- The sample table with alimony, and with a ceiling of 26 decimals on gifts. -/
def RateTableDefinition.sampleLongCeiling : RateTableDefinition :=
  { sample2024 with
    deductions := .ofList [(.gifts, ⟨some (unsigned 50000000000000000000000000001 26), false⟩),
      (.alimony, ⟨none, false⟩)] }

/-- The second of three gifts is allowed what is left of the ceiling, in all its decimals, and the
third nothing. -/
theorem Declaration.sharesCeilings_of_sampleGifts :
    let d := draft ⟨1⟩ .sampleGifts
    ∃ table r, RateTable.ofDefinition .sampleLongCeiling = .ok table ∧ d.validate = [] ∧
      d.resolve table = .ok r ∧ r.isClean = true ∧ d.SharesCeilings table r ∧
      r.deductions.map (·.capped) = [false, false, true, true] ∧
      r.deductions.map (·.allowed.toRat) = [300, 1200, 200 + 1 / 10 ^ 26, 0] := by
  intro d
  have valid : d.validate = [] := by decide +kernel
  obtain ⟨table, built, evaluated⟩ : ∃ table,
      RateTable.ofDefinition .sampleLongCeiling = .ok table ∧
      ((d.resolve table).toOption.any fun r => r.isClean &&
        decide (r.deductions.map (·.capped) = [false, false, true, true] ∧
          r.deductions.map (·.allowed.toRat) = [300, 1200, 200 + 1 / 10 ^ 26, 0])) = true :=
    exists_ok_of_any (by decide +kernel)
  obtain ⟨r, resolved, evaluated⟩ := exists_ok_of_any evaluated
  rw [Bool.and_eq_true, decide_eq_true_eq] at evaluated
  obtain ⟨clean, capped, allowed⟩ := evaluated
  exact ⟨table, r, built, valid, resolved, clean,
    sharesCeilings_of_clean built valid resolved clean, capped, allowed⟩

end IncomeTax

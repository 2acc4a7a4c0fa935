import IncomeTax.Proofs.Declaration.Claims

/-!
# What a clean resolution grants

When no claim is rejected, the amounts that are granted have a closed form. The deductions of one kind
are allowed what is claimed of the kind, up to what is left of its ceiling, however the claims of other
kinds lie between them. Each claimed credit is capped and phased out alone, and each automatic credit
is the maximum of its kind, phased out.

## Main definitions

* `Resolution.claimedOf`, `Resolution.allowedOf` — the deductions of one kind
* `Resolution.room` — what is left of the ceiling of a kind
* `Resolution.claimedCredit`, `Resolution.automaticCredit` — the number a credit stands for

## Main results

* `Resolution.allowedOf_granted` — the deductions of a kind
* `Declaration.allowedOf_of_clean` — those of a clean resolution
* `Declaration.sum_deductions_of_clean`, `Declaration.sum_credits_of_clean` — the totals
-/

namespace IncomeTax

namespace Resolution

open Decimal (Within)

/-! ### Deductions -/

section Deductions

/-- What is claimed of one kind of deduction. -/
def claimedOf (type : DeductionType) (claims : List DeductionClaim) : ℚ :=
  ((claims.filter (·.deductionType = type)).map (·.amount.toRat)).sum

/-- What is allowed of one kind of deduction. -/
def allowedOf (type : DeductionType) (deductions : List ResolvedDeduction) : ℚ :=
  ((deductions.filter (·.deductionType = type)).map (·.allowed.toRat)).sum

/-- What is left of the ceiling of a kind, if it has one. -/
def room (rule? : DeductionType → Option DeductionRule) (spent : DeductionType → Decimal)
    (type : DeductionType) : Option ℚ :=
  ((rule? type).bind (·.ceiling)).map fun ceiling => ceiling.toRat - (spent type).toRat

/-- A number, but no more than there is room for. -/
def upTo (room : Option ℚ) (q : ℚ) : ℚ := room.elim q (min q)

variable {rule? : DeductionType → Option DeductionRule} {spent : DeductionType → Decimal}
  {claims : List DeductionClaim} {type : DeductionType} {claim : DeductionClaim} {n : ℕ}

theorem claimedOf_cons_self (same : claim.deductionType = type) :
    claimedOf type (claim :: claims) = claim.amount.toRat + claimedOf type claims := by
  rw [claimedOf, List.filter_cons_of_pos (by simpa using same), List.map_cons, List.sum_cons]
  rfl

theorem claimedOf_cons_of_ne (other : claim.deductionType ≠ type) :
    claimedOf type (claim :: claims) = claimedOf type claims := by
  rw [claimedOf, List.filter_cons_of_neg (by simpa using other)]
  rfl

theorem allowedOf_cons_self {deduction : ResolvedDeduction} {rest : List ResolvedDeduction}
    (same : deduction.deductionType = type) :
    allowedOf type (deduction :: rest) = deduction.allowed.toRat + allowedOf type rest := by
  rw [allowedOf, List.filter_cons_of_pos (by simpa using same), List.map_cons, List.sum_cons]
  rfl

theorem allowedOf_cons_of_ne {deduction : ResolvedDeduction} {rest : List ResolvedDeduction}
    (other : deduction.deductionType ≠ type) :
    allowedOf type (deduction :: rest) = allowedOf type rest := by
  rw [allowedOf, List.filter_cons_of_neg (by simpa using other)]
  rfl

theorem claimedOf_nonneg (nonneg : ∀ claim ∈ claims, 0 ≤ claim.amount.toRat) :
    0 ≤ claimedOf type claims :=
  List.sum_nonneg (List.forall_mem_map.2 fun claim member =>
    nonneg claim (List.mem_of_mem_filter member))

/-- A number and more after it, each up to what is left. -/
theorem upTo_add (room : Option ℚ) {p q : ℚ} (nonneg : 0 ≤ q) :
    upTo room p + upTo (room.map (· - upTo room p)) q = upTo room (p + q) := by
  cases room with
  | none => rfl
  | some left =>
    simp only [upTo, Option.map_some, Option.elim_some]
    rcases le_total p left with le | le
    · rw [min_eq_left le, ← min_add_add_left, add_sub_cancel]
    · rw [min_eq_right le, sub_self, min_eq_right nonneg, add_zero,
        min_eq_right (le.trans (le_add_of_nonneg_right nonneg))]

theorem upTo_zero {room : Option ℚ} (nonneg : ∀ left ∈ room, 0 ≤ left) : upTo room 0 = 0 := by
  cases room with
  | none => rfl
  | some left => exact min_eq_left (nonneg left rfl)

theorem upTo_mono (room : Option ℚ) {p q : ℚ} (le : p ≤ q) : upTo room p ≤ upTo room q := by
  cases room with
  | none => exact le
  | some left => exact min_le_min_right left le

/-- What is left of a ceiling is not negative. -/
theorem room_nonneg (within : WithinCeilings rule? n spent) :
    ∀ left ∈ room rule? spent type, 0 ≤ left := by
  intro left member
  obtain ⟨ceiling, limited, rfl⟩ := Option.mem_map.1 member
  obtain ⟨rule, found, capped⟩ := Option.bind_eq_some_iff.1 limited
  exact sub_nonneg.2 (within type rule found ceiling capped).le

section Grant

variable {rule : DeductionRule} (within : WithinCeilings rule? n spent)
  (found : rule? type = some rule) {amount : Decimal} (claimed : IsMoney amount.toRat)

include within found claimed

/-- A claim is allowed what it asks for, up to what is left of the ceiling. -/
theorem toRat_allowed_eq_upTo (few : n ≤ Validation.claimLimit) :
    (allowed rule (spent type) amount).toRat = upTo (room rule? spent type) amount.toRat := by
  rw [room, found, Option.bind_some]
  cases limited : rule.ceiling with
  | none =>
    rw [allowed, limited]
    rfl
  | some ceiling => exact (within type rule found ceiling limited).toRat_allowed few limited claimed

/-- What a claim is allowed is no longer left for others of its kind. -/
theorem room_grant_self (few : n < Validation.claimLimit) :
    room rule? (fun type' => if type' = type then
        (spent type).saturatingAdd (allowed rule (spent type) amount) else spent type') type =
      (room rule? spent type).map (· - upTo (room rule? spent type) amount.toRat) := by
  rw [← toRat_allowed_eq_upTo within found claimed few.le]
  unfold room
  rw [found, Option.bind_some]
  cases limited : rule.ceiling with
  | none => rfl
  | some ceiling =>
    have total := (within type rule found ceiling limited).toRat_grant few limited claimed
    simp only [Option.map_some, if_true, total, sub_sub]

end Grant

/-- When no claim is rejected, the deductions of a kind are allowed what is claimed of the kind, up
to what is left of its ceiling. -/
theorem allowedOf_granted (within : WithinCeilings rule? n spent)
    (few : n + claims.length ≤ Validation.claimLimit)
    (claimed : ∀ claim ∈ claims, IsMoney claim.amount.toRat) (index : ℕ)
    (clean : rejected (resolveDeductions rule? spent index claims) = []) :
    allowedOf type (granted (resolveDeductions rule? spent index claims)) =
      upTo (room rule? spent type) (claimedOf type claims) := by
  -- What is left of each ceiling shrinks along the list.
  induction claims generalizing spent index n with
  | nil => exact (upTo_zero (room_nonneg within)).symm
  | cons claim rest ih =>
    rw [List.forall_mem_cons] at claimed
    rw [List.length_cons] at few
    obtain ⟨rule, found, clean, granted⟩ := resolveDeductions_cons_of_clean clean
    have others := ih (within.grant (by omega) found claimed.1) (by omega) claimed.2 (index + 1) clean
    have nonneg : 0 ≤ claimedOf type rest :=
      claimedOf_nonneg fun claim member => (claimed.2 claim member).nonneg
    rw [granted, granted_ok]
    by_cases same : claim.deductionType = type
    · subst same
      refine (allowedOf_cons_self rfl).trans ?_
      rw [others, room_grant_self within found claimed.1 (by omega),
        toRat_allowed_eq_upTo within found claimed.1 (by omega), claimedOf_cons_self rfl]
      exact upTo_add _ nonneg
    · refine (allowedOf_cons_of_ne same).trans ?_
      rw [others, claimedOf_cons_of_ne same]
      -- The claim leaves the ceilings of other kinds alone.
      congr 1
      simp only [room, if_neg (Ne.symm same)]

/-- The deductions are those of all kinds. -/
theorem sum_allowed_eq (deductions : List ResolvedDeduction) :
    (deductions.map (·.allowed.toRat)).sum =
      (DeductionType.all.map fun type => allowedOf type deductions).sum := by
  induction deductions with
  | nil => simp [allowedOf, DeductionType.all]
  | cons deduction rest ih =>
    have split (type : DeductionType) : allowedOf type (deduction :: rest) =
        (if deduction.deductionType = type then deduction.allowed.toRat else 0) +
          allowedOf type rest := by
      by_cases same : deduction.deductionType = type
      · rw [if_pos same, allowedOf_cons_self same]
      · rw [if_neg same, allowedOf_cons_of_ne same, zero_add]
    -- Exactly one kind is that of the first deduction.
    have one : (DeductionType.all.map fun type =>
        if deduction.deductionType = type then deduction.allowed.toRat else 0).sum =
        deduction.allowed.toRat := by
      cases deduction.deductionType <;> simp [DeductionType.all]
    simp only [split, List.sum_map_add, one]
    rw [List.map_cons, List.sum_cons, ih]

end Deductions

/-! ### Credits -/

section Credits

variable {rule? : CreditType → Option CreditRule} {rules : OrderedMap CreditType CreditRule}
  {eligibility : Eligibility} {totalIncome : Decimal} {claims : List CreditClaim}

/-- The number that a granted claim stands for. -/
def claimedCredit (rule? : CreditType → Option CreditRule) (income : ℚ) (claim : CreditClaim) : ℚ :=
  (rule? claim.creditType).elim 0 fun rule =>
    phasedOut rule.phaseOut (min claim.amount.toRat rule.maximum.toRat) income

/-- The number that an automatic credit stands for. -/
def automaticCredit (income : ℚ) (entry : CreditType × CreditRule) : ℚ :=
  phasedOut entry.2.phaseOut entry.2.maximum.toRat income

/-- Each granted claim is capped and phased out alone. -/
theorem map_amount_granted (exact_ : ∀ type, ∀ rule ∈ rule? type, rule.Exact)
    (income : Within 2 (10 ^ 18) totalIncome.toRat) {credits : List ResolvedCredit}
    (claimed : ∀ claim ∈ claims, IsMoney claim.amount.toRat)
    (granted : List.Forall₂ (IsGrantedAs rule? totalIncome) claims credits) :
    credits.map (·.amount.toRat) = claims.map (claimedCredit rule? totalIncome.toRat) := by
  induction granted with
  | nil => rfl
  | @cons claim credit claims credits granted _ ih =>
    rw [List.forall_mem_cons] at claimed
    obtain ⟨rule, found, rfl⟩ := granted
    have sound := exact_ _ rule found
    have money : IsMoney (claim.amount.min rule.maximum).toRat := by
      rw [Decimal.toRat_min]
      exact claimed.1.min sound.maximum.nonneg sound.maximum.mem_grid
    rw [List.map_cons, List.map_cons, ih claimed.2, claimedCredit, found, Option.elim_some,
      ← Decimal.toRat_min, toRat_creditAfterPhaseOut sound money income]

theorem map_amount_automaticCredits (exact_ : ∀ entry ∈ rules.entries, entry.2.Exact)
    (income : Within 2 (10 ^ 18) totalIncome.toRat) :
    (automaticCredits rules eligibility totalIncome claims).map (·.amount.toRat) =
      (automaticRules rules eligibility claims).map (automaticCredit totalIncome.toRat) := by
  rw [automaticCredits_eq_map, List.map_map]
  refine List.map_congr_left fun entry member => ?_
  have sound : entry.2.Exact := exact_ entry (List.mem_of_mem_filter member)
  exact toRat_creditAfterPhaseOut sound sound.maximum income

end Credits

end Resolution

namespace Declaration

open Resolution

variable {d : Declaration} {table : RateTable} {r : Resolution}

section Totals

variable (regular : d.content.Regular) (checked : table.Checked)
  (resolved : d.resolve table = .ok r) (clean : r.isClean = true)

include regular checked resolved clean

/-- The deductions of one kind in a clean resolution. -/
theorem allowedOf_of_clean {type : DeductionType} : allowedOf type r.deductions =
    upTo (room table.deductionRule? (fun _ => Decimal.zero) type)
      (claimedOf type d.content.deductions) := by
  obtain ⟨-, -, -, accepted, -, -⟩ := resolve_clean resolved clean
  obtain ⟨-, deductions, -⟩ := resolve_cases resolved
  rw [deductions]
  exact allowedOf_granted (.zero checked.deductionRule_nonneg)
    (by simpa using regular.few_deductions) regular.deductions 0 accepted

/-- The deductions of a clean resolution, kind by kind. -/
theorem sum_deductions_of_clean : (r.deductions.map (·.allowed.toRat)).sum =
    (DeductionType.all.map fun type =>
      upTo (room table.deductionRule? (fun _ => Decimal.zero) type)
        (claimedOf type d.content.deductions)).sum := by
  rw [sum_allowed_eq]
  congr 1
  exact List.map_congr_left fun type _ => allowedOf_of_clean regular checked resolved clean

/-- The credits of a clean resolution, claimed and automatic. -/
theorem sum_credits_of_clean (moderate : table.Moderate) {totalIncome : Decimal}
    (found : d.content.grossIncome? = some totalIncome)
    (income : Decimal.Within 2 (10 ^ 18) totalIncome.toRat) :
    (r.credits.map (·.amount.toRat)).sum =
      (d.content.credits.map (claimedCredit table.creditRule? totalIncome.toRat)).sum +
        ((automaticRules table.credits d.eligibility d.content.credits).map
          (automaticCredit totalIncome.toRat)).sum := by
  obtain ⟨total, claimed, found', -, granted, credits⟩ := resolve_clean resolved clean
  obtain rfl : totalIncome = total := Option.some.inj (found.symm.trans found')
  rw [credits, List.map_append, List.sum_append,
    map_amount_granted (checked.creditRule_exact moderate) income regular.credits granted,
    map_amount_automaticCredits (checked.credit_exact moderate) income]

end Totals

end Declaration

end IncomeTax

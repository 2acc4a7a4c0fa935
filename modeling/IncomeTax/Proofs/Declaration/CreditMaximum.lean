import IncomeTax.Proofs.Declaration.Claims

/-!
# The maximum of a credit

A credit is capped at the maximum of its kind, but each claim alone: unlike the ceiling of a deduction,
the maximum is not shared by the claims of a kind. Claims of one kind for different periods of a year
are valid, so the credits of a kind may exceed its maximum together. They do so exactly when several
claims of the kind ask for something, for more than the maximum together, and the maximum is not zero.

## Main definitions

* `DeclarationContent.claimedAmounts` — what the claims of one kind ask for
* `Resolution.basesOf` — the credits of one kind before phase-out

## Main results

* `sum_map_min_le_iff` — numbers capped one by one, against the cap
* `Resolution.basesOf_claimed` — each claim of a clean resolution is capped alone
* `Declaration.sum_basesOf_le_maximum_iff` — when the credits of a kind stay within its maximum
* `Declaration.basesOf_above_maximum` — a declaration with credits above the maximum
-/

namespace IncomeTax

/-! ### Capped numbers -/

section Capped

variable {amounts : List ℚ} {cap : ℚ}

theorem sum_le_of_length_le_one (few : amounts.length ≤ 1) (floor : 0 ≤ cap)
    (capped : ∀ a ∈ amounts, a ≤ cap) : amounts.sum ≤ cap := by
  rcases Nat.le_one_iff_eq_zero_or_eq_one.1 few with none_left | one
  · rw [List.length_eq_zero_iff.1 none_left]
    exact floor
  · obtain ⟨a, rfl⟩ := List.length_eq_one_iff.1 one
    rw [List.sum_singleton]
    exact capped a (List.mem_singleton_self a)

theorem sum_map_min_filter (nonneg : ∀ a ∈ amounts, 0 ≤ a) (floor : 0 ≤ cap) :
    ((amounts.filter (0 < ·)).map (min · cap)).sum = (amounts.map (min · cap)).sum := by
  induction amounts with
  | nil => rfl
  | cons a rest ih =>
    rw [List.forall_mem_cons] at nonneg
    by_cases positive : 0 < a
    · rw [List.filter_cons_of_pos (by simpa using positive), List.map_cons, List.map_cons,
        List.sum_cons, List.sum_cons, ih nonneg.2]
    · obtain rfl : a = 0 := le_antisymm (not_lt.1 positive) nonneg.1
      rw [List.filter_cons_of_neg (by simp), List.map_cons, List.sum_cons, ih nonneg.2,
        min_eq_left floor, zero_add]

theorem sum_map_min_nonneg (nonneg : ∀ a ∈ amounts, 0 ≤ a) (floor : 0 ≤ cap) :
    0 ≤ (amounts.map (min · cap)).sum :=
  List.sum_nonneg (List.forall_mem_map.2 fun a member => le_min (nonneg a member) floor)

theorem filter_pos_eq_nil (nonneg : ∀ a ∈ amounts, 0 ≤ a) (positive : 0 < cap)
    (vanishes : (amounts.map (min · cap)).sum ≤ 0) : amounts.filter (0 < ·) = [] := by
  have zero := le_antisymm vanishes (sum_map_min_nonneg nonneg positive.le)
  have capped : ∀ b ∈ amounts.map (min · cap), 0 ≤ b :=
    List.forall_mem_map.2 fun a member => le_min (nonneg a member) positive.le
  rw [List.filter_eq_nil_iff]
  intro a member above
  have none_left : min a cap = 0 := List.all_zero_of_le_zero_le_of_sum_eq_zero capped zero
    (List.mem_map_of_mem member)
  have some_left : 0 < min a cap := lt_min (of_decide_eq_true above) positive
  exact some_left.ne' none_left

/-- Numbers that are capped one by one add up to no more than the cap in three cases only: the cap is
zero, they do so without being capped, or no more than one of them is positive. -/
theorem sum_map_min_le_iff (nonneg : ∀ a ∈ amounts, 0 ≤ a) (floor : 0 ≤ cap) :
    (amounts.map (min · cap)).sum ≤ cap ↔
      cap = 0 ∨ amounts.sum ≤ cap ∨ (amounts.filter (0 < ·)).length ≤ 1 := by
  constructor
  · intro within
    rcases floor.eq_or_lt with empty | positive
    · exact .inl empty.symm
    by_cases all : ∀ a ∈ amounts, a ≤ cap
    · rw [List.map_congr_left fun a member => min_eq_left (all a member), List.map_id'] at within
      exact .inr (.inl within)
    · -- One number uses up the cap, so nothing is left for the others.
      push Not at all
      obtain ⟨a, member, above⟩ := all
      obtain ⟨before, after, rfl⟩ := List.append_of_mem member
      rw [List.forall_mem_append, List.forall_mem_cons] at nonneg
      rw [List.map_append, List.sum_append, List.map_cons, List.sum_cons,
        min_eq_right above.le] at within
      have left := sum_map_min_nonneg nonneg.1 floor
      have right := sum_map_min_nonneg nonneg.2.2 floor
      have few : ((before ++ a :: after).filter (0 < ·)).length ≤ 1 := by
        rw [List.filter_append, filter_pos_eq_nil nonneg.1 positive (by linarith),
          List.filter_cons_of_pos (by simpa using positive.trans above),
          filter_pos_eq_nil nonneg.2.2 positive (by linarith)]
        exact le_rfl
      exact .inr (.inr few)
  · rintro (rfl | within | few)
    · have none_left : ∀ a ∈ amounts.map (min · (0 : ℚ)), a = 0 :=
        List.forall_mem_map.2 fun a member => min_eq_right (nonneg a member)
      rw [List.sum_eq_zero none_left]
    · calc (amounts.map (min · cap)).sum
        _ ≤ (amounts.map id).sum := List.sum_le_sum fun a _ => min_le_left a cap
        _ = amounts.sum := by rw [List.map_id]
        _ ≤ cap := within
    · rw [← sum_map_min_filter nonneg floor]
      apply sum_le_of_length_le_one
      · rwa [List.length_map]
      · exact floor
      · exact List.forall_mem_map.2 fun a _ => min_le_right a cap

end Capped

/-! ### Credits of one kind -/

/-- What the claims of a kind of credit ask for, in the order of the claims. -/
def DeclarationContent.claimedAmounts (content : DeclarationContent) (type : CreditType) : List ℚ :=
  (content.credits.filter (·.creditType = type)).map (·.amount.toRat)

namespace Resolution

/-- What credits of a kind amount to before phase-out. -/
def basesOf (type : CreditType) (credits : List ResolvedCredit) : List ℚ :=
  (credits.filter (·.creditType = type)).map (·.base.toRat)

theorem basesOf_append (type : CreditType) (credits credits' : List ResolvedCredit) :
    basesOf type (credits ++ credits') = basesOf type credits ++ basesOf type credits' := by
  rw [basesOf, List.filter_append, List.map_append]
  rfl

variable {rule? : CreditType → Option CreditRule} {eligibility : Eligibility}
  {totalIncome : Decimal} {type : CreditType} {rule : CreditRule} {credit : ResolvedCredit}

/-- Each claim of a kind that is granted is capped alone. -/
theorem basesOf_claimed {claims : List CreditClaim} {credits : List ResolvedCredit}
    (found : rule? type = some rule)
    (granted : List.Forall₂ (IsGrantedAs rule? totalIncome) claims credits) :
    basesOf type credits =
      ((claims.filter (·.creditType = type)).map (·.amount.toRat)).map
        (min · rule.maximum.toRat) := by
  induction granted with
  | nil => rfl
  | @cons claim credit claims credits granted _ ih =>
    obtain ⟨rule', found', rfl⟩ := granted
    unfold basesOf at ih ⊢
    -- A claim of another kind adds no base of this kind.
    by_cases same : claim.creditType = type
    · obtain rfl : rule' = rule := by
        rw [same, found] at found'
        exact (Option.some.inj found').symm
      rw [List.filter_cons_of_pos (by simpa using same),
        List.filter_cons_of_pos (by simpa using same), List.map_cons, List.map_cons,
        List.map_cons, ih, Decimal.toRat_min]
    · rw [List.filter_cons_of_neg (by simpa using same),
        List.filter_cons_of_neg (by simpa using same), ih]

variable {rules : OrderedMap CreditType CreditRule} {claims : List CreditClaim}

theorem automatic_of_mem (member : credit ∈ automaticCredits rules eligibility totalIncome claims) :
    ∃ rule, rules.find? credit.creditType = some rule ∧ credit.base = rule.maximum ∧
      ∀ claim ∈ claims, claim.creditType ≠ credit.creditType := by
  rw [automaticCredits_eq_map] at member
  obtain ⟨entry, listed, rfl⟩ := List.mem_map.1 member
  obtain ⟨found, -, unclaimed, -⟩ := mem_automaticRules_iff.1 listed
  exact ⟨entry.2, found, rfl, unclaimed⟩

/-- Automatic credits are of different kinds. -/
theorem nodup_automaticCredits :
    ((automaticCredits rules eligibility totalIncome claims).map (·.creditType)).Nodup := by
  rw [List.Nodup, List.pairwise_map]
  refine ascending_automaticCredits.imp fun lt same => ?_
  rw [same, Std.ReflOrd.compare_self] at lt
  cases lt

theorem length_basesOf_le_one {credits : List ResolvedCredit}
    (distinct : (credits.map (·.creditType)).Nodup) : (basesOf type credits).length ≤ 1 := by
  have counted : (basesOf type credits).length = (credits.map (·.creditType)).count type := by
    rw [basesOf, List.length_map, ← List.countP_eq_length_filter, List.count, List.countP_map]
    rfl
  rw [counted]
  exact List.nodup_iff_count_le_one.1 distinct type

/-- An automatic credit is not claimed. -/
theorem basesOf_automaticCredits_eq_nil (claimed : ∃ claim ∈ claims, claim.creditType = type) :
    basesOf type (automaticCredits rules eligibility totalIncome claims) = [] := by
  obtain ⟨claim, listed, kind⟩ := claimed
  rw [basesOf, List.map_eq_nil_iff, List.filter_eq_nil_iff]
  intro credit member same
  obtain ⟨-, -, -, unclaimed⟩ := automatic_of_mem member
  exact unclaimed claim listed (kind.trans (of_decide_eq_true same).symm)

/-- There is one automatic credit of a kind at most, and it is the maximum of the kind. -/
theorem sum_basesOf_automaticCredits_le (found : rules.find? type = some rule)
    (floor : 0 ≤ rule.maximum.toRat) :
    (basesOf type (automaticCredits rules eligibility totalIncome claims)).sum ≤
      rule.maximum.toRat := by
  apply sum_le_of_length_le_one
  · exact length_basesOf_le_one nodup_automaticCredits
  · exact floor
  · intro base member
    obtain ⟨credit, kept, rfl⟩ := List.mem_map.1 member
    obtain ⟨granted, same⟩ := List.mem_filter.1 kept
    obtain ⟨rule', found', base, -⟩ := automatic_of_mem granted
    rw [of_decide_eq_true same, found] at found'
    cases found'
    rw [base]

end Resolution

namespace Declaration

open Resolution

variable {d : Declaration} {table : RateTable} {r : Resolution} {type : CreditType}
  {rule : CreditRule}

/-- What the credits of a kind amount to in a clean resolution. -/
theorem basesOf_of_resolve (resolved : d.resolve table = .ok r) (clean : r.isClean = true)
    (found : table.creditRule? type = some rule) :
    ∃ totalIncome, basesOf type r.credits =
      (d.content.claimedAmounts type).map (min · rule.maximum.toRat) ++
        basesOf type
          (automaticCredits table.credits d.eligibility totalIncome d.content.credits) := by
  obtain ⟨totalIncome, claimed, -, -, granted, credits⟩ := resolve_clean resolved clean
  refine ⟨totalIncome, ?_⟩
  rw [credits, basesOf_append, basesOf_claimed found granted]
  rfl

/-- The credits of a kind stay within its maximum together, unless several claims of the kind ask for
something and for more than the maximum, which is not zero. -/
theorem sum_basesOf_le_maximum_iff {definition : RateTableDefinition}
    (built : RateTable.ofDefinition definition = .ok table) (valid : d.validate = [])
    (resolved : d.resolve table = .ok r) (clean : r.isClean = true)
    (found : table.creditRule? type = some rule) :
    (basesOf type r.credits).sum ≤ rule.maximum.toRat ↔
      rule.maximum.toRat = 0 ∨ (d.content.claimedAmounts type).sum ≤ rule.maximum.toRat ∨
        ((d.content.claimedAmounts type).filter (0 < ·)).length ≤ 1 := by
  have checked := RateTable.checked_of_ofDefinition built
  have floor : 0 ≤ rule.maximum.toRat :=
    (checked.credits (type, rule) (OrderedMap.mem_entries_of_find? found)).1
  have nonneg : ∀ a ∈ d.content.claimedAmounts type, 0 ≤ a :=
    List.forall_mem_map.2 fun claim member =>
      ((regular_of_validate valid).credits claim (List.mem_of_mem_filter member)).nonneg
  obtain ⟨totalIncome, bases⟩ := basesOf_of_resolve resolved clean found
  rw [bases]
  by_cases claimed : ∃ claim ∈ d.content.credits, claim.creditType = type
  · rw [basesOf_automaticCredits_eq_nil claimed, List.append_nil]
    exact sum_map_min_le_iff nonneg floor
  · -- Without a claim only an automatic credit is left.
    have unclaimed : d.content.claimedAmounts type = [] := by
      rw [DeclarationContent.claimedAmounts, List.map_eq_nil_iff, List.filter_eq_nil_iff]
      intro claim member same
      exact claimed ⟨claim, member, of_decide_eq_true same⟩
    rw [unclaimed, List.map_nil, List.nil_append]
    exact iff_of_true (sum_basesOf_automaticCredits_le found floor) (.inr (.inl floor))

/-! ### Two claims for halves of a year -/

/-- The sample declaration with its foreign income only, and with the general tax credit claimed for
the periods of its two gifts instead of them. -/
def halfYearClaims (amount : Decimal) : Declaration :=
  let d := draft ⟨1⟩ .sample2024
  { d with
    content := { d.content with
      income := d.content.income.filter (·.category = .foreign)
      deductions := []
      credits := d.content.deductions.map fun gift => ⟨.generalTaxCredit, amount, gift.period⟩ } }

/-- What the sample table makes of a declaration, found by evaluation. -/
theorem exists_resolution_of_any {holds : CreditRule → Resolution → Bool}
    (evaluated : (RateTable.ofDefinition .sample2024).toOption.any (fun table =>
      (table.creditRule? type).any fun rule =>
        (d.resolve table).toOption.any fun r => holds rule r) = true) :
    ∃ table rule r, RateTable.ofDefinition .sample2024 = .ok table ∧
      table.creditRule? type = some rule ∧ d.resolve table = .ok r ∧ holds rule r = true := by
  obtain ⟨table, built, evaluated⟩ := exists_ok_of_any evaluated
  cases found : table.creditRule? type with
  | none =>
    rw [found] at evaluated
    cases evaluated
  | some rule =>
    rw [found, Option.any_some] at evaluated
    obtain ⟨r, resolved, evaluated⟩ := exists_ok_of_any evaluated
    exact ⟨table, rule, r, built, found, resolved, evaluated⟩

/-- Two claims that ask for less than the maximum together stay within it. -/
theorem sum_basesOf_le_maximum_of_halfYearClaims :
    let d := halfYearClaims (.unsigned 1500 0)
    ∃ table rule r, RateTable.ofDefinition .sample2024 = .ok table ∧ d.validate = [] ∧
      d.resolve table = .ok r ∧ r.isClean = true ∧
      table.creditRule? .generalTaxCredit = some rule ∧
      (basesOf .generalTaxCredit r.credits).sum ≤ rule.maximum.toRat := by
  intro d
  have valid : d.validate = [] := by decide +kernel
  obtain ⟨table, rule, r, built, found, resolved, holds⟩ :
      ∃ table rule r, RateTable.ofDefinition .sample2024 = .ok table ∧
        table.creditRule? .generalTaxCredit = some rule ∧ d.resolve table = .ok r ∧
        (r.isClean && decide (rule.maximum = .unsigned 3362 0)) = true :=
    exists_resolution_of_any (by decide +kernel)
  rw [Bool.and_eq_true, decide_eq_true_eq] at holds
  have small : (d.content.claimedAmounts .generalTaxCredit).sum ≤ rule.maximum.toRat := by
    rw [holds.2]
    decide +kernel
  exact ⟨table, rule, r, built, valid, resolved, holds.1, found,
    (sum_basesOf_le_maximum_iff built valid resolved holds.1 found).2 (.inr (.inl small))⟩

/-- Two claims of 2000 each are granted as they are, though the maximum is 3362. -/
theorem basesOf_above_maximum :
    let d := halfYearClaims (.unsigned 2000 0)
    ∃ table rule r, RateTable.ofDefinition .sample2024 = .ok table ∧ d.validate = [] ∧
      d.resolve table = .ok r ∧ r.isClean = true ∧
      table.creditRule? .generalTaxCredit = some rule ∧
      rule.maximum.toRat < (basesOf .generalTaxCredit r.credits).sum ∧
      rule.maximum.toRat < ((r.credits.filter (·.creditType = .generalTaxCredit)).map
        (·.amount.toRat)).sum := by
  intro d
  obtain ⟨table, rule, r, built, found, resolved, holds⟩ :
      ∃ table rule r, RateTable.ofDefinition .sample2024 = .ok table ∧
        table.creditRule? .generalTaxCredit = some rule ∧ d.resolve table = .ok r ∧
        (r.isClean && decide (rule.maximum.toRat < (basesOf .generalTaxCredit r.credits).sum) &&
          decide (rule.maximum.toRat < ((r.credits.filter (·.creditType = .generalTaxCredit)).map
            (·.amount.toRat)).sum)) = true :=
    exists_resolution_of_any (by decide +kernel)
  simp only [Bool.and_eq_true, decide_eq_true_eq] at holds
  exact ⟨table, rule, r, built, by decide +kernel, resolved, holds.1.1, found, holds.1.2, holds.2⟩

end Declaration

end IncomeTax

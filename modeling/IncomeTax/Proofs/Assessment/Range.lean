import IncomeTax.Proofs.Assessment.Exact
import IncomeTax.Proofs.Decimal.Nearest
import IncomeTax.Proofs.Declaration.PhaseOut

/-!
# Assessments stay in range

Validation bounds the amounts of a declaration and the number of its claims, and resolution never
fails on an amount. So the calculation of a valid declaration has a result under every table whose
credits are bounded, though bracket bounds and ceilings may be as large as amounts can be and have as
many decimals, and though sums and products are rounded. The tax of many brackets cannot be bounded
bracket by bracket; it is bounded along the stack of brackets, as a total of the incomes they tax.

## Main definitions

* `Resolution.Bounded` — the amounts and the number of granted claims

## Main results

* `RateTable.exists_bracketTax?` — the tax on an income up to `10 ^ 22` is in range
* `Declaration.bounded_of_resolve` — granted claims are bounded
* `Declaration.assess_in_range` — no assessment overflows
-/

namespace IncomeTax

open Decimal (Within IsTotal)

/-! ### Bracket tax -/

namespace TaxBracket

variable {b : TaxBracket} {above : List TaxBracket} {income : Decimal}

/-- On top of a base tax that is a total of the income below, a bracket makes a total of the income.
Twice the excess for its own rounding, and twice that for the rounding of the product. -/
theorem exists_taxUpTo? (fraction : RateTable.isFraction b.rate = true)
    (floor : 0 ≤ b.lowerBound.toRat) (base : IsTotal (4 * b.lowerBound.toRat) b.baseTax)
    (le : b.lowerBound.toRat ≤ income.toRat) (small : income.toRat ≤ 10 ^ 22) :
    ∃ tax, b.taxUpTo? income = some tax ∧ IsTotal (4 * income.toRat) tax := by
  obtain ⟨nonneg, atMostOne⟩ := RateTable.isFraction_iff.1 fraction
  have width : 0 ≤ income.toRat - b.lowerBound.toRat := sub_nonneg.2 le
  have widthInRange : |income.toRat - b.lowerBound.toRat| ≤ 2 ^ 96 - 1 := by
    rw [abs_of_nonneg width]
    norm_num at small ⊢
    linarith
  obtain ⟨excess, subtracted, near⟩ := Decimal.exists_nearest_sub? widthInRange
  have above := near.nonneg width
  have doubled := near.le_two_mul width
  have product : 0 ≤ excess.toRat * b.rate.toRat := mul_nonneg above nonneg
  have taxed : excess.toRat * b.rate.toRat ≤ excess.toRat := mul_le_of_le_one_right above atMostOne
  have productInRange : |excess.toRat * b.rate.toRat| ≤ 2 ^ 96 - 1 := by
    rw [abs_of_nonneg product]
    norm_num at small ⊢
    linarith
  obtain ⟨tax, multiplied, near'⟩ := Decimal.exists_nearest_mul? productInRange
  have twice := near'.le_two_mul product
  have bounded : tax.toRat ≤ 4 * (income.toRat - b.lowerBound.toRat) := by linarith
  obtain ⟨total, added, isTotal⟩ := base.add? (by positivity) (near'.nonneg product) bounded
    (by norm_num at small ⊢; linarith)
  rw [← mul_add, add_sub_cancel] at isTotal
  refine ⟨total, ?_, isTotal⟩
  simp only [taxUpTo?, subtracted, multiplied, added, Option.bind_eq_bind, Option.bind_some]

/-- Up to an income in range, the base tax of each stacked bracket is a total of the income below. -/
theorem Stacked.isTotal_baseTax (stacked : Stacked b above) (floor : 0 ≤ b.lowerBound.toRat)
    (base : IsTotal (4 * b.lowerBound.toRat) b.baseTax) :
    ∀ b' ∈ b :: above, b'.lowerBound.toRat ≤ 10 ^ 22 →
      IsTotal (4 * b'.lowerBound.toRat) b'.baseTax := by
  induction stacked with
  | top => simpa using fun _ => base
  | @beneath b next above upper fraction bound increasing joined derived stacked ih =>
    rw [List.forall_mem_cons]
    refine ⟨fun _ => base, fun b' member small => ?_⟩
    -- Below a bracket in range all bounds are in range.
    have reached : upper.toRat ≤ 10 ^ 22 :=
      joined.ge.trans ((stacked.lowerBound_le b' member).trans small)
    obtain ⟨tax, found, total⟩ := exists_taxUpTo? fraction floor base increasing.le reached
    rw [derived] at found
    cases found
    rw [← joined] at total
    exact ih (joined ▸ floor.trans increasing.le) total b' member small

end TaxBracket

namespace RateTable

variable {t : RateTable} {income : Decimal}

/-- The tax on an income in range is in range, whatever the bounds of the brackets. -/
theorem exists_bracketTax? (checked : t.Checked) (floor : 0 ≤ income.toRat)
    (small : income.toRat ≤ 10 ^ 22) :
    ∃ tax, t.bracketTax? income = some tax ∧ 0 ≤ tax.toRat ∧ tax.toRat ≤ 10 ^ 28 := by
  obtain ⟨first, above, brackets, start, base, stacked⟩ := checked.stacked
  have alike : Decimal.Alike Decimal.zero first.baseTax := .inl base.symm
  obtain ⟨b, found, sums⟩ := foldlM_addContribution?_alike stacked alike start.ge
    (start.le.trans floor)
  have member := List.mem_of_find?_eq_some found
  have contains := List.find?_some found
  rw [TaxBracket.contains, Bool.and_eq_true, decide_eq_true_eq, Decimal.le_iff_toRat] at contains
  have total : IsTotal (4 * first.lowerBound.toRat) first.baseTax := by
    rw [start, mul_zero, base]
    exact Decimal.isTotal_zero
  obtain ⟨tax, derived, total⟩ := TaxBracket.exists_taxUpTo? (stacked.fraction b member)
    (start.ge.trans (stacked.lowerBound_le b member))
    (stacked.isTotal_baseTax start.ge total b member (contains.1.trans small)) contains.1 small
  rw [bracketTax?_eq_foldlM, brackets]
  rw [derived] at sums
  generalize (first :: above).foldlM (addContribution? income) Decimal.zero = sum at sums ⊢
  cases sums with
  | @some tax' _ same =>
    refine ⟨tax', rfl, ?_⟩
    rw [same.toRat_eq]
    exact ⟨total.nonneg, total.le_of_le (by norm_num at small ⊢; linarith)⟩

end RateTable

/-! ### Granted claims -/

namespace Resolution

/-- Granted claims that are few and bounded, whatever their decimals. -/
structure Bounded (r : Resolution) : Prop where
  deductions : ∀ deduction ∈ r.deductions, 0 ≤ deduction.allowed.toRat ∧
    deduction.allowed.toRat ≤ 10 ^ 12
  credits : ∀ credit ∈ r.credits, 0 ≤ credit.amount.toRat ∧ credit.amount.toRat ≤ 10 ^ 12
  few_deductions : r.deductions.length ≤ Validation.claimLimit
  few_credits : r.credits.length ≤ Validation.claimLimit + 5

end Resolution

namespace Declaration

open Resolution

variable {d : Declaration} {table : RateTable} {r : Resolution}

/-- What is granted of regular contents is bounded when the maxima of credits are. -/
theorem bounded_of_resolve (regular : d.content.Regular) (checked : table.Checked)
    (maxima : ∀ entry ∈ table.credits.entries, entry.2.maximum ≤ Validation.greatestAmount)
    (resolved : d.resolve table = .ok r) : r.Bounded := by
  obtain ⟨-, deductions, -⟩ := resolve_cases resolved
  obtain ⟨few_deductions, few_credits⟩ := few_of_resolve regular resolved
  refine
    { deductions := fun deduction member => ?_
      credits := fun credit member => ?_
      few_deductions := few_deductions
      few_credits := few_credits }
  · rw [deductions] at member
    obtain ⟨claim, listed, rule, used, same⟩ := exists_claim_of_granted 0 deduction member
    have claimed := regular.deductions claim listed
    obtain ⟨nonneg, le⟩ := allowed_bounds rule used claimed.nonneg
    rw [same]
    exact ⟨nonneg, (le.trans claimed.le).trans (by norm_num)⟩
  · obtain ⟨total, -, entry, listed, amount, base⟩ := exists_entry_of_credit resolved credit member
    obtain ⟨floor, rules⟩ := checked.credits entry listed
    have greatest := Decimal.le_iff_toRat.1 (maxima entry listed)
    rw [Validation.toRat_greatestAmount] at greatest
    have rates (rule : PhaseOut) (found : rule ∈ entry.2.phaseOut) : 0 ≤ rule.rate.toRat :=
      (RateTable.isFraction_iff.1 (rules rule found).2).1
    -- A credit starts from its claim or from the maximum of its kind, and only falls from there.
    have bounds : 0 ≤ credit.base.toRat ∧ credit.base.toRat ≤ 99999999999999 / 100 := by
      rcases base with maximum | ⟨claim, claimed, capped⟩
      · exact maximum ▸ ⟨floor, greatest⟩
      · have money := regular.credits claim claimed
        rw [capped, Decimal.toRat_min]
        exact ⟨le_min money.nonneg floor, (min_le_left _ _).trans money.le⟩
    obtain ⟨kept, left⟩ := creditAfterPhaseOut_bounds rates bounds.1 total
    rw [amount]
    exact ⟨kept, (left.trans bounds.2).trans (by norm_num)⟩

/-! ### The calculation -/

theorem exists_bounded_total {α : Type} {items : List α} {amount : α → Decimal}
    (bounds : ∀ item ∈ items, 0 ≤ (amount item).toRat ∧ (amount item).toRat ≤ 10 ^ 12)
    (few : items.length ≤ Validation.claimLimit + 5) :
    ∃ total, Decimal.sum? (items.map amount) = some total ∧ 0 ≤ total.toRat ∧
      total.toRat ≤ 10 ^ 28 := by
  have le : (items.length : ℚ) ≤ 2085 := by exact_mod_cast few
  refine Decimal.exists_sum?_of_bounded
    (List.forall_mem_map.2 fun item member => (bounds item member).1)
    (List.forall_mem_map.2 fun item member => (bounds item member).2) ?_
  rw [List.length_map]
  norm_num
  linarith

/-- The calculation of regular contents has a result, whatever is granted of them. -/
theorem exists_calculation?_of_bounded (regular : d.content.Regular) (granted : r.Bounded)
    (many : d.content.income.length ≤ 10 ^ 10) (checked : table.Checked) :
    ∃ c, d.calculation? table r = some c := by
  -- Income and withholding are sums of whole cents, so they are exact.
  obtain ⟨totals, totalIncome, found, -, added, -, incomeWithin⟩ := exists_totalIncome regular many
  obtain ⟨withheld, totalled, -, withheldWithin⟩ := exists_withholding regular many
  have incomeSmall : totalIncome.toRat ≤ (10 ^ 22 : ℤ) := by
    have le : (d.content.income.length : ℚ) ≤ 10 ^ 10 := by exact_mod_cast many
    have bound := incomeWithin.le
    push_cast
    norm_num at bound ⊢
    linarith
  -- Everything else may be rounded on the way.
  obtain ⟨deductions, deducted, deductionsFloor, -⟩ := exists_bounded_total granted.deductions
    (Nat.le_add_right_of_le granted.few_deductions)
  obtain ⟨taxable, subtracted, near⟩ :=
    Decimal.exists_nearest_sub?_of_nonneg incomeWithin.nonneg deductionsFloor
  have taxableFloor : 0 ≤ taxable.nonNegative.toRat := by
    rw [Decimal.toRat_nonNegative]
    exact le_max_left 0 _
  have taxableSmall : taxable.nonNegative.toRat ≤ 10 ^ 22 := by
    have le := near.le_of_le ((sub_le_self _ deductionsFloor).trans incomeSmall)
    rw [Decimal.toRat_nonNegative]
    exact max_le (by norm_num) (by exact_mod_cast le)
  obtain ⟨before, taxed, beforeFloor, -⟩ :=
    RateTable.exists_bracketTax? checked taxableFloor taxableSmall
  obtain ⟨parts, contributed, summed⟩ := Option.bind_eq_some_iff.1 taxed
  obtain ⟨credits, credited, creditsFloor, -⟩ := exists_bounded_total granted.credits
    granted.few_credits
  -- From here on there are only differences of amounts that are not negative.
  obtain ⟨after, reduced⟩ := Decimal.exists_sub? beforeFloor creditsFloor
  have afterFloor : 0 ≤ after.nonNegative.toRat := by
    rw [Decimal.toRat_nonNegative]
    exact le_max_left 0 _
  obtain ⟨applied, difference⟩ := Decimal.exists_sub? beforeFloor afterFloor
  obtain ⟨net, settled⟩ := Decimal.exists_sub? afterFloor withheldWithin.nonneg
  simp only [calculation?, Resolution.totalDeductions?, Resolution.totalCredits?, found, added,
    deducted, subtracted, contributed, summed, credited, reduced, difference, totalled, settled,
    Option.bind_eq_bind, Option.bind_some]
  exact ⟨_, rfl⟩

theorem calculate_eq_overflow_iff : d.calculate table r = .error .overflow ↔
    d.rateTableKey = table.key ∧ d.calculation? table r = none := by
  unfold calculate
  split
  next differ => simp [differ]
  next same =>
    simp only [not_not.1 same, true_and]
    cases d.calculation? table r <;> simp [FilingError.ofOption]

/-- An assessment overflows only in the calculation of a valid declaration. -/
theorem assess_eq_overflow_iff : d.assess table = .error .overflow ↔
    d.validate = [] ∧ ∃ r, d.resolve table = .ok r ∧ r.isClean = true ∧
      d.rateTableKey = table.key ∧ d.calculation? table r = none := by
  simp only [← calculate_eq_overflow_iff]
  unfold assess
  cases d.validate with
  | cons => cases d.resolve table <;> simp
  | nil =>
    cases d.resolve table with
    | error => simp
    | ok r => cases clean : r.isClean <;> simp [clean]

/-- No assessment overflows, of a declaration with up to `10 ^ 10` income records under a table whose
credits have maxima in the range of amounts: every declaration, valid or not, is answered with a
result or with an error that says what is wrong with it. For a valid declaration each step of the
calculation has a result, whatever its claims are resolved to. -/
theorem assess_in_range {definition : RateTableDefinition}
    (built : RateTable.ofDefinition definition = .ok table)
    (maxima : ∀ entry ∈ table.credits.entries, entry.2.maximum ≤ Validation.greatestAmount)
    (many : d.content.income.length ≤ 10 ^ 10) :
    d.assess table ≠ .error .overflow ∧
      (d.validate = [] → ∀ r, d.resolve table = .ok r →
        ∃ c, d.calculation? table r = some c) := by
  have checked := RateTable.checked_of_ofDefinition built
  have calculated (valid : d.validate = []) (r : Resolution) (resolved : d.resolve table = .ok r) :
      ∃ c, d.calculation? table r = some c := by
    have regular := regular_of_validate valid
    exact exists_calculation?_of_bounded regular
      (bounded_of_resolve regular checked maxima resolved) many checked
  refine ⟨fun overflowed => ?_, calculated⟩
  obtain ⟨valid, r, resolved, -, -, missing⟩ := assess_eq_overflow_iff.1 overflowed
  obtain ⟨c, found⟩ := calculated valid r resolved
  rw [missing] at found
  cases found

end Declaration

/-! ### The largest bounds and amounts -/

/-- The sample table with a single bound, which is the greatest amount, and the same ceiling. -/
def RateTableDefinition.sampleWide : RateTableDefinition :=
  { sample2024 with
    brackets :=
      [⟨.zero, some .greatest, .unsigned 3697 4⟩, ⟨.greatest, none, .unsigned 495 3⟩]
    deductions := .ofList [(.gifts, ⟨some .greatest, false⟩)] }

/-- The sample declaration with the greatest and the least amount as further income. -/
def NewDeclaration.sampleExtreme : NewDeclaration :=
  { sample2024 with
    content := { sample2024.content with
      income := sample2024.content.income.flatMap fun record =>
        [record, { record with grossAmount := .greatest }, { record with withholding := .least }] } }

namespace Declaration

/-- Under the widest table the sample declaration is assessed, and the one with extreme amounts is
answered with errors, though its income cannot be added up. -/
theorem assess_in_range_of_sampleWide :
    let d := draft ⟨1⟩ .sample2024
    let d' := draft ⟨2⟩ .sampleExtreme
    ∃ table, RateTable.ofDefinition .sampleWide = .ok table ∧
      (∀ entry ∈ table.credits.entries, entry.2.maximum ≤ Validation.greatestAmount) ∧
      d.content.income.length ≤ 10 ^ 10 ∧ d'.content.income.length ≤ 10 ^ 10 ∧
      d.validate = [] ∧ (∀ r, d.resolve table = .ok r → ∃ c, d.calculation? table r = some c) ∧
      d'.content.grossIncome? = none ∧ d'.assess table ≠ .error .overflow := by
  intro d d'
  have few : d.content.income.length ≤ 10 ^ 10 := by decide +kernel
  have few' : d'.content.income.length ≤ 10 ^ 10 := by decide +kernel
  have valid : d.validate = [] := by decide +kernel
  obtain ⟨table, built, maxima⟩ : ∃ table, RateTable.ofDefinition .sampleWide = .ok table ∧
      decide (∀ entry ∈ table.credits.entries,
        entry.2.maximum ≤ Validation.greatestAmount) = true :=
    exists_ok_of_any (by decide +kernel)
  rw [decide_eq_true_eq] at maxima
  obtain ⟨-, calculated⟩ := assess_in_range built maxima few
  obtain ⟨inRange, -⟩ := assess_in_range built maxima few'
  exact ⟨table, built, maxima, few, few', valid, calculated valid, by decide +kernel, inRange⟩

end Declaration

end IncomeTax

import IncomeTax.Proofs.Assessment.ExactTax

/-!
# What is left of extra income

Each bracket takes a fraction of what its portion of the income grows by, and all portions together
grow by the extra income. So the tax rises with income, but never by more than the income does,
wherever the two incomes lie and whether the rates rise or fall from bracket to bracket. There is no
jump at a bound: across it, too, the tax changes by no more than the income.

With bracket bounds and incomes of at most two decimals the direct tax is not rounded, so this holds
of the amounts that are calculated.

## Main results

* `RateTable.exactTax_mono`, `RateTable.exactTax_sub_le` — the tax without rounding
* `RateTable.directTax?_extra` — the tax that is calculated
-/

namespace IncomeTax

variable {p q : ℚ}

theorem TaxBracket.portion_mono (b : TaxBracket) (le : p ≤ q) : b.portion p ≤ b.portion q := by
  unfold portion
  cases b.upperBound with
  | none => exact max_le_max_left 0 (sub_le_sub_right le _)
  | some upper => exact max_le_max_left 0 (sub_le_sub_right (min_le_min_right _ le) _)

namespace RateTable

variable {t : RateTable}

theorem exactTax_mono (checked : t.Checked) (le : p ≤ q) : t.exactTax p ≤ t.exactTax q := by
  refine List.sum_le_sum fun b member => ?_
  have rate := (isFraction_iff.1 (checked.fraction b member)).1
  exact mul_le_mul_of_nonneg_left (b.portion_mono le) rate

/-- No more than the extra income is taken. -/
theorem exactTax_sub_le (checked : t.Checked) (nonneg : 0 ≤ p) (le : p ≤ q) :
    t.exactTax q - t.exactTax p ≤ q - p := by
  -- What is left of an income, bracket by bracket, rises with it.
  have left (b : TaxBracket) (member : b ∈ t.brackets) :
      b.rate.toRat * b.portion q + b.portion p ≤ b.rate.toRat * b.portion p + b.portion q := by
    have rate := (isFraction_iff.1 (checked.fraction b member)).2
    have grown := mul_le_of_le_one_left (sub_nonneg.2 (b.portion_mono le)) rate
    rw [mul_sub] at grown
    linarith
  have total := List.sum_le_sum left
  rw [List.sum_map_add, List.sum_map_add, checked.sum_portion nonneg,
    checked.sum_portion (nonneg.trans le)] at total
  change t.exactTax q + p ≤ t.exactTax p + q at total
  linarith

/-- The direct tax of a checked table with moderate brackets is calculated without rounding. -/
theorem exists_directTax? (checked : t.Checked) (moderate : t.ModerateBrackets) {income : Decimal}
    (within : Decimal.Within 2 (10 ^ 18) income.toRat) :
    ∃ tax, t.directTax? income = some tax ∧ tax.toRat = t.exactTax income.toRat := by
  have value := map_toRat_bracketTax? checked moderate within
  rw [map_toRat_bracketTax?_eq checked within.nonneg] at value
  exact Option.map_eq_some_iff.1 value

/-- Both of two incomes are taxed, and the tax on the higher one exceeds the tax on the lower one by
no less than nothing and no more than the extra income. -/
theorem directTax?_extra {definition : RateTableDefinition}
    (built : ofDefinition definition = .ok t) (moderate : t.ModerateBrackets)
    {income income' : Decimal} (floor : .zero ≤ income) (le : income ≤ income')
    (small : income'.toRat ≤ 10 ^ 18) (cents : income.trimmedScale ≤ 2)
    (cents' : income'.trimmedScale ≤ 2) :
    ∃ tax tax', t.directTax? income = some tax ∧ t.directTax? income' = some tax' ∧
      0 ≤ tax'.toRat - tax.toRat ∧
      tax'.toRat - tax.toRat ≤ income'.toRat - income.toRat := by
  have checked := checked_of_ofDefinition built
  rw [Decimal.le_iff_toRat, Decimal.toRat_zero] at floor
  rw [Decimal.le_iff_toRat] at le
  have within : Decimal.Within 2 (10 ^ 18) income.toRat :=
    ⟨floor, by exact_mod_cast le.trans small, Decimal.trimmedScale_le_iff.1 cents⟩
  have within' : Decimal.Within 2 (10 ^ 18) income'.toRat :=
    ⟨floor.trans le, by exact_mod_cast small, Decimal.trimmedScale_le_iff.1 cents'⟩
  obtain ⟨tax, found, value⟩ := exists_directTax? checked moderate within
  obtain ⟨tax', found', value'⟩ := exists_directTax? checked moderate within'
  refine ⟨tax, tax', found, found', ?_, ?_⟩
  · rw [value, value']
    exact sub_nonneg.2 (exactTax_mono checked le)
  · rw [value, value']
    exact exactTax_sub_le checked floor le

end RateTable

/-- The sample table with everything taken in the lowest bracket, and less and less above it. -/
def RateTableDefinition.sampleFalling : RateTableDefinition :=
  { sample2024 with
    brackets :=
      [⟨.zero, some (.unsigned 10000 0), .one⟩,
        ⟨.unsigned 10000 0, some (.unsigned 7551849 2), .unsigned 5 1⟩,
        ⟨.unsigned 7551849 2, none, .unsigned 1 8⟩] }

/-- From a cent below the first bound to a cent above the second one. -/
theorem RateTable.directTax?_extra_of_sampleFalling :
    let income := Decimal.unsigned 999999 2
    let income' := Decimal.unsigned 7551850 2
    ∃ t tax tax', ofDefinition .sampleFalling = .ok t ∧ t.ModerateBrackets ∧
      Decimal.zero ≤ income ∧ income ≤ income' ∧ income'.toRat ≤ 10 ^ 18 ∧
      income.trimmedScale ≤ 2 ∧ income'.trimmedScale ≤ 2 ∧
      t.directTax? income = some tax ∧ t.directTax? income' = some tax' ∧
      0 ≤ tax'.toRat - tax.toRat ∧
      tax'.toRat - tax.toRat ≤ income'.toRat - income.toRat := by
  intro income income'
  obtain ⟨t, built, moderate⟩ :
      ∃ t, ofDefinition .sampleFalling = .ok t ∧ decide t.ModerateBrackets = true :=
    exists_ok_of_any (by decide +kernel)
  rw [decide_eq_true_eq] at moderate
  have floor : Decimal.zero ≤ income := by decide +kernel
  have le : income ≤ income' := by decide +kernel
  have small : income'.toRat ≤ 10 ^ 18 := by decide +kernel
  have cents : income.trimmedScale ≤ 2 := by decide +kernel
  have cents' : income'.trimmedScale ≤ 2 := by decide +kernel
  obtain ⟨tax, tax', taxes⟩ := directTax?_extra built moderate floor le small cents cents'
  exact ⟨t, tax, tax', built, moderate, floor, le, small, cents, cents', taxes⟩

end IncomeTax

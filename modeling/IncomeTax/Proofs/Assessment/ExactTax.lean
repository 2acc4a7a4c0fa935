import IncomeTax.Proofs.Assessment.BracketTax

/-!
# Bracket tax without rounding

Each bracket taxes its portion of the income at its rate. The portions of stacked brackets make up
the income, so the tax never exceeds it; with moderate brackets every product and every
sum fits, and the tax that is calculated is the exact one.

## Main definitions

* `TaxBracket.portion` — the part of an income that lies in the bracket
* `BracketContribution.Exact` — that part and the tax on it
* `RateTable.exactTax` — rate times portion, added up over the brackets

## Main results

* `TaxBracket.Stacked.sum_portion`, `RateTable.Checked.sum_portion` — the portions make up the income
* `RateTable.exactTax_le` — so the tax does not exceed it
* `RateTable.exists_contributions?` — what each bracket contributes
* `RateTable.map_toRat_bracketTax?` — the calculated tax is the exact tax
-/

namespace IncomeTax

open Decimal (Within)

namespace TaxBracket

variable {b : TaxBracket} {above : List TaxBracket} {income : Decimal} {q : ℚ}

/-- The part of an income that lies in the bracket. -/
def portion (b : TaxBracket) (income : ℚ) : ℚ :=
  max 0 ((b.upperBound.elim income fun upper => min income upper.toRat) - b.lowerBound.toRat)

theorem portion_nonneg (b : TaxBracket) (q : ℚ) : 0 ≤ b.portion q := le_max_left 0 _

theorem toRat_ceiling (b : TaxBracket) (income : Decimal) :
    (b.ceiling income).toRat =
      b.upperBound.elim income.toRat fun upper => min income.toRat upper.toRat := by
  unfold ceiling
  cases b.upperBound with
  | none => rfl
  | some upper => exact (Decimal.toRat_min upper income).trans (min_comm _ _)

/-- The portions of stacked brackets make up what lies above the lower bound of the lowest one. -/
theorem Stacked.sum_portion (stacked : Stacked b above) (q : ℚ) :
    ((b :: above).map (·.portion q)).sum = max 0 (q - b.lowerBound.toRat) := by
  induction stacked with
  | top _ opened => simp [portion, opened]
  | @beneath b next above upper _ bound increasing joined _ _ ih =>
    have here : b.portion q = max 0 (min q upper.toRat - b.lowerBound.toRat) := by
      rw [portion, bound]
      rfl
    rw [List.map_cons, List.sum_cons, here, ih, joined]
    -- An income either ends in this bracket or fills it.
    rcases le_total q upper.toRat with le | le
    · rw [min_eq_left le, max_eq_left (sub_nonpos.2 le), add_zero]
    · rw [min_eq_right le, max_eq_right (sub_nonneg.2 increasing.le),
        max_eq_right (sub_nonneg.2 le), max_eq_right (sub_nonneg.2 (increasing.le.trans le))]
      ring

theorem within_portion (exact_ : b.Exact) (within : Within 2 (10 ^ 18) q) :
    Within 2 (10 ^ 18) (b.portion q) := by
  unfold portion
  cases bound : b.upperBound with
  | none => exact within.max_zero_sub exact_.lower
  | some upper =>
    have top := exact_.upper upper bound
    exact (within.min top.nonneg top.mem_grid).max_zero_sub exact_.lower

theorem within_rate_mul_portion (exact_ : b.Exact) (within : Within 2 (10 ^ 18) q) :
    Within 10 (10 ^ 18) (b.rate.toRat * b.portion q) :=
  (exact_.rate.mul (within_portion exact_ within)).mono (by norm_num) (by norm_num)

end TaxBracket

/-- The part of an income that a bracket taxes, and its tax. -/
structure BracketContribution.Exact (part : BracketContribution) (b : TaxBracket) (income : ℚ) :
    Prop where
  lowerBound_eq : part.lowerBound = b.lowerBound
  upperBound_eq : part.upperBound = b.upperBound
  rate_eq : part.rate = b.rate
  taxableAmount : part.taxableAmount.toRat = b.portion income
  tax : part.tax.toRat = b.rate.toRat * b.portion income

namespace RateTable

variable {t : RateTable} {b : TaxBracket} {income total : Decimal} {q : ℚ}

/-- The tax on an income: the rate of each bracket times the portion of the income in it. -/
def exactTax (t : RateTable) (income : ℚ) : ℚ :=
  (t.brackets.map fun b => b.rate.toRat * b.portion income).sum

/-- The contribution of a bracket is its portion of the income, taxed at its rate, without rounding.
A bracket without a portion contributes nothing. -/
theorem contribution?_cases (exact_ : b.Exact) (within : Within 2 (10 ^ 18) income.toRat) :
    (b.portion income.toRat = 0 ∧ contribution? income b = some none) ∨
      (0 < b.portion income.toRat ∧ ∃ part, contribution? income b = some (some part) ∧
        part.Exact b income.toRat) := by
  have ceiling : Within 10 (10 ^ 18) (b.ceiling income).toRat := by
    rw [TaxBracket.toRat_ceiling]
    cases bound : b.upperBound with
    | none => exact within.mono (by norm_num) le_rfl
    | some upper =>
      have top := exact_.upper upper bound
      exact (within.min top.nonneg top.mem_grid).mono (by norm_num) le_rfl
  obtain ⟨excess, found, value⟩ := Option.map_eq_some_iff.1 (Decimal.map_toRat_sub? (by norm_num)
    (ceiling.fits_sub (exact_.lower.mono (by norm_num) (by norm_num))))
  have amount : excess.nonNegative.toRat = b.portion income.toRat := by
    rw [Decimal.toRat_nonNegative, value, TaxBracket.toRat_ceiling]
    rfl
  rw [contribution?_eq, found, Option.bind_some]
  split_ifs with empty
  · rw [Decimal.isZero_iff_toRat, amount] at empty
    exact .inl ⟨empty, rfl⟩
  · rw [Decimal.isZero_iff_toRat, amount] at empty
    have product : Within 10 (10 ^ 18) (excess.nonNegative.toRat * b.rate.toRat) := by
      rw [amount, mul_comm]
      exact TaxBracket.within_rate_mul_portion exact_ within
    obtain ⟨tax, multiplied, taxed⟩ :=
      Option.map_eq_some_iff.1 (Decimal.map_toRat_mul? (by norm_num) product.fits)
    rw [amount, mul_comm] at taxed
    rw [multiplied]
    exact .inr ⟨(b.portion_nonneg _).lt_of_ne' empty, _, rfl, rfl, rfl, rfl, amount, taxed⟩

/-- The brackets that have a portion of the income contribute, in their order. -/
theorem exists_contributions? (exact_ : ∀ b ∈ t.brackets, b.Exact)
    (within : Within 2 (10 ^ 18) income.toRat) :
    ∃ parts, t.contributions? income = some parts ∧
      List.Forall₂ (fun b part => part.Exact b income.toRat)
        (t.brackets.filter fun b => 0 < b.portion income.toRat) parts := by
  unfold contributions?
  revert exact_
  induction t.brackets with
  | nil => exact fun _ => ⟨[], rfl, .nil⟩
  | cons b rest ih =>
    intro exact_
    rw [List.forall_mem_cons] at exact_
    obtain ⟨parts, found, exactParts⟩ := ih exact_.2
    obtain ⟨answers, mapped, rfl⟩ := Option.map_eq_some_iff.1 found
    rw [List.mapM_cons, mapped]
    rcases contribution?_cases exact_.1 within with
      ⟨empty, here⟩ | ⟨positive, part, here, exactPart⟩
    · rw [List.filter_cons_of_neg (by simp [empty]), here]
      exact ⟨_, rfl, exactParts⟩
    · rw [List.filter_cons_of_pos (by simpa using positive), here]
      exact ⟨_, rfl, .cons exactPart exactParts⟩

/-- One contribution is added without rounding. -/
theorem map_toRat_addContribution? (exact_ : b.Exact) (within : Within 2 (10 ^ 18) income.toRat)
    (fits : Decimal.Fits 10 (total.toRat + b.rate.toRat * b.portion income.toRat)) :
    (addContribution? income total b).map Decimal.toRat =
      some (total.toRat + b.rate.toRat * b.portion income.toRat) := by
  rw [addContribution?]
  rcases contribution?_cases exact_ within with ⟨empty, found⟩ | ⟨-, part, found, exactPart⟩
  · -- A bracket without a portion is skipped, and its exact contribution is zero.
    simp [found, empty]
  · rw [found, Option.bind_some, Option.elim_some]
    rw [← exactPart.tax] at fits ⊢
    exact Decimal.map_toRat_add? (by norm_num) fits

theorem exactTax_nonneg (checked : t.Checked) (q : ℚ) : 0 ≤ t.exactTax q := by
  refine List.sum_nonneg (List.forall_mem_map.2 fun b member => ?_)
  exact mul_nonneg (isFraction_iff.1 (checked.fraction b member)).1 (b.portion_nonneg q)

/-- The brackets of a checked table divide an income among them. -/
theorem Checked.sum_portion (checked : t.Checked) (nonneg : 0 ≤ q) :
    (t.brackets.map (·.portion q)).sum = q := by
  obtain ⟨first, above, brackets, start, -, stacked⟩ := checked.stacked
  rw [brackets, stacked.sum_portion, start, sub_zero, max_eq_right nonneg]

/-- The tax does not exceed the income. -/
theorem exactTax_le (checked : t.Checked) (nonneg : 0 ≤ q) : t.exactTax q ≤ q := by
  -- The bound cannot come from the number of brackets, of which there may be any number.
  calc t.exactTax q ≤ (t.brackets.map (·.portion q)).sum :=
        List.sum_le_sum fun b member =>
          mul_le_of_le_one_left (b.portion_nonneg q) (isFraction_iff.1 (checked.fraction b member)).2
    _ = q := checked.sum_portion nonneg

/-- The tax lies between zero and the income. -/
theorem within_exactTax (checked : t.Checked) (moderate : t.ModerateBrackets)
    (within : Within 2 (10 ^ 18) q) : Within 10 (10 ^ 18) (t.exactTax q) := by
  have terms : ∀ b ∈ t.brackets, Within 10 (10 ^ 18) (b.rate.toRat * b.portion q) :=
    fun b member =>
      TaxBracket.within_rate_mul_portion (checked.bracket_exact moderate b member) within
  exact ⟨exactTax_nonneg checked q, (exactTax_le checked within.nonneg).trans within.le,
    list_sum_mem (List.forall_mem_map.2 fun b member => (terms b member).mem_grid)⟩

/-- The tax of a checked table with moderate brackets is calculated without rounding. -/
theorem map_toRat_bracketTax? (checked : t.Checked) (moderate : t.ModerateBrackets)
    (within : Within 2 (10 ^ 18) income.toRat) :
    (t.bracketTax? income).map Decimal.toRat = some (t.exactTax income.toRat) := by
  have exact_ := checked.bracket_exact moderate
  have terms (b : TaxBracket) (member : b ∈ t.brackets) :=
    TaxBracket.within_rate_mul_portion (exact_ b member) within
  have small : (Decimal.zero.toRat + t.exactTax income.toRat) * 10 ^ 10 < 2 ^ 96 := by
    have le := (within_exactTax checked moderate within).le
    rw [Decimal.toRat_zero, zero_add]
    norm_num at le ⊢
    linarith
  have sums := Decimal.map_toRat_foldlM Decimal.zero (by simp) (by simp)
    (fun b member => (terms b member).mem_grid) (fun b member => (terms b member).nonneg)
    (fun b member total fits => map_toRat_addContribution? (exact_ b member) within fits) small
  rw [bracketTax?_eq_foldlM, sums, Decimal.toRat_zero, zero_add]
  rfl

end RateTable

end IncomeTax

import IncomeTax.Assessment.Basic
import IncomeTax.Proofs.Decimal.Exact
import IncomeTax.Proofs.RateTable.Moderate

/-!
# Bracket tax in two ways

The tax on an income is either added up over the brackets that tax part of it, or read off the one
bracket the income falls into, whose base tax stands for the brackets below. Both round the same
products and add them in the same order, so they agree however much is rounded, and one overflows
exactly when the other does. They can differ only in how a zero is written.

## Main definitions

* `Decimal.Alike` — the same amount, or zeros
* `RateTable.bracketTax?` — the tax added up over the brackets

## Main results

* `RateTable.foldlM_addContribution?_alike` — along stacked brackets, the sum so far is the base tax
* `RateTable.map_toRat_bracketTax?_eq` — both ways give one number
-/

namespace IncomeTax

namespace Decimal

variable {a b : Decimal} {x y : Option Decimal}

/-- The same amount, or two zeros in whatever form. -/
def Alike (a b : Decimal) : Prop := a = b ∨ a.isZero = true ∧ b.isZero = true

theorem Alike.refl (a : Decimal) : Alike a a := .inl rfl

theorem Alike.toRat_eq (alike : Alike a b) : a.toRat = b.toRat := by
  rcases alike with rfl | ⟨left, right⟩
  · rfl
  · rw [isZero_iff_toRat.1 left, isZero_iff_toRat.1 right]

theorem map_toRat_eq_of_rel (alike : Option.Rel Alike x y) : x.map toRat = y.map toRat := by
  cases alike with
  | some alike => exact congrArg some alike.toRat_eq
  | none => rfl

theorem rel_alike_refl (x : Option Decimal) : Option.Rel Alike x x := by
  cases x with
  | none => exact .none
  | some a => exact .some (.refl a)

/-- Adding does not tell zeros apart. -/
theorem Alike.add? (alike : Alike a b) (c : Decimal) : Option.Rel Alike (a.add? c) (b.add? c) := by
  rcases alike with rfl | ⟨left, right⟩
  · exact rel_alike_refl _
  · rw [Decimal.add?, Decimal.add?, if_pos left, if_pos right]
    exact .some (.refl c)

/-- Adding a zero is as good as adding nothing. -/
theorem Alike.add?_isZero (alike : Alike a b) {c : Decimal} (empty : c.isZero = true) :
    Option.Rel Alike (some a) (b.add? c) := by
  unfold Decimal.add?
  split_ifs with right
  · rcases alike with rfl | ⟨left, -⟩
    · exact .some (.inr ⟨right, empty⟩)
    · exact .some (.inr ⟨left, empty⟩)
  · exact .some alike

theorem mul?_of_isZero (empty : a.isZero = true) : a.mul? b = some zero := by
  simp [mul?, empty]

end Decimal

namespace TaxBracket

variable {b : TaxBracket} {income upper : Decimal}

/-- Where the part of an income in the bracket ends: at the upper bound or at the income itself. -/
def ceiling (b : TaxBracket) (income : Decimal) : Decimal :=
  match b.upperBound with
  | some upper => upper.min income
  | none => income

theorem ceiling_of_open (opened : b.upperBound = none) : b.ceiling income = income := by
  rw [ceiling, opened]

theorem ceiling_of_lt (bound : b.upperBound = some upper) (lt : income.toRat < upper.toRat) :
    b.ceiling income = income := by
  rw [ceiling, bound]
  exact if_pos (Decimal.lt_iff_toRat.2 lt)

theorem ceiling_of_le (bound : b.upperBound = some upper) (le : upper.toRat ≤ income.toRat) :
    b.ceiling income = upper := by
  rw [ceiling, bound]
  exact if_neg fun lt => not_lt.2 le (Decimal.lt_iff_toRat.1 lt)

end TaxBracket

namespace RateTable

variable {income total : Decimal} {b : TaxBracket} {above : List TaxBracket}

/-- The tax on an income, added up over the brackets, none on overflow. -/
def bracketTax? (t : RateTable) (income : Decimal) : Option Decimal := do
  let parts ← t.contributions? income
  Decimal.sum? (parts.map (·.tax))

/-! ### One bracket -/

/-- The contribution of a bracket added to the tax of those below it. -/
def addContribution? (income total : Decimal) (b : TaxBracket) : Option Decimal :=
  (contribution? income b).bind fun part => part.elim (some total) (total.add? ·.tax)

theorem contribution?_eq (income : Decimal) (b : TaxBracket) :
    contribution? income b =
      ((b.ceiling income).sub? b.lowerBound).bind fun excess =>
        if excess.nonNegative.isZero then some none
        else (excess.nonNegative.mul? b.rate).map fun tax =>
          some ⟨b.lowerBound, b.upperBound, b.rate, excess.nonNegative, tax⟩ := by
  change ((b.ceiling income).sub? b.lowerBound).bind _ = _
  congr 1
  funext excess
  cases empty : excess.nonNegative.isZero with
  | true => simp [empty]
  | false => cases taxed : excess.nonNegative.mul? b.rate <;> simp [empty, taxed]

/-- A bracket that starts at the income or above it contributes nothing. -/
theorem addContribution?_of_le (floor : 0 ≤ income.toRat) (le : income.toRat ≤ b.lowerBound.toRat)
    (ends : b.ceiling income = income) : addContribution? income total b = some total := by
  obtain ⟨excess, found⟩ := Decimal.exists_sub? floor (floor.trans le)
  have below := Decimal.toRat_nonpos_of_sub? found le
  have empty : excess.nonNegative.isZero = true := by
    rw [Decimal.isZero_iff_toRat, Decimal.toRat_nonNegative, max_eq_left below]
  rw [addContribution?, contribution?_eq, ends, found, Option.bind_some, if_pos empty]
  rfl

/-- A bracket that starts below the income adds what the direct tax adds to its base tax. -/
theorem addContribution?_alike (alike : Decimal.Alike total b.baseTax)
    (le : b.lowerBound.toRat ≤ (b.ceiling income).toRat) :
    Option.Rel Decimal.Alike (addContribution? income total b)
      (b.taxUpTo? (b.ceiling income)) := by
  unfold addContribution? TaxBracket.taxUpTo?
  rw [contribution?_eq]
  cases found : (b.ceiling income).sub? b.lowerBound with
  | none => exact .none
  | some excess =>
    have above := Decimal.toRat_nonneg_of_sub? found le
    simp only [Option.bind_some, Option.bind_eq_bind]
    -- At the lower bound itself the walk skips the bracket, while the direct tax adds a zero.
    rcases above.eq_or_lt with touching | above
    · have empty : excess.isZero = true := Decimal.isZero_iff_toRat.2 touching.symm
      have floored : excess.nonNegative.isZero = true := by
        rw [Decimal.isZero_iff_toRat, Decimal.toRat_nonNegative, ← touching, max_self]
      rw [if_pos floored, Decimal.mul?_of_isZero empty]
      exact alike.add?_isZero rfl
    · have kept : excess.nonNegative = excess := by rw [Decimal.nonNegative_eq, if_pos above]
      have nonempty : ¬ excess.isZero = true := fun empty =>
        above.ne' (Decimal.isZero_iff_toRat.1 empty)
      rw [kept, if_neg nonempty]
      cases excess.mul? b.rate with
      | none => exact .none
      | some tax => exact alike.add? tax

/-! ### All brackets -/

/-- The contributions can be added up on the way. -/
theorem foldlM_addContribution?_eq (income total : Decimal) (brackets : List TaxBracket) :
    brackets.foldlM (addContribution? income) total =
      (brackets.mapM (contribution? income)).bind fun parts =>
        ((parts.filterMap id).map (·.tax)).foldlM Decimal.add? total := by
  induction brackets generalizing total with
  | nil => rfl
  | cons b rest ih =>
    rw [List.foldlM_cons, List.mapM_cons, addContribution?]
    cases contribution? income b with
    | none => rfl
    | some part =>
      cases part with
      | none => cases parts : rest.mapM (contribution? income) <;> simp [ih, parts]
      | some part =>
        -- The sum may fail before a later contribution does, or the other way around.
        cases parts : rest.mapM (contribution? income) <;>
          cases sum : total.add? part.tax <;> simp [ih, parts, sum]

theorem bracketTax?_eq_foldlM (t : RateTable) (income : Decimal) :
    t.bracketTax? income = t.brackets.foldlM (addContribution? income) Decimal.zero := by
  rw [foldlM_addContribution?_eq, bracketTax?, contributions?]
  cases t.brackets.mapM (contribution? income) <;> rfl

/-- Stacked brackets that start at the income or above it contribute nothing. -/
theorem foldlM_addContribution?_of_le (stacked : TaxBracket.Stacked b above)
    (floor : 0 ≤ income.toRat) (le : income.toRat ≤ b.lowerBound.toRat) :
    (b :: above).foldlM (addContribution? income) total = some total := by
  induction stacked with
  | top _ opened =>
    rw [List.foldlM_cons, addContribution?_of_le floor le (TaxBracket.ceiling_of_open opened)]
    rfl
  | beneath _ bound increasing joined _ _ ih =>
    have ends := TaxBracket.ceiling_of_lt bound (le.trans_lt increasing)
    rw [List.foldlM_cons, addContribution?_of_le floor le ends]
    exact ih ((le.trans increasing.le).trans joined.ge)

/-- Along stacked brackets the sum so far and the base tax stay alike, up to the one bracket that
the income falls into. -/
theorem foldlM_addContribution?_alike (stacked : TaxBracket.Stacked b above)
    (alike : Decimal.Alike total b.baseTax) (floor : 0 ≤ b.lowerBound.toRat)
    (le : b.lowerBound.toRat ≤ income.toRat) :
    ∃ found, (b :: above).find? (·.contains income) = some found ∧
      Option.Rel Decimal.Alike ((b :: above).foldlM (addContribution? income) total)
        (found.taxUpTo? income) := by
  -- The total so far stands in the place of the base tax, so it varies along the induction.
  induction stacked generalizing total with
  | @top b _ opened =>
    have ends : b.ceiling income = income := TaxBracket.ceiling_of_open opened
    have step := addContribution?_alike alike (ends.symm ▸ le)
    rw [ends] at step
    refine ⟨b, ?_, by simpa using step⟩
    rw [List.find?_cons, TaxBracket.contains_of_open opened le]
  | @beneath b next above upper _ bound increasing joined base stacked ih =>
    rw [List.find?_cons, List.foldlM_cons]
    rcases lt_or_ge income.toRat upper.toRat with inside | beyond
    · have ends := TaxBracket.ceiling_of_lt bound inside
      have step := addContribution?_alike alike (ends.symm ▸ le)
      rw [ends] at step
      -- Nothing above this bracket takes part.
      have rest (total : Decimal) :
          (next :: above).foldlM (addContribution? income) total = some total :=
        foldlM_addContribution?_of_le stacked (floor.trans le) (inside.le.trans joined.ge)
      refine ⟨b, ?_, by simpa [rest] using step⟩
      rw [(TaxBracket.contains_iff_lt bound le).2 inside]
    · have ends := TaxBracket.ceiling_of_le bound beyond
      have step := addContribution?_alike alike (ends.symm ▸ increasing.le)
      rw [ends, base] at step
      -- The whole bracket is taxed, and its sum is the base tax of the next one.
      have outside : b.contains income = false := by
        rw [← Bool.not_eq_true, TaxBracket.contains_iff_lt bound le]
        exact not_lt.2 beyond
      rw [outside]
      generalize addContribution? income total b = sum at step
      cases step with
      | some alike =>
        exact ih alike (joined ▸ floor.trans increasing.le) (joined.le.trans beyond)

/-- The tax of a checked table on an income is one number both ways, or overflows both ways. -/
theorem map_toRat_bracketTax?_eq {t : RateTable} (checked : t.Checked) (floor : 0 ≤ income.toRat) :
    (t.bracketTax? income).map Decimal.toRat = (t.directTax? income).map Decimal.toRat := by
  obtain ⟨first, above, brackets, start, base, stacked⟩ := checked.stacked
  rw [bracketTax?_eq_foldlM, directTax?, brackets]
  split_ifs with empty
  · -- Without income the direct tax does not look for a bracket.
    rw [Decimal.le_iff_toRat, Decimal.toRat_zero] at empty
    rw [foldlM_addContribution?_of_le stacked floor (empty.trans start.ge)]
  · have alike : Decimal.Alike Decimal.zero first.baseTax := .inl base.symm
    obtain ⟨b, found, sums⟩ := foldlM_addContribution?_alike stacked alike start.ge
      (start.le.trans floor)
    rw [Decimal.map_toRat_eq_of_rel sums, found]
    rfl

/-- The sum of the contributions of the brackets and the direct tax are one number, for every table
made from a definition and every income that is not negative; if one overflows, so does the other. -/
theorem sum_contributions?_eq_directTax? {definition : RateTableDefinition} {t : RateTable}
    (built : ofDefinition definition = .ok t) {income : Decimal} (floor : Decimal.zero ≤ income) :
    ((t.contributions? income).bind fun parts => Decimal.sum? (parts.map (·.tax))).map
        Decimal.toRat =
      (t.directTax? income).map Decimal.toRat := by
  rw [Decimal.le_iff_toRat, Decimal.toRat_zero] at floor
  exact map_toRat_bracketTax?_eq (checked_of_ofDefinition built) floor

/-- Both ways at the upper bound of a bracket. -/
theorem sum_contributions?_eq_directTax?_of_bound :
    let income := Decimal.unsigned 75518 0
    ∃ t, ofDefinition .sample2024 = .ok t ∧ Decimal.zero ≤ income ∧
      ((t.contributions? income).bind fun parts => Decimal.sum? (parts.map (·.tax))).map
          Decimal.toRat =
        (t.directTax? income).map Decimal.toRat := by
  intro income
  have floor : Decimal.zero ≤ income := by decide
  cases built : ofDefinition .sample2024 with
  | ok t => exact ⟨t, rfl, floor, sum_contributions?_eq_directTax? built floor⟩
  | error e =>
    have sound : (ofDefinition .sample2024).toOption.isSome = true := by decide +kernel
    rw [built] at sound
    cases sound

end RateTable

end IncomeTax

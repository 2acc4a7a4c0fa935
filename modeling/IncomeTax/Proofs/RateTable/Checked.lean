import IncomeTax.Proofs.Decimal.Value
import IncomeTax.RateTable.Basic

/-!
# What the check of a rate table leaves

The brackets of a checked table are stacked: the first one starts at zero, each starts where the
one below ends, and the top one is open. The base tax of a bracket is the tax of the bracket below,
taken up to its upper bound on top of its own base tax. The rules of a checked table grant no
negative amounts.

## Main definitions

* `TaxBracket.taxUpTo?` — the base tax of a bracket and its tax on an income
* `TaxBracket.Stacked` — brackets that lie on each other
* `RateTable.Checked` — what holds of every table made from a definition

## Main results

* `RateTable.bracketFault?_last`, `bracketFault?_next`, `rulesFault?_eq_none_iff` — what each check
  asks
* `RateTable.ofDefinition_eq_ok_iff` — which table a definition makes
* `RateTable.checked_of_ofDefinition` — the check leaves nothing else
-/

namespace IncomeTax

namespace TaxBracket

/-- The base tax of the bracket and its rate on what an income exceeds its lower bound by. -/
def taxUpTo? (b : TaxBracket) (income : Decimal) : Option Decimal := do
  let excess ← income.sub? b.lowerBound
  let tax ← excess.mul? b.rate
  b.baseTax.add? tax

theorem contains_of_open {b : TaxBracket} {income : Decimal} (opened : b.upperBound = none)
    (le : b.lowerBound.toRat ≤ income.toRat) : b.contains income = true := by
  simp [contains, opened, Decimal.le_iff_toRat, le]

theorem contains_iff_lt {b : TaxBracket} {income upper : Decimal}
    (bound : b.upperBound = some upper) (le : b.lowerBound.toRat ≤ income.toRat) :
    b.contains income = true ↔ income.toRat < upper.toRat := by
  simp [contains, bound, Decimal.le_iff_toRat, Decimal.lt_iff_toRat, le]

/-- Brackets that lie on each other: each starts where the one beneath ends, its base tax is what the
one beneath leads up to, and the top one is open. -/
inductive Stacked : TaxBracket → List TaxBracket → Prop where
  | top {b : TaxBracket} (fraction : RateTable.isFraction b.rate = true)
      (opened : b.upperBound = none) : Stacked b []
  | beneath {b next : TaxBracket} {above : List TaxBracket} {upper : Decimal}
      (fraction : RateTable.isFraction b.rate = true) (bound : b.upperBound = some upper)
      (increasing : b.lowerBound.toRat < upper.toRat)
      (joined : next.lowerBound.toRat = upper.toRat)
      (base : b.taxUpTo? upper = some next.baseTax)
      (stacked : Stacked next above) : Stacked b (next :: above)

end TaxBracket

namespace RateTable

variable {key : RateTableKey} {index : Nat} {base : Decimal} {b next : BracketDefinition}

theorem isFraction_iff {rate : Decimal} :
    isFraction rate = true ↔ 0 ≤ rate.toRat ∧ rate.toRat ≤ 1 := by
  simp [isFraction, Decimal.le_iff_toRat]

/-! ### Brackets -/

theorem bracketFault?_last :
    bracketFault? key index b none = none ↔ isFraction b.rate = true ∧ b.upperBound = none := by
  unfold bracketFault?
  cases isFraction b.rate <;> cases b.upperBound <;> simp

theorem bracketFault?_next :
    bracketFault? key index b (some next) = none ↔ isFraction b.rate = true ∧
      ∃ upper, b.upperBound = some upper ∧ b.lowerBound.toRat < upper.toRat ∧
        next.lowerBound.toRat = upper.toRat := by
  unfold bracketFault?
  cases isFraction b.rate with
  | false => simp
  | true =>
    cases b.upperBound with
    | none => simp
    | some upper =>
      simp only [Bool.not_true, Bool.false_eq_true, if_false, Decimal.le_iff_toRat,
        Decimal.lt_iff_toRat, true_and, Option.some.injEq, exists_eq_left']
      split_ifs with flat gap overlap
      · simp [not_lt.2 flat]
      · simp [gap.ne']
      · simp [overlap.ne]
      · simp [not_le.1 flat, le_antisymm (not_lt.1 gap) (not_lt.1 overlap)]

theorem brackets?_cons {rest : List BracketDefinition} {brackets : List TaxBracket}
    (built : brackets? key index base (b :: rest) = .ok brackets) :
    bracketFault? key index b rest.head? = none ∧ ∃ total above,
      nextBaseTax? base b = some total ∧ brackets? key (index + 1) total rest = .ok above ∧
      brackets = ⟨b.lowerBound, b.upperBound, b.rate, base⟩ :: above := by
  unfold brackets? at built
  split at built
  · cases built
  next sound =>
    split at built
    · cases built
    next total grown =>
      split at built
      · cases built
      next above more =>
        cases built
        exact ⟨sound, total, above, grown, more, rfl⟩

/-- Brackets that pass the check lie on each other. -/
theorem stacked_of_brackets? {rest : List BracketDefinition} {brackets : List TaxBracket}
    (built : brackets? key index base (b :: rest) = .ok brackets) :
    ∃ above, brackets = ⟨b.lowerBound, b.upperBound, b.rate, base⟩ :: above ∧
      TaxBracket.Stacked ⟨b.lowerBound, b.upperBound, b.rate, base⟩ above := by
  -- The base tax handed on to the brackets above is the sum that `taxUpTo?` gives at the bound.
  induction rest generalizing index base b brackets with
  | nil =>
    obtain ⟨sound, total, above, -, more, rfl⟩ := brackets?_cons built
    cases more
    obtain ⟨fraction, opened⟩ := bracketFault?_last.1 sound
    exact ⟨[], rfl, .top fraction opened⟩
  | cons next rest ih =>
    obtain ⟨sound, total, above, grown, more, rfl⟩ := brackets?_cons built
    obtain ⟨fraction, upper, bound, increasing, joined⟩ := bracketFault?_next.1 sound
    obtain ⟨above, rfl, stacked⟩ := ih more
    rw [nextBaseTax?, bound] at grown
    exact ⟨_, rfl, .beneath fraction bound increasing joined grown stacked⟩

theorem stacked_of_allBrackets? {definitions : List BracketDefinition}
    {brackets : List TaxBracket} (built : allBrackets? key definitions = .ok brackets) :
    ∃ first above, brackets = first :: above ∧ first.lowerBound.toRat = 0 ∧
      first.baseTax = Decimal.zero ∧ TaxBracket.Stacked first above := by
  unfold allBrackets? at built
  cases definitions with
  | nil => cases built
  | cons b rest =>
    simp only [List.head?_cons] at built
    split at built
    · cases built
    next start =>
      obtain ⟨above, same, stacked⟩ := stacked_of_brackets? built
      exact ⟨_, above, same, Decimal.isZero_iff_toRat.1 (by simpa using start), rfl, stacked⟩

/-! ### The whole table -/

/-- What holds of every table made from a definition. -/
structure Checked (t : RateTable) : Prop where
  stacked : ∃ first above, t.brackets = first :: above ∧ first.lowerBound.toRat = 0 ∧
    first.baseTax = Decimal.zero ∧ TaxBracket.Stacked first above
  credits : ∀ entry ∈ t.credits.entries, 0 ≤ entry.2.maximum.toRat ∧
    ∀ phaseOut ∈ entry.2.phaseOut, 0 ≤ phaseOut.threshold.toRat ∧
      isFraction phaseOut.rate = true
  deductions : ∀ entry ∈ t.deductions.entries, ∀ ceiling ∈ entry.2.ceiling, 0 ≤ ceiling.toRat

theorem thresholdFault?_eq_none_iff {entry : String × Decimal} :
    thresholdFault? key entry = none ↔ entry.2.negative = false := by
  simp [thresholdFault?]

theorem creditFault?_eq_none_iff {entry : CreditType × CreditRule} :
    creditFault? key entry = none ↔ entry.2.maximum.negative = false ∧
      ∀ phaseOut ∈ entry.2.phaseOut, phaseOut.threshold.negative = false ∧
        isFraction phaseOut.rate = true := by
  unfold creditFault?
  cases entry.2.maximum.negative <;> cases entry.2.phaseOut <;> simp

theorem deductionFault?_eq_none_iff {entry : DeductionType × DeductionRule} :
    deductionFault? key entry = none ↔ ∀ ceiling ∈ entry.2.ceiling, ceiling.negative = false := by
  unfold deductionFault?
  cases entry.2.ceiling <;> simp

/-- The rules have no fault when no amount has a sign and all rates are fractions. -/
theorem rulesFault?_eq_none_iff {d : RateTableDefinition} : rulesFault? d = none ↔
    (∀ entry ∈ d.thresholds.entries, entry.2.negative = false) ∧
      (∀ entry ∈ d.credits.entries, entry.2.maximum.negative = false ∧
        ∀ phaseOut ∈ entry.2.phaseOut, phaseOut.threshold.negative = false ∧
          isFraction phaseOut.rate = true) ∧
      ∀ entry ∈ d.deductions.entries, ∀ ceiling ∈ entry.2.ceiling, ceiling.negative = false := by
  simp only [rulesFault?, Option.or_eq_none_iff, List.findSome?_eq_none_iff,
    thresholdFault?_eq_none_iff, creditFault?_eq_none_iff, deductionFault?_eq_none_iff, and_assoc]

/-- A definition makes a table when it has a version and neither its brackets nor its rules have a
fault; nothing else is taken from it than it says. -/
theorem ofDefinition_eq_ok_iff {d : RateTableDefinition} {t : RateTable} :
    ofDefinition d = .ok t ↔ Text.isBlankText d.version = false ∧
      ∃ brackets, allBrackets? d.key d.brackets = .ok brackets ∧ rulesFault? d = none ∧
        t = ⟨d.key, d.version, brackets, d.thresholds, d.credits, d.deductions⟩ := by
  unfold ofDefinition
  cases Text.isBlankText d.version <;> cases allBrackets? d.key d.brackets <;>
    cases rulesFault? d <;> simp [eq_comm]

/-- A table made from a definition is checked. -/
theorem checked_of_ofDefinition {d : RateTableDefinition} {t : RateTable}
    (built : ofDefinition d = .ok t) : t.Checked := by
  obtain ⟨-, brackets, laid, sound, rfl⟩ := ofDefinition_eq_ok_iff.1 built
  obtain ⟨-, credits, deductions⟩ := rulesFault?_eq_none_iff.1 sound
  exact
    { stacked := stacked_of_allBrackets? laid
      credits := fun entry member =>
        have ⟨maximum, phaseOuts⟩ := credits entry member
        ⟨Decimal.toRat_nonneg_of_not_negative maximum, fun phaseOut found =>
          have ⟨threshold, fraction⟩ := phaseOuts phaseOut found
          ⟨Decimal.toRat_nonneg_of_not_negative threshold, fraction⟩⟩
      deductions := fun entry member ceiling found =>
        Decimal.toRat_nonneg_of_not_negative (deductions entry member ceiling found) }

end RateTable

end IncomeTax

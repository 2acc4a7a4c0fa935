import IncomeTax.Proofs.RateTable.Moderate

/-!
# Which definitions make a table

A definition makes a table when it has a version, its brackets divide the incomes from zero up, and
its rules keep to the signs and rates they may have. No definition that does is refused, unless a
base tax outgrows an amount. The brackets of the table are those of the definition, and the base tax
of each is the tax on the whole of all brackets before it. An income from zero up falls into one
bracket and no more, and an income below zero into none.

## Main definitions

* `BracketDefinition.Contiguous` — brackets that can be stacked
* `RateTableDefinition.WellFormed` — what is asked of a definition
* `RateTableDefinition.baseTax?` — the tax on the whole of the brackets before one of them

## Main results

* `RateTable.contiguous_of_brackets?`, `RateTable.not_contiguous_of_brackets?`,
  `RateTable.exists_brackets?` — the check of the brackets, whatever its outcome
* `TaxBracket.Stacked.countP_contains` — stacked brackets share no income and leave none out
* `RateTable.ofDefinition_exact` — which definitions make a table, and which table
-/

namespace IncomeTax

namespace BracketDefinition

/-- The bracket has an upper bound, above its lower one, and the next bracket starts there. -/
def Joins (b next : BracketDefinition) : Prop :=
  ∃ upper, b.upperBound = some upper ∧ b.lowerBound.toRat < upper.toRat ∧
    next.lowerBound.toRat = upper.toRat

/-- Brackets that can be stacked: each joins the next one, the last one is open, and all rates lie
between zero and one. -/
structure Contiguous (brackets : List BracketDefinition) : Prop where
  joined : brackets.IsChain Joins
  opened : ∀ last ∈ brackets.getLast?, last.upperBound = none
  rates : ∀ b ∈ brackets, 0 ≤ b.rate.toRat ∧ b.rate.toRat ≤ 1

/-- The tax on the whole of a bracket; an open bracket has no end, so there is none. -/
def fullTax? (b : BracketDefinition) : Option Decimal := do
  let upper ← b.upperBound
  let width ← upper.sub? b.lowerBound
  width.mul? b.rate

/-- The taxes on the whole of brackets, added in their order to what there is already. -/
def addFullTaxes? (base : Decimal) (brackets : List BracketDefinition) : Option Decimal :=
  (brackets.mapM fullTax?).bind (·.foldlM Decimal.add? base)

end BracketDefinition

/-- What a checked bracket was published as. -/
def TaxBracket.published (b : TaxBracket) : BracketDefinition :=
  ⟨b.lowerBound, b.upperBound, b.rate⟩

/-- What is asked of a definition: a version, brackets from zero up, no amount with a negative sign,
and rates between zero and one. -/
structure RateTableDefinition.WellFormed (d : RateTableDefinition) : Prop where
  version : ∃ c ∈ d.version.toList, Text.isBlank c = false
  start : ∃ first ∈ d.brackets.head?, first.lowerBound.toRat = 0
  contiguous : BracketDefinition.Contiguous d.brackets
  thresholds : ∀ entry ∈ d.thresholds.entries, entry.2.negative = false
  credits : ∀ entry ∈ d.credits.entries, entry.2.maximum.negative = false ∧
    ∀ phaseOut ∈ entry.2.phaseOut, phaseOut.threshold.negative = false ∧
      0 ≤ phaseOut.rate.toRat ∧ phaseOut.rate.toRat ≤ 1
  deductions : ∀ entry ∈ d.deductions.entries, ∀ ceiling ∈ entry.2.ceiling, ceiling.negative = false

/-- The tax on the whole of all brackets before the one at an index, added up in their order. -/
def RateTableDefinition.baseTax? (d : RateTableDefinition) (index : Nat) : Option Decimal :=
  ((d.brackets.take index).mapM BracketDefinition.fullTax?).bind Decimal.sum?

namespace RateTable

open BracketDefinition (Contiguous Joins addFullTaxes?)

variable {key : RateTableKey} {index : Nat} {base : Decimal} {b : BracketDefinition}
  {rest definitions : List BracketDefinition} {brackets : List TaxBracket} {fault : TableFault}

/-! ### The check of the brackets -/

/-- Brackets are contiguous when the first one has no fault beside the second and the others are. -/
theorem contiguous_cons_iff (key : RateTableKey) (index : Nat) : Contiguous (b :: rest) ↔
    bracketFault? key index b rest.head? = none ∧ Contiguous rest := by
  cases rest with
  | nil =>
    rw [List.head?_nil, bracketFault?_last, isFraction_iff]
    constructor
    · rintro ⟨-, opened, rates⟩
      exact ⟨⟨rates b List.mem_cons_self, opened b rfl⟩, .nil, nofun, nofun⟩
    · rintro ⟨⟨rate, opened⟩, -⟩
      exact ⟨.singleton b, by simpa using opened, by simpa using rate⟩
  | cons next rest =>
    rw [List.head?_cons, bracketFault?_next, isFraction_iff]
    constructor
    · rintro ⟨joined, opened, rates⟩
      obtain ⟨joins, joined⟩ := List.isChain_cons_cons.1 joined
      obtain ⟨rate, rates⟩ := List.forall_mem_cons.1 rates
      exact ⟨⟨rate, joins⟩, joined, opened, rates⟩
    · rintro ⟨⟨rate, joins⟩, joined, opened, rates⟩
      exact ⟨List.isChain_cons_cons.2 ⟨joins, joined⟩, opened, List.forall_mem_cons.2 ⟨rate, rates⟩⟩

/-- Brackets that pass the check are contiguous. -/
theorem contiguous_of_brackets? (built : brackets? key index base definitions = .ok brackets) :
    Contiguous definitions := by
  induction definitions generalizing index base brackets with
  | nil => exact ⟨.nil, nofun, nofun⟩
  | cons b rest ih =>
    obtain ⟨sound, total, above, -, more, -⟩ := brackets?_cons built
    exact (contiguous_cons_iff _ _).2 ⟨sound, ih more⟩

/-- Brackets with a fault are not contiguous. -/
theorem not_contiguous_of_brackets?
    (broken : brackets? key index base definitions = .error (.fault fault)) :
    ¬ Contiguous definitions := by
  induction definitions generalizing index base with
  | nil => cases broken
  | cons b rest ih =>
    intro contiguous
    obtain ⟨sound, contiguous⟩ := (contiguous_cons_iff key index).1 contiguous
    unfold brackets? at broken
    rw [sound] at broken
    cases grown : nextBaseTax? base b with
    | none => simp [grown] at broken
    | some total =>
      cases more : brackets? key (index + 1) total rest with
      | ok above => simp [grown, more] at broken
      | error e =>
        simp only [grown, more, Except.error.injEq] at broken
        exact ih (broken ▸ more) contiguous

/-- Of contiguous brackets, all but the last one have an upper bound. -/
theorem exists_upperBound (contiguous : Contiguous (b :: rest)) (more : rest ≠ []) :
    ∃ upper, b.upperBound = some upper := by
  obtain ⟨next, rest, rfl⟩ := List.exists_cons_of_ne_nil more
  obtain ⟨⟨upper, bound, -⟩, -⟩ := List.isChain_cons_cons.1 contiguous.joined
  exact ⟨upper, bound⟩

/-! ### Base taxes -/

/-- The tax on the whole of the first bracket can be added before that of the others is looked at. -/
theorem addFullTaxes?_cons {upper : Decimal} (bound : b.upperBound = some upper) :
    addFullTaxes? base (b :: rest) =
      (nextBaseTax? base b).bind fun total => addFullTaxes? total rest := by
  have next : nextBaseTax? base b = b.fullTax?.bind base.add? := by
    simp only [nextBaseTax?, BracketDefinition.fullTax?, bound, Option.bind_eq_bind,
      Option.bind_some, Option.bind_assoc]
  unfold addFullTaxes?
  rw [next, List.mapM_cons]
  cases b.fullTax? with
  | none => rfl
  | some tax =>
    -- The sum may fail before the tax of a later bracket does, or the other way around.
    cases taxes : rest.mapM BracketDefinition.fullTax? <;>
      cases sum : base.add? tax <;> simp [sum]

/-- The base tax of each bracket is what the check has added up before it. -/
theorem baseTax_of_brackets? (built : brackets? key index base definitions = .ok brackets) :
    brackets.map TaxBracket.published = definitions ∧
      ∀ i b, brackets[i]? = some b → addFullTaxes? base (definitions.take i) = some b.baseTax := by
  induction definitions generalizing index base brackets with
  | nil =>
    cases built
    exact ⟨rfl, nofun⟩
  | cons b rest ih =>
    have contiguous := contiguous_of_brackets? built
    obtain ⟨-, total, above, grown, more, rfl⟩ := brackets?_cons built
    obtain ⟨published, sums⟩ := ih more
    refine ⟨by rw [List.map_cons, published]; rfl, fun i b' found => ?_⟩
    cases i with
    | zero =>
      cases found
      rfl
    | succ i =>
      have found : above[i]? = some b' := found
      -- There is a bracket above, so this one has an upper bound.
      have more : rest ≠ [] := by
        rintro rfl
        rw [List.map_eq_nil_iff.1 published] at found
        cases found
      obtain ⟨upper, bound⟩ := exists_upperBound contiguous more
      rw [List.take_succ_cons, addFullTaxes?_cons bound, grown]
      exact sums i b' found

/-- Contiguous brackets pass the check when no base tax outgrows an amount. -/
theorem exists_brackets? (contiguous : Contiguous definitions)
    (fits : ∀ i < definitions.length, (addFullTaxes? base (definitions.take i)).isSome) :
    ∃ brackets, brackets? key index base definitions = .ok brackets := by
  induction definitions generalizing index base with
  | nil => exact ⟨[], rfl⟩
  | cons b rest ih =>
    obtain ⟨sound, upward⟩ := (contiguous_cons_iff key index).1 contiguous
    obtain ⟨total, grown, fits⟩ : ∃ total, nextBaseTax? base b = some total ∧
        ∀ i < rest.length, (addFullTaxes? total (rest.take i)).isSome := by
      rcases eq_or_ne rest [] with rfl | more
      · refine ⟨base, ?_, nofun⟩
        rw [nextBaseTax?, contiguous.opened b rfl]
      · obtain ⟨upper, bound⟩ := exists_upperBound contiguous more
        have fits : ∀ i < rest.length,
            ((nextBaseTax? base b).bind fun total => addFullTaxes? total (rest.take i)).isSome := by
          intro i below
          rw [← addFullTaxes?_cons bound]
          exact fits (i + 1) (Nat.succ_lt_succ below)
        cases grown : nextBaseTax? base b with
        | none => simpa [grown] using fits 0 (List.length_pos_of_ne_nil more)
        | some total => exact ⟨total, rfl, fun i below => by simpa [grown] using fits i below⟩
    obtain ⟨above, more⟩ : ∃ above, brackets? key (index + 1) total rest = .ok above :=
      ih upward fits
    exact ⟨⟨b.lowerBound, b.upperBound, b.rate, base⟩ :: above,
      by simp [brackets?, sound, grown, more]⟩

end RateTable

/-! ### Incomes and brackets -/

namespace TaxBracket

variable {b : TaxBracket} {above : List TaxBracket} {income : Decimal}

/-- No stacked bracket contains an income below the lowest one. -/
theorem Stacked.countP_contains_of_lt (stacked : Stacked b above)
    (below : income.toRat < b.lowerBound.toRat) : (b :: above).countP (·.contains income) = 0 := by
  refine List.countP_eq_zero.2 fun b' member => ?_
  have outside := below.trans_le (stacked.lowerBound_le b' member)
  simp [contains, Decimal.le_iff_toRat, not_le.2 outside]

/-- Every income from the lowest bound up falls into one stacked bracket and no more. -/
theorem Stacked.countP_contains (stacked : Stacked b above)
    (le : b.lowerBound.toRat ≤ income.toRat) : (b :: above).countP (·.contains income) = 1 := by
  induction stacked with
  | top _ opened => simp [contains_of_open opened le]
  | @beneath b next above upper _ bound _ joined _ stacked ih =>
    rw [List.countP_cons]
    -- The upper bound decides between this bracket and those above it.
    rcases lt_or_ge income.toRat upper.toRat with inside | beyond
    · rw [stacked.countP_contains_of_lt (joined ▸ inside), (contains_iff_lt bound le).2 inside]
      rfl
    · have outside : ¬ b.contains income = true := fun inside =>
        not_lt.2 beyond ((contains_iff_lt bound le).1 inside)
      rw [ih (joined ▸ beyond), if_neg outside]

end TaxBracket

namespace RateTable

variable {d : RateTableDefinition} {t : RateTable}

theorem exists_not_blank_iff {s : String} :
    (∃ c ∈ s.toList, Text.isBlank c = false) ↔ Text.isBlankText s = false := by
  simp [Text.isBlankText]

/-- A definition is well-formed when its version, its brackets and its rules are. -/
theorem wellFormed_iff : d.WellFormed ↔ Text.isBlankText d.version = false ∧
    (∃ first ∈ d.brackets.head?, first.lowerBound.toRat = 0) ∧
      BracketDefinition.Contiguous d.brackets ∧ rulesFault? d = none := by
  rw [← exists_not_blank_iff, rulesFault?_eq_none_iff]
  simp only [isFraction_iff]
  constructor
  · rintro ⟨version, start, contiguous, thresholds, credits, deductions⟩
    exact ⟨version, start, contiguous, thresholds, credits, deductions⟩
  · rintro ⟨version, start, contiguous, thresholds, credits, deductions⟩
    exact ⟨version, start, contiguous, thresholds, credits, deductions⟩

theorem allBrackets?_of_start {key : RateTableKey} {definitions : List BracketDefinition}
    (start : ∃ first ∈ definitions.head?, first.lowerBound.toRat = 0) :
    allBrackets? key definitions = brackets? key 0 Decimal.zero definitions := by
  obtain ⟨first, found, zero⟩ := start
  unfold allBrackets?
  rw [Option.mem_def.1 found]
  simp [Decimal.isZero_iff_toRat.2 zero]

theorem allBrackets?_eq_ok_iff {key : RateTableKey} {definitions : List BracketDefinition}
    {brackets : List TaxBracket} : allBrackets? key definitions = .ok brackets ↔
      (∃ first ∈ definitions.head?, first.lowerBound.toRat = 0) ∧
        brackets? key 0 Decimal.zero definitions = .ok brackets := by
  by_cases start : ∃ first ∈ definitions.head?, first.lowerBound.toRat = 0
  · rw [allBrackets?_of_start start, and_iff_right start]
  · refine iff_of_false (fun built => start ?_) fun both => start both.1
    unfold allBrackets? at built
    split at built
    · cases built
    next first found =>
      split at built
      · cases built
      next zero => exact ⟨first, found, Decimal.isZero_iff_toRat.1 (by simpa using zero)⟩

/-- A definition that makes a table is well-formed. -/
theorem wellFormed_of_ofDefinition (built : ofDefinition d = .ok t) : d.WellFormed := by
  obtain ⟨version, brackets, laid, sound, -⟩ := ofDefinition_eq_ok_iff.1 built
  obtain ⟨start, laid⟩ := allBrackets?_eq_ok_iff.1 laid
  exact wellFormed_iff.2 ⟨version, start, contiguous_of_brackets? laid, sound⟩

/-- A definition with a fault is not well-formed. -/
theorem not_wellFormed_of_ofDefinition {fault : TableFault}
    (broken : ofDefinition d = .error (.fault fault)) : ¬ d.WellFormed := by
  intro wellFormed
  obtain ⟨version, start, contiguous, sound⟩ := wellFormed_iff.1 wellFormed
  simp only [ofDefinition, version, allBrackets?_of_start start, sound] at broken
  cases laid : brackets? d.key 0 Decimal.zero d.brackets with
  | ok brackets => simp [laid] at broken
  | error e =>
    simp only [laid, Bool.false_eq_true, if_false, Except.error.injEq] at broken
    exact not_contiguous_of_brackets? (broken ▸ laid) contiguous

/-- A well-formed definition makes a table when no base tax outgrows an amount. -/
theorem exists_table (wellFormed : d.WellFormed)
    (fits : ∀ i < d.brackets.length, (d.baseTax? i).isSome) : ∃ t, ofDefinition d = .ok t := by
  obtain ⟨version, start, contiguous, sound⟩ := wellFormed_iff.1 wellFormed
  obtain ⟨brackets, laid⟩ : ∃ brackets, brackets? d.key 0 .zero d.brackets = .ok brackets :=
    exists_brackets? contiguous fits
  exact ⟨_, ofDefinition_eq_ok_iff.2
    ⟨version, brackets, allBrackets?_eq_ok_iff.2 ⟨start, laid⟩, sound, rfl⟩⟩

/-- The brackets of a table are those of its definition, with the tax on the whole of all brackets
before each. -/
theorem baseTax_of_ofDefinition (built : ofDefinition d = .ok t) :
    t.brackets.map TaxBracket.published = d.brackets ∧
      ∀ i b, t.brackets[i]? = some b → d.baseTax? i = some b.baseTax := by
  obtain ⟨-, brackets, laid, -, rfl⟩ := ofDefinition_eq_ok_iff.1 built
  exact baseTax_of_brackets? (allBrackets?_eq_ok_iff.1 laid).2

/-- A definition makes a table exactly when it is well-formed and no base tax outgrows an amount, and
none that has a fault is well-formed. The table has the brackets of the definition, each with the
tax on the whole of all brackets before it. Every income from zero up falls into one bracket and no
more, and an income below zero into none. -/
theorem ofDefinition_exact (d : RateTableDefinition) :
    ((∃ t, ofDefinition d = .ok t) ↔
      d.WellFormed ∧ ∀ i < d.brackets.length, (d.baseTax? i).isSome) ∧
    (∀ fault, ofDefinition d = .error (.fault fault) → ¬ d.WellFormed) ∧
    ∀ t, ofDefinition d = .ok t →
      t.brackets.map TaxBracket.published = d.brackets ∧
      (∀ i b, t.brackets[i]? = some b → d.baseTax? i = some b.baseTax) ∧
      (∀ income, Decimal.zero ≤ income → t.brackets.countP (·.contains income) = 1) ∧
      ∀ income, income < Decimal.zero → t.brackets.countP (·.contains income) = 0 := by
  refine ⟨⟨?_, ?_⟩, fun fault => not_wellFormed_of_ofDefinition, fun t built => ?_⟩
  · rintro ⟨t, built⟩
    obtain ⟨published, sums⟩ := baseTax_of_ofDefinition built
    refine ⟨wellFormed_of_ofDefinition built, fun i below => ?_⟩
    rw [← published, List.length_map] at below
    rw [sums i t.brackets[i] (List.getElem?_eq_getElem below), Option.isSome_some]
  · rintro ⟨wellFormed, fits⟩
    exact exists_table wellFormed fits
  · obtain ⟨published, sums⟩ := baseTax_of_ofDefinition built
    obtain ⟨first, above, brackets, start, -, stacked⟩ := (checked_of_ofDefinition built).stacked
    simp only [Decimal.le_iff_toRat, Decimal.lt_iff_toRat, Decimal.toRat_zero]
    refine ⟨published, sums, fun income floor => ?_, fun income below => ?_⟩
    · rw [brackets]
      exact stacked.countP_contains (start.le.trans floor)
    · rw [brackets]
      exact stacked.countP_contains_of_lt (below.trans_eq start.symm)

/-- The sample definition with its second bracket starting below the end of the first one. -/
def overlapping2024 : RateTableDefinition :=
  { RateTableDefinition.sample2024 with
    brackets := [⟨.zero, some (.unsigned 10000 0), .zero⟩, ⟨.unsigned 9999 0, none, .one⟩] }

/-- The sample definition makes a table, in which the bound between the first two brackets falls into
one bracket and the least amount into none; with overlapping brackets it does not. -/
theorem ofDefinition_exact_of_sample2024 :
    (∃ t, ofDefinition .sample2024 = .ok t ∧ RateTableDefinition.sample2024.WellFormed ∧
      t.brackets.map TaxBracket.published = RateTableDefinition.sample2024.brackets ∧
      t.brackets.countP (·.contains (.unsigned 1000000 2)) = 1 ∧
      t.brackets.countP (·.contains .least) = 0) ∧
    ofDefinition overlapping2024 = .error (.fault (.bracketOverlap overlapping2024.key 0)) ∧
      ¬ overlapping2024.WellFormed := by
  obtain ⟨t, built, -⟩ : ∃ t, ofDefinition .sample2024 = .ok t ∧ decide (t.brackets ≠ []) = true :=
    exists_ok_of_any (by decide +kernel)
  obtain ⟨accepted, -, contents⟩ := ofDefinition_exact .sample2024
  obtain ⟨published, -, contained, outside⟩ := contents t built
  have broken : ofDefinition overlapping2024 =
      .error (.fault (.bracketOverlap overlapping2024.key 0)) := by
    rfl
  exact ⟨⟨t, built, (accepted.1 ⟨t, built⟩).1, published, contained _ (by decide),
    outside _ (by decide)⟩, broken, (ofDefinition_exact overlapping2024).2.1 _ broken⟩

end RateTable

end IncomeTax

import IncomeTax.Proofs.RateTable.Assembly
import IncomeTax.Proofs.RateTable.Published

/-!
# A row can only hurt its own table

Rows of many tables are put together and published in one go. What is published for a key is decided
by the rows of the key alone: they make a definition, a fault or nothing, and the definition makes a
table or has a fault of its own. No row of another key plays a part, be it good, bad or repeated, and
wherever it stands. So two sets of rows that are the same for a key give the same answer for it.

## Main definitions

* `RateTableRows.Publishes` — the table set that rows give under the quarantine policy
* `RateTableRows.Fits` — rows whose definitions stay within the range of amounts
* `RateTableRows.published` — what the rows of a key give

## Main results

* `RateTableSet.outcome_of_assembly` — definitions and faults of an assembly, seen at one key
* `RateTableRows.exists_publishes` — what is published for a key comes from its rows
* `RateTableRows.lookup_eq_of_ofKey_eq` — rows of other keys do not matter
-/

namespace IncomeTax

namespace RateTableSet

variable {set set' : RateTableSet} {key : RateTableKey}

/-- A look-up depends on the verdict on its key alone. -/
theorem lookup_eq_of_verdict_eq (same : set.verdict key = set'.verdict key) :
    set.lookup key = set'.lookup key := by
  cases found : set'.lookup key with
  | ok table => rw [lookup_eq_ok_iff, same, ← lookup_eq_ok_iff, found]
  | error e =>
    cases e with
    | notFound key' => rw [lookup_eq_notFound_iff, same, ← lookup_eq_notFound_iff, found]
    | faulty fault => rw [lookup_eq_faulty_iff, same, ← lookup_eq_faulty_iff, found]

/-- What an assembly has found out about a key decides what is published for it: a definition is
taken alone, and a fault is the only one that is reported for the key. -/
theorem outcome_of_assembly {a : Assembly} (sound : a.Sound) :
    outcome a.definitions.values a.faults.values key =
      (a.verdict key).judge RateTable.verdictOf := by
  have definitions := OrderedMap.filter_values (k := key) sound.definition_key
  have faults := OrderedMap.filter_values (k := key) sound.fault_key
  rw [outcome, definitions, ← List.head?_filter, faults]
  cases found : a.verdict key with
  | none =>
    obtain ⟨undefined, faultless⟩ := Verdict.of_eq_none_iff.1 found
    rw [undefined, faultless]
    rfl
  | some known =>
    cases known with
    | ok d =>
      have defined := sound.apart.of_eq_ok_iff.1 found
      rw [defined, sound.apart key d defined]
      rfl
    | error fault =>
      have faulty := Verdict.of_eq_error_iff.1 found
      have undefined : a.definitions.find? key = none := by
        by_contra defined
        obtain ⟨d, defined⟩ := Option.ne_none_iff_exists'.1 defined
        rw [sound.apart key d defined] at faulty
        cases faulty
      rw [undefined, faulty]
      rfl

end RateTableSet

namespace RateTableRows

variable {rows rows' : RateTableRows} {key : RateTableKey}

/-- The rows can be put together, and the set is what a quarantining build makes of them. -/
def Publishes (rows : RateTableRows) (set : RateTableSet) : Prop :=
  ∃ batch, rows.assemble = .ok batch ∧
    RateTableSet.build batch.definitions batch.faults .quarantine = .ok set

/-- No base tax of a definition that the rows make outgrows an amount. -/
def Fits (rows : RateTableRows) : Prop :=
  ∀ batch, rows.assemble = .ok batch →
    ∀ d ∈ batch.definitions, RateTable.ofDefinition d ≠ .error .overflow

/-- What the rows of a key give: the verdict on the definition that they make, or their fault. -/
def published (own : RateTableRows) (key : RateTableKey) : Verdict TableFault RateTable :=
  (own.outcome key).judge RateTable.verdictOf

/-- Rows that name existing categories are published, and what is published for a key is what its own
rows give. -/
theorem exists_publishes (known : ∀ row ∈ rows.all, isCategory row.category = true)
    (fits : rows.Fits) :
    ∃ set, rows.Publishes set ∧ ∀ key, set.verdict key = (rows.ofKey key).published key := by
  obtain ⟨a, run, sound, seen⟩ := exists_assembly known
  have assembled : rows.assemble = .ok ⟨a.definitions.values, a.faults.values⟩ := by
    rw [assemble, run]
    rfl
  obtain ⟨set, built, -, verdicts⟩ := RateTableSet.exists_build (fits _ assembled) a.faults.values
  refine ⟨set, ⟨_, assembled, built⟩, fun key => ?_⟩
  rw [verdicts, RateTableSet.outcome_of_assembly sound, seen]
  rfl

/-- Two sets of rows that name existing categories are both published, and when they have the same
rows of a key, whatever the rows of other keys are, the look-up of the key gives the same answer: the
same table, the same fault, or that nothing is published. -/
theorem lookup_eq_of_ofKey_eq (known : ∀ row ∈ rows.all, isCategory row.category = true)
    (known' : ∀ row ∈ rows'.all, isCategory row.category = true)
    (fits : rows.Fits) (fits' : rows'.Fits) (same : rows.ofKey key = rows'.ofKey key) :
    ∃ set set', rows.Publishes set ∧ rows'.Publishes set' ∧
      set.lookup key = set'.lookup key := by
  obtain ⟨set, publishes, seen⟩ := exists_publishes known fits
  obtain ⟨set', publishes', seen'⟩ := exists_publishes known' fits'
  refine ⟨set, set', publishes, publishes', RateTableSet.lookup_eq_of_verdict_eq ?_⟩
  rw [seen, seen', same]

/-- The residents' table of the sample rows is what its own rows give, though the rows beside them
list a table twice, belong to no table or lack a cell. -/
theorem lookup_eq_of_ofKey_eq_of_sampleRows :
    let rows := sampleRows ⟨2024, by decide⟩
    let key : RateTableKey := ⟨⟨2024, by decide⟩, .resident⟩
    rows.ofKey key ≠ rows ∧ rows.ofKey key = (rows.ofKey key).ofKey key ∧
      ∃ set set', rows.Publishes set ∧ (rows.ofKey key).Publishes set' ∧
        set.lookup key = set'.lookup key := by
  intro rows key
  have known : ∀ row ∈ rows.all, isCategory row.category = true := by
    decide +kernel
  have known' : ∀ row ∈ (rows.ofKey key).all, isCategory row.category = true := by
    decide +kernel
  have same : rows.ofKey key = (rows.ofKey key).ofKey key := by
    decide +kernel
  have fits_of_all : ∀ rows : RateTableRows, (rows.assemble.toOption.all fun batch =>
      batch.definitions.all fun d => RateTable.ofDefinition d ≠ .error .overflow) = true →
      rows.Fits := by
    intro rows all batch assembled d member
    rw [assembled] at all
    simpa using List.all_eq_true.1 all d member
  refine ⟨by decide +kernel, same, ?_⟩
  exact lookup_eq_of_ofKey_eq known known' (fits_of_all rows (by decide +kernel))
    (fits_of_all _ (by decide +kernel)) same

end RateTableRows

end IncomeTax

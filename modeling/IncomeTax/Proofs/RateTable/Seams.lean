import IncomeTax.Proofs.Decimal.Value
import IncomeTax.Proofs.RateTable.Assembly
import IncomeTax.RateTable.Published

/-!
# Gaps and overlaps between brackets

Two brackets meet when the second one starts where the first one ends. Where all brackets of a table
meet, its check finds neither a gap nor an overlap. Nothing else finds one: rows have other faults,
the rules of a table do, and a set only repeats what it is told or reports a table that is defined
more than once.

## Main definitions

* `TableFault.isSeam` — the faults between two brackets
* `BracketDefinition.Meets` — the second bracket starts where the first one ends
* `Ends` — what holds of a run, whether it fails or not
* `RateTableRow.Seamless` — a row does not fail because of two brackets

## Main results

* `RateTable.isSeam_of_ofDefinition` — brackets that meet have no fault between them
* `RateTableRows.isSeam_of_assembly` — nor do rows
* `RateTableSet.ends_build` — where the faults of a set come from
-/

namespace IncomeTax

/-- The fault is a gap or an overlap between two brackets. -/
def TableFault.isSeam : TableFault → Bool
  | .bracketGap .. | .bracketOverlap .. => true
  | _ => false

/-- The second bracket starts where the first one ends, if the first one does. -/
def BracketDefinition.Meets (b next : BracketDefinition) : Prop :=
  ∀ upper ∈ b.upperBound, next.lowerBound.toRat = upper.toRat

/-! ### Runs -/

section Ends

variable {σ τ ι ε : Type} {good : σ → Prop} {bad : ε → Prop} {step : σ → ι → Except ε σ}
  {items : List ι} {s : σ}

/-- What comes out is good, or the error is one that may occur. -/
def Ends (good : σ → Prop) (bad : ε → Prop) : Except ε σ → Prop
  | .ok s => good s
  | .error e => bad e

theorem Ends.bind {good' : τ → Prop} {outcome : Except ε σ} {next : σ → Except ε τ}
    (first : Ends good bad outcome) (second : ∀ s, good s → Ends good' bad (next s)) :
    Ends good' bad (outcome >>= next) := by
  cases outcome with
  | ok s => exact second s first
  | error e => exact first

/-- A run ends like its steps. -/
theorem Ends.foldlM (one : ∀ item ∈ items, ∀ s, good s → Ends good bad (step s item))
    (start : good s) : Ends good bad (items.foldlM step s) := by
  induction items generalizing s with
  | nil => exact start
  | cons item rest ih =>
    rw [List.forall_mem_cons] at one
    rw [List.foldlM_cons]
    exact (one.1 s start).bind fun s' good => ih one.2 good

end Ends

/-! ### Definitions -/

namespace RateTable

open BracketDefinition (Meets)

variable {key : RateTableKey} {index : ℕ} {base : Decimal} {b : BracketDefinition}
  {definitions : List BracketDefinition} {d : RateTableDefinition} {fault : TableFault}

/-- Where the next bracket meets, there is neither a gap nor an overlap. -/
theorem isSeam_of_bracketFault? {next : Option BracketDefinition}
    (meets : ∀ following ∈ next, b.Meets following)
    (broken : bracketFault? key index b next = some fault) : fault.isSeam = false := by
  unfold bracketFault? at broken
  split at broken
  · cases broken
    rfl
  · split at broken
    · cases broken
    · cases broken
      rfl
    · cases broken
      rfl
    next upper following bound =>
      have joined : following.lowerBound.toRat = upper.toRat := meets following rfl upper bound
      split_ifs at broken with flat gap overlap
      · cases broken
        rfl
      · exact absurd joined (Decimal.lt_iff_toRat.1 gap).ne'
      · exact absurd joined (Decimal.lt_iff_toRat.1 overlap).ne

theorem isSeam_of_brackets? (meet : definitions.IsChain Meets)
    (broken : brackets? key index base definitions = .error (.fault fault)) :
    fault.isSeam = false := by
  -- The check stops at the first bracket with a fault, and that one meets the bracket after it.
  induction definitions generalizing index base with
  | nil => cases broken
  | cons b rest ih =>
    rw [List.isChain_cons] at meet
    unfold brackets? at broken
    split at broken
    next found =>
      cases broken
      exact isSeam_of_bracketFault? meet.1 found
    · split at broken
      · cases broken
      · split at broken
        next failed =>
          cases broken
          exact ih meet.2 failed
        · cases broken

theorem isSeam_of_allBrackets? (meet : definitions.IsChain Meets)
    (broken : allBrackets? key definitions = .error (.fault fault)) : fault.isSeam = false := by
  unfold allBrackets? at broken
  split at broken
  · cases broken
    rfl
  · split at broken
    · cases broken
      rfl
    · exact isSeam_of_brackets? meet broken

theorem isSeam_of_rulesFault? (broken : rulesFault? d = some fault) : fault.isSeam = false := by
  simp only [rulesFault?, Option.or_eq_some_iff] at broken
  rcases broken with (found | ⟨-, found⟩) | ⟨-, found⟩ <;>
    obtain ⟨entry, -, broken⟩ := List.exists_of_findSome?_eq_some found
  · unfold thresholdFault? at broken
    split_ifs at broken
    cases broken
    rfl
  · unfold creditFault? at broken
    split at broken
    · cases broken
      rfl
    · split at broken
      · cases broken
      · split_ifs at broken
        cases broken
        rfl
  · unfold deductionFault? at broken
    split_ifs at broken
    cases broken
    rfl

/-- The check of a definition whose brackets meet finds neither a gap nor an overlap. -/
theorem isSeam_of_ofDefinition (meet : d.brackets.IsChain Meets)
    (broken : ofDefinition d = .error (.fault fault)) : fault.isSeam = false := by
  unfold ofDefinition at broken
  split at broken
  · cases broken
    rfl
  · split at broken
    next failed =>
      cases broken
      exact isSeam_of_allBrackets? meet failed
    · split at broken
      next found =>
        cases broken
        exact isSeam_of_rulesFault? found
      · cases broken

end RateTable

/-! ### Rows -/

namespace RateTableRow

open Assembly (extendBrackets extendThresholds extendCredits extendDeductions phaseOutOf
  unknownName)

/-- If a row fails, it is not because of two brackets. -/
abbrev Seamless {α : Type} : Except TableFault α → Prop :=
  Ends (fun _ => True) fun fault => fault.isSeam = false

theorem seamless_start (row : RateTableRow) (key : RateTableKey) : Seamless (row.start key) := by
  cases row with
  | table row => exact trivial
  | bracket | threshold | credit | deduction => exact rfl

theorem seamless_extendThresholds (row : ThresholdRow) (d : RateTableDefinition) :
    Seamless (extendThresholds row d) := by
  unfold extendThresholds
  split
  · exact rfl
  · exact trivial

theorem seamless_extendCredits (row : CreditRow) (d : RateTableDefinition) :
    Seamless (extendCredits row d) := by
  unfold extendCredits
  split
  · exact rfl
  split
  · exact rfl
  split
  next fault failed =>
    unfold phaseOutOf at failed
    split at failed <;> cases failed
    exact rfl
  · split
    · exact rfl
    · exact trivial

theorem seamless_extendDeductions (row : DeductionRow) (d : RateTableDefinition) :
    Seamless (extendDeductions row d) := by
  unfold extendDeductions
  split
  · exact rfl
  · split
    · exact rfl
    · exact trivial

theorem seamless_extend (row : RateTableRow) (d : RateTableDefinition) :
    Seamless (row.extend d) := by
  cases row with
  | table row => exact rfl
  | bracket row => exact trivial
  | threshold row => exact seamless_extendThresholds row d
  | credit row => exact seamless_extendCredits row d
  | deduction row => exact seamless_extendDeductions row d

end RateTableRow

namespace RateTableRows

variable {rows own : RateTableRows} {key : RateTableKey} {a : Assembly} {fault : TableFault}

theorem isSeam_of_outcome (failed : own.outcome key = some (.error fault)) :
    fault.isSeam = false := by
  cases all : own.all with
  | nil =>
    rw [outcome_eq_none_iff.2 all] at failed
    cases failed
  | cons row rest =>
    rw [outcome_cons all, Option.some.injEq] at failed
    -- The first row starts the definition and the others extend it; none of them compares bounds.
    have ends := (row.seamless_start key).bind fun d _ =>
      Ends.foldlM (fun row (_ : row ∈ rest) d _ => row.seamless_extend d) (s := d) trivial
    simp only [bind] at ends
    rw [failed] at ends
    exact ends

/-- Rows that can be put together name existing categories, and what is known of a key comes from
its own rows. -/
theorem sound_of_assembly (run : rows.assembly = .ok a) :
    a.Sound ∧ ∀ key, a.verdict key = (rows.ofKey key).outcome key := by
  have known : ∀ row ∈ rows.all, isCategory row.category = true := by
    cases unknown :
        (rows.all.map RateTableRow.category).find? (fun name => !isCategory name) with
    | none => simpa using unknown
    | some name =>
      rw [assembly_eq_error_iff.2 unknown] at run
      cases run
  obtain ⟨a', run', sound, seen⟩ := exists_assembly known
  rw [run, Except.ok.injEq] at run'
  subst run'
  exact ⟨sound, seen⟩

/-- Putting rows together finds neither a gap nor an overlap. -/
theorem isSeam_of_assembly (run : rows.assembly = .ok a) (member : fault ∈ a.faults.values) :
    fault.isSeam = false := by
  obtain ⟨sound, seen⟩ := sound_of_assembly run
  obtain ⟨⟨key, fault⟩, entry, rfl⟩ := List.mem_map.1 member
  have failed : a.verdict key = some (.error fault) :=
    Verdict.of_eq_error_iff.2 (OrderedMap.find?_eq_some_iff.2 entry)
  rw [seen] at failed
  exact isSeam_of_outcome failed

end RateTableRows

/-! ### Sets -/

namespace RateTableSet

variable {P : TableFault → Prop} {policy : FaultPolicy} {set : RateTableSet} {fault : TableFault}
  {d : RateTableDefinition}

/-- All faults that are kept are of one kind. -/
def KeepsOnly (P : TableFault → Prop) (set : RateTableSet) : Prop :=
  ∀ key fault, set.faults.find? key = some fault → P fault

/-- If an error is a fault, the fault is of one kind. -/
def FailsOnly (P : TableFault → Prop) (e : TableError) : Prop := ∀ fault, e = .fault fault → P fault

theorem ends_addFault (kept : set.KeepsOnly P) (found : P fault) :
    Ends (KeepsOnly P) (FailsOnly P) (addFault policy set fault) := by
  cases policy with
  | strict =>
    rintro fault' same
    cases same
    exact found
  | quarantine =>
    intro key fault' kept'
    unfold quarantine at kept'
    by_cases same : fault.key = key
    · subst same
      rw [OrderedMap.find?_insertNew_self, Option.some.injEq] at kept'
      subst kept'
      -- Of two faults with one key the first is kept.
      cases before : set.faults.find? fault.key with
      | none => exact found
      | some first => exact kept _ _ before
    · rw [OrderedMap.find?_insertNew_of_ne _ _ same] at kept'
      exact kept _ _ kept'

theorem ends_addDefinition (repeated : ∀ key, P (.duplicateTable key)) (kept : set.KeepsOnly P)
    (own : ∀ fault, RateTable.ofDefinition d = .error (.fault fault) → P fault) :
    Ends (KeepsOnly P) (FailsOnly P) (addDefinition policy set d) := by
  unfold addDefinition
  split
  · exact kept
  next fault failed =>
    refine ends_addFault kept ?_
    unfold nextTable at failed
    split at failed
    · cases failed
      exact repeated d.key
    · exact own fault failed
  · intro fault same
    cases same

/-- The faults of a set, and the one that a build fails with, are those of its definitions taken
alone, those that are reported, and tables that are defined more than once. -/
theorem ends_build {definitions : List RateTableDefinition} {faults : List TableFault}
    (repeated : ∀ key, P (.duplicateTable key))
    (own : ∀ d ∈ definitions, ∀ fault, RateTable.ofDefinition d = .error (.fault fault) → P fault)
    (reported : ∀ fault ∈ faults, P fault) (policy : FaultPolicy) :
    Ends (KeepsOnly P) (FailsOnly P) (build definitions faults policy) := by
  have start : empty.KeepsOnly P := by
    intro key fault found
    cases found
  have added : Ends (KeepsOnly P) (FailsOnly P)
      (definitions.foldlM (addDefinition policy) empty) :=
    Ends.foldlM (fun d member _ kept => ends_addDefinition repeated kept (own d member)) start
  exact added.bind fun set kept =>
    Ends.foldlM (fun fault member _ kept => ends_addFault kept (reported fault member)) kept

end RateTableSet

end IncomeTax

import IncomeTax.Proofs.RateTable.Verdict
import IncomeTax.RateTable.Assembly

/-!
# Rows, taken one after the other

The rows of all files, in the order the files are read, make one list, and putting them together is
one run over it. The run fails at the first row whose category does not exist. Otherwise each row
changes the verdict on its own key only: it starts a key nothing is known of, extends a definition,
and is passed over once the key has a fault. So the verdict on a key comes from the rows of that key.

## Main definitions

* `RateTableRow`, `RateTableRows.all` — the rows as one list
* `RateTableRow.key?` — the key a row belongs to
* `RateTableRow.start`, `RateTableRow.extend` — what a row makes of its key
* `RateTableRows.ofKey` — the rows of one key, file by file
* `Assembly.Sound` — the invariant of a run

## Main results

* `RateTableRows.assembly_eq_error_iff` — when a run fails
* `RateTableRows.exists_assembly` — a run that does not fail, seen at one key
-/

namespace IncomeTax

/-- A row of one of the files. -/
inductive RateTableRow where
  | table (row : TableRow)
  | bracket (row : BracketRow)
  | threshold (row : ThresholdRow)
  | credit (row : CreditRow)
  | deduction (row : DeductionRow)

/-- The category a row names exists. -/
def isCategory (name : String) : Bool := (DeclarationCategory.ofName? (Text.trim name)).isSome

/-- The key of a tax year and a category as a row names them. -/
def keyNamed? (taxYear : TaxYear) (category : String) : Option RateTableKey :=
  (DeclarationCategory.ofName? (Text.trim category)).map (⟨taxYear, ·⟩)

theorem categoryOf_of_keyNamed? {taxYear : TaxYear} {name : String} {key : RateTableKey}
    (named : keyNamed? taxYear name = some key) :
    categoryOf name = .ok key.category ∧ key.taxYear = taxYear := by
  obtain ⟨category, found, rfl⟩ := Option.map_eq_some_iff.1 named
  unfold categoryOf
  rw [found]
  exact ⟨rfl, rfl⟩

theorem categoryOf_of_not_isCategory {name : String} (unknown : isCategory name = false) :
    categoryOf name = .error ⟨name⟩ := by
  unfold categoryOf
  rw [Option.isNone_iff_eq_none.1 (Option.isSome_eq_false_iff.1 unknown)]

namespace RateTableRow

/-- The tax year of the row. -/
def taxYear : RateTableRow → TaxYear
  | .table row => row.taxYear
  | .bracket row => row.taxYear
  | .threshold row => row.taxYear
  | .credit row => row.taxYear
  | .deduction row => row.taxYear

/-- The category as the row names it. -/
def category : RateTableRow → String
  | .table row => row.category
  | .bracket row => row.category
  | .threshold row => row.category
  | .credit row => row.category
  | .deduction row => row.category

/-- The key the row belongs to, if its category exists. -/
def key? (row : RateTableRow) : Option RateTableKey := keyNamed? row.taxYear row.category

/-- Adds the row to what has been put together. -/
def addTo (row : RateTableRow) (a : Assembly) : Except UnknownCategory Assembly :=
  match row with
  | .table row => a.addTable row
  | .bracket row => a.addBracket row
  | .threshold row => a.addThreshold row
  | .credit row => a.addCredit row
  | .deduction row => a.addDeduction row

/-- The fault of a key that has rows in a file but is not listed. -/
def unlisted (key : RateTableKey) (file : String) : TableFault :=
  .malformedEntry key (file ++ " has rows for a table not listed in tables.csv")

/-- What the row makes of its key as the first one. -/
def start (key : RateTableKey) : RateTableRow → Except TableFault RateTableDefinition
  | .table row => .ok ⟨key.taxYear, key.category, row.version, [], .empty, .empty, .empty⟩
  | .bracket _ => .error (unlisted key "brackets.csv")
  | .threshold _ => .error (unlisted key "thresholds.csv")
  | .credit _ => .error (unlisted key "credits.csv")
  | .deduction _ => .error (unlisted key "deductions.csv")

/-- What the row makes of a definition of its key. -/
def extend : RateTableRow → RateTableDefinition → Except TableFault RateTableDefinition
  | .table _, d => .error (.duplicateTable d.key)
  | .bracket row, d => Assembly.extendBrackets row d
  | .threshold row, d => Assembly.extendThresholds row d
  | .credit row, d => Assembly.extendCredits row d
  | .deduction row, d => Assembly.extendDeductions row d

/-- The verdict on a key after one more row of it. -/
def change (key : RateTableKey) (found : Verdict TableFault RateTableDefinition)
    (row : RateTableRow) : Verdict TableFault RateTableDefinition :=
  found.next (some (row.start key)) row.extend

end RateTableRow

namespace RateTableRows

/-- The rows of all files but that of the tables, in the order the files are read. -/
def others (rows : RateTableRows) : List RateTableRow :=
  rows.brackets.map .bracket ++ (rows.thresholds.map .threshold ++ (rows.credits.map .credit ++
    rows.deductions.map .deduction))

/-- The rows of all files, in the order the files are read. -/
def all (rows : RateTableRows) : List RateTableRow := rows.tables.map .table ++ rows.others

/-- The rows of a key, file by file. -/
def ofKey (rows : RateTableRows) (key : RateTableKey) : RateTableRows where
  tables := rows.tables.filter fun row => (RateTableRow.table row).key? = some key
  brackets := rows.brackets.filter fun row => (RateTableRow.bracket row).key? = some key
  thresholds := rows.thresholds.filter fun row => (RateTableRow.threshold row).key? = some key
  credits := rows.credits.filter fun row => (RateTableRow.credit row).key? = some key
  deductions := rows.deductions.filter fun row => (RateTableRow.deduction row).key? = some key

theorem all_ofKey (rows : RateTableRows) (key : RateTableKey) :
    (rows.ofKey key).all = rows.all.filter (·.key? = some key) := by
  simp only [all, others, ofKey, List.filter_append, List.filter_map, Function.comp_def]

/-- Putting rows together is one run over all of them. -/
theorem assembly_eq_foldlM (rows : RateTableRows) :
    rows.assembly = rows.all.foldlM (fun a row => row.addTo a) .empty := by
  unfold assembly
  simp only [all, others, List.foldlM_append, List.foldlM_map, RateTableRow.addTo]

end RateTableRows

/-! ### When a run fails -/

namespace RateTableRow

/-- A category that does not exist fails a step. -/
theorem addTo_of_not_isCategory {row : RateTableRow} (a : Assembly)
    (unknown : isCategory row.category = false) : row.addTo a = .error ⟨row.category⟩ := by
  have failed := categoryOf_of_not_isCategory unknown
  cases row <;>
    simp only [category] at failed <;>
    simp only [addTo, Assembly.addTable, Assembly.addBracket, Assembly.addThreshold,
      Assembly.addCredit, Assembly.addDeduction, Assembly.addRow, failed, Except.map, category]

end RateTableRow

/-! ### What is kept while rows are put together -/

/-- The key of a definition, or of the fault there is instead. -/
def keyOfOutcome : Except TableFault RateTableDefinition → RateTableKey
  | .ok d => d.key
  | .error fault => fault.key

namespace Assembly

/-- What has been found out about a key. -/
def verdict (a : Assembly) (key : RateTableKey) : Verdict TableFault RateTableDefinition :=
  Verdict.of a.definitions a.faults key

/-- Definitions and faults are kept under their own keys, and no key has both. -/
structure Sound (a : Assembly) : Prop where
  apart : Verdict.Apart a.definitions a.faults
  definition_key : ∀ key d, a.definitions.find? key = some d → d.key = key
  fault_key : ∀ key fault, a.faults.find? key = some fault → fault.key = key

theorem sound_empty : empty.Sound where
  apart := Verdict.apart_empty
  definition_key key d found := by
    rw [empty, OrderedMap.find?_empty] at found
    cases found
  fault_key key fault found := by
    rw [empty, OrderedMap.find?_empty] at found
    cases found

/-- Keeps an outcome for a key. -/
def settle (a : Assembly) (key : RateTableKey) : Except TableFault RateTableDefinition → Assembly
  | .ok d => { a with definitions := a.definitions.insert key d }
  | .error fault => a.giveUp fault

variable {a : Assembly} {key : RateTableKey} {fault : TableFault} {d : RateTableDefinition}
  {outcome : Except TableFault RateTableDefinition}

theorem Sound.giveUp (sound : a.Sound) (fault : TableFault) : (a.giveUp fault).Sound where
  apart := sound.apart.giveUp
  definition_key key d found := by
    unfold Assembly.giveUp at found
    by_cases same : fault.key = key
    · subst same
      rw [OrderedMap.find?_erase_self] at found
      cases found
    · rw [OrderedMap.find?_erase_of_ne _ same] at found
      exact sound.definition_key key d found
  fault_key key fault' found := by
    unfold Assembly.giveUp at found
    by_cases same : fault.key = key
    · subst same
      rw [OrderedMap.find?_insertNew_self] at found
      cases before : a.faults.find? fault.key with
      | none =>
        rw [before] at found
        cases found
        rfl
      | some first =>
        rw [before] at found
        cases found
        exact sound.fault_key _ _ before
    · rw [OrderedMap.find?_insertNew_of_ne _ _ same] at found
      exact sound.fault_key key fault' found

theorem verdict_giveUp : (a.giveUp fault).verdict key =
    if fault.key = key then some (.error ((a.faults.find? fault.key).getD fault))
    else a.verdict key := Verdict.of_giveUp

/-- Settling a key without a fault settles its verdict and no other one. -/
theorem Sound.settle (sound : a.Sound) (free : a.faults.find? key = none)
    (own : keyOfOutcome outcome = key) :
    (a.settle key outcome).Sound ∧ ∀ k, (a.settle key outcome).verdict k =
      if key = k then some outcome else a.verdict k := by
  subst own
  cases outcome with
  | error fault =>
    refine ⟨sound.giveUp fault, fun k => verdict_giveUp.trans ?_⟩
    rw [show a.faults.find? fault.key = none from free]
    rfl
  | ok d =>
    refine ⟨⟨sound.apart.insert free, fun k d' found => ?_, sound.fault_key⟩,
      fun k => Verdict.of_insert free⟩
    rcases OrderedMap.find?_insert_eq_some_iff.1 found with ⟨rfl, rfl⟩ | ⟨-, found⟩
    · rfl
    · exact sound.definition_key k d' found

end Assembly

/-! ### Steps -/

namespace RateTableRow

open Assembly (extendBrackets extendThresholds extendCredits extendDeductions phaseOutOf
  unknownName)

variable {row : RateTableRow} {a : Assembly} {key : RateTableKey} {d : RateTableDefinition}

theorem key_start (row : RateTableRow) (key : RateTableKey) :
    keyOfOutcome (row.start key) = key := by
  cases row <;> simp only [start, unlisted, keyOfOutcome, TableFault.key, RateTableDefinition.key]

theorem key_extendThresholds (row : ThresholdRow) (d : RateTableDefinition) :
    keyOfOutcome (extendThresholds row d) = d.key := by
  unfold extendThresholds
  split <;> simp only [keyOfOutcome, TableFault.key, RateTableDefinition.key]

theorem key_extendCredits (row : CreditRow) (d : RateTableDefinition) :
    keyOfOutcome (extendCredits row d) = d.key := by
  unfold extendCredits
  split
  · simp only [keyOfOutcome, unknownName, TableFault.key]
  split
  · simp only [keyOfOutcome, unknownName, TableFault.key]
  split
  next fault failed =>
    unfold phaseOutOf at failed
    split at failed <;> cases failed
    simp only [keyOfOutcome, TableFault.key]
  · split <;> simp only [keyOfOutcome, TableFault.key, RateTableDefinition.key]

theorem key_extendDeductions (row : DeductionRow) (d : RateTableDefinition) :
    keyOfOutcome (extendDeductions row d) = d.key := by
  unfold extendDeductions
  split
  · simp only [keyOfOutcome, unknownName, TableFault.key]
  · split <;> simp only [keyOfOutcome, TableFault.key, RateTableDefinition.key]

theorem key_extend (row : RateTableRow) (d : RateTableDefinition) :
    keyOfOutcome (row.extend d) = d.key := by
  cases row with
  | table | bracket =>
    simp only [extend, extendBrackets, keyOfOutcome, TableFault.key, RateTableDefinition.key]
  | threshold row => exact key_extendThresholds row d
  | credit row => exact key_extendCredits row d
  | deduction row => exact key_extendDeductions row d

end RateTableRow

namespace Assembly

variable {a : Assembly} {key : RateTableKey}

/-- A row of a file other than that of the tables changes the verdict on its key. -/
theorem exists_addRow {file name : String} {taxYear : TaxYear}
    {extend : RateTableDefinition → Except TableFault RateTableDefinition}
    (named : keyNamed? taxYear name = some key) (own : ∀ d, keyOfOutcome (extend d) = d.key)
    (sound : a.Sound) :
    ∃ a', a.addRow file taxYear name extend = .ok a' ∧ a'.Sound ∧ ∀ k, a'.verdict k =
      if key = k then
        (a.verdict key).next (some (.error (RateTableRow.unlisted key file))) extend
      else a.verdict k := by
  obtain ⟨category, rfl⟩ := categoryOf_of_keyNamed? named
  unfold addRow
  simp only [category, Except.map]
  -- A fault is final; only without one does it matter whether the key is listed.
  cases faulty : a.faults.find? key with
  | some fault =>
    have failed : a.verdict key = some (.error fault) := Verdict.of_eq_error_iff.2 faulty
    refine ⟨a, by simp [OrderedMap.contains, faulty], sound, fun k => ?_⟩
    by_cases same : key = k
    · subst same
      rw [if_pos rfl, failed]
      rfl
    · rw [if_neg same]
  | none =>
    cases found : a.definitions.find? key with
    | none =>
      have unseen : a.verdict key = none := Verdict.of_eq_none_iff.2 ⟨found, faulty⟩
      refine ⟨a.settle key (.error (RateTableRow.unlisted key file)), ?_, ?_⟩
      · simp [OrderedMap.contains, faulty, settle, RateTableRow.unlisted]
      · rw [unseen]
        exact sound.settle faulty rfl
    | some d =>
      have good : a.verdict key = some (.ok d) := sound.apart.of_eq_ok_iff.2 found
      refine ⟨a.settle key (extend d), ?_, ?_⟩
      · cases extended : extend d <;>
          simp [OrderedMap.contains, faulty, settle, extended]
      · rw [good]
        exact sound.settle faulty ((own d).trans (sound.definition_key key d found))

/-- A row of the tables changes the verdict on its key. -/
theorem exists_addTable {row : TableRow} (named : keyNamed? row.taxYear row.category = some key)
    (sound : a.Sound) :
    ∃ a', a.addTable row = .ok a' ∧ a'.Sound ∧ ∀ k, a'.verdict k =
      if key = k then (RateTableRow.table row).change key (a.verdict key) else a.verdict k := by
  obtain ⟨category, year⟩ := categoryOf_of_keyNamed? named
  unfold addTable
  simp only [category, ← year, Except.map]
  cases faulty : a.faults.find? key with
  | some fault =>
    have failed : a.verdict key = some (.error fault) := Verdict.of_eq_error_iff.2 faulty
    refine ⟨a.giveUp (.duplicateTable key), by simp [OrderedMap.contains, faulty],
      sound.giveUp _, fun k => verdict_giveUp.trans ?_⟩
    rw [TableFault.key, faulty, failed]
    rfl
  | none =>
    cases found : a.definitions.find? key with
    | none =>
      have unseen : a.verdict key = none := Verdict.of_eq_none_iff.2 ⟨found, faulty⟩
      refine ⟨a.settle key ((RateTableRow.table row).start key), ?_, ?_⟩
      · simp [OrderedMap.contains, faulty, found, settle, RateTableRow.start]
      · rw [unseen]
        exact sound.settle faulty (RateTableRow.key_start (.table row) key)
    | some d =>
      have good : a.verdict key = some (.ok d) := sound.apart.of_eq_ok_iff.2 found
      obtain rfl : d.key = key := sound.definition_key key d found
      refine ⟨a.settle d.key (.error (.duplicateTable d.key)), ?_, ?_⟩
      · simp [OrderedMap.contains, found, settle]
      · rw [good]
        exact sound.settle faulty rfl

end Assembly

namespace RateTableRow

variable {row : RateTableRow} {a : Assembly} {key : RateTableKey}

/-- A row changes the verdict on its key. -/
theorem exists_addTo_of_key? (named : row.key? = some key) (sound : a.Sound) :
    ∃ a', row.addTo a = .ok a' ∧ a'.Sound ∧ ∀ k, a'.verdict k =
      if key = k then row.change key (a.verdict key) else a.verdict k := by
  have own := key_extend row
  cases row with
  | table row => exact Assembly.exists_addTable named sound
  | bracket row | threshold row | credit row | deduction row =>
    simp only [addTo, Assembly.addBracket, Assembly.addThreshold, Assembly.addCredit,
      Assembly.addDeduction, change, start, extend] at own ⊢
    exact Assembly.exists_addRow named own sound

/-- A row whose category exists changes the verdict on its key. -/
theorem exists_addTo (a : Assembly) (known : isCategory row.category = true) (sound : a.Sound) :
    ∃ a', row.addTo a = .ok a' ∧ a'.Sound ∧ ∀ k, a'.verdict k =
      if decide (row.key? = some k) then row.change k (a.verdict k) else a.verdict k := by
  obtain ⟨category, found⟩ := Option.isSome_iff_exists.1 known
  have named : row.key? = some ⟨row.taxYear, category⟩ := by
    unfold key? keyNamed?
    rw [found]
    rfl
  obtain ⟨a', added, sound', seen⟩ := exists_addTo_of_key? named sound
  refine ⟨a', added, sound', fun k => (seen k).trans ?_⟩
  by_cases own : (⟨row.taxYear, category⟩ : RateTableKey) = k
  · subst own
    simp [named]
  · simp [named, own]

theorem foldlM_addTo_eq_error_iff {items : List RateTableRow} {name : String} (sound : a.Sound) :
    items.foldlM (fun a row => row.addTo a) a = .error ⟨name⟩ ↔
      (items.map category).find? (fun name => !isCategory name) = some name := by
  induction items generalizing a with
  | nil => exact ⟨nofun, nofun⟩
  | cons row rest ih =>
    rw [List.foldlM_cons, List.map_cons]
    cases known : isCategory row.category with
    | false =>
      rw [addTo_of_not_isCategory a known, List.find?_cons_of_pos (by simp [known])]
      simp [bind, Except.bind]
    | true =>
      obtain ⟨a', added, sound', -⟩ := exists_addTo a known sound
      rw [added, List.find?_cons_of_neg (by simp [known])]
      exact ih sound'

end RateTableRow

/-! ### Runs -/

namespace RateTableRows

variable {rows : RateTableRows} {name : String}

/-- A run fails at the first row whose category does not exist, and names that category. -/
theorem assembly_eq_error_iff : rows.assembly = .error ⟨name⟩ ↔
    (rows.all.map RateTableRow.category).find? (fun name => !isCategory name) = some name := by
  rw [assembly_eq_foldlM]
  exact RateTableRow.foldlM_addTo_eq_error_iff Assembly.sound_empty

/-- When all categories exist, a run succeeds, and the verdict on a key comes from its own rows. -/
theorem exists_assembly (known : ∀ row ∈ rows.all, isCategory row.category = true) :
    ∃ a, rows.assembly = .ok a ∧ a.Sound ∧ ∀ key, a.verdict key =
      (rows.ofKey key).all.foldl (RateTableRow.change key) none := by
  have one : ∀ row ∈ rows.all, ∀ a : Assembly, a.Sound → ∃ a', row.addTo a = .ok a' ∧ a'.Sound ∧
      ∀ k, a'.verdict k =
        if decide (row.key? = some k) then row.change k (a.verdict k) else a.verdict k :=
    fun row member a sound => RateTableRow.exists_addTo a (known row member) sound
  obtain ⟨a, run, sound, seen⟩ := Verdict.exists_foldlM_of_step one Assembly.sound_empty
  refine ⟨a, rows.assembly_eq_foldlM.trans run, sound, fun key => ?_⟩
  rw [seen, all_ofKey]
  rfl

end RateTableRows

end IncomeTax

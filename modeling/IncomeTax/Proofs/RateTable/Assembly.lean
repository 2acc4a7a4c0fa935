import IncomeTax.Proofs.RateTable.Rows

/-!
# What an assembly makes of its rows

The rows of a key make a definition when the key is listed once, no name is repeated, and every row
can be read. The definition then has all rows of the key and no others: its brackets in the order of
the file, and one entry for each other row. Otherwise the key has a fault, and a key without rows has
neither. Definitions and faults come in key order.

## Main definitions

* `CreditRow.rule?`, `DeductionRow.rule?` — the entry a row makes, if it can be read
* `RateTableRows.Complete` — rows of one key that make a definition
* `RateTableDefinition.Collects` — the definition has these rows and no others

## Main results

* `AddsEntry.foldlM_eq_ok_iff` — when rows of one file can be added, and what they add
* `RateTableRows.outcome_eq_ok_iff` — when the rows of a key make a definition, and which one
* `RateTableRows.assemble_exact` — definitions and faults of all rows
-/

namespace IncomeTax

/-! ### What a row says -/

/-- The bracket of a row. -/
def BracketRow.bracket (row : BracketRow) : BracketDefinition :=
  ⟨row.lowerBound, row.upperBound, row.rate⟩

/-- The entry of a threshold row. -/
def ThresholdRow.entry (row : ThresholdRow) : String × Decimal := (row.name, row.amount)

namespace CreditRow

/-- The kind of credit that a row names. -/
def type? (row : CreditRow) : Option CreditType := CreditType.ofName? (Text.trim row.creditType)

/-- The partner requirement that a row names. -/
def partner? (row : CreditRow) : Option PartnerRequirement :=
  PartnerRequirement.ofCell? (Text.trim row.partner)

/-- The phase-out that the two cells of a row make. -/
def phaseOut? (row : CreditRow) : Option PhaseOut :=
  row.phaseOutThreshold.bind fun threshold => row.phaseOutRate.map fun rate => ⟨threshold, rate⟩

/-- The row names what exists, and has both cells of a phase-out or neither. -/
structure Readable (row : CreditRow) : Prop where
  type : row.type?.isSome
  partner : row.partner?.isSome
  phaseOut : row.phaseOutThreshold.isSome = row.phaseOutRate.isSome

/-- The entry of a row that can be read. -/
def rule? (row : CreditRow) : Option (CreditType × CreditRule) :=
  if row.phaseOutThreshold.isSome = row.phaseOutRate.isSome then
    row.type?.bind fun type => row.partner?.map fun partner =>
      (type, ⟨row.maximum, row.phaseOut?, row.automatic, row.minimumAge, row.dependentUnderAge,
        partner⟩)
  else none

theorem rule?_isSome_iff {row : CreditRow} : row.rule?.isSome ↔ row.Readable := by
  unfold rule?
  constructor
  · intro made
    split_ifs at made with whole
    · rw [Option.isSome_bind] at made
      cases type : row.type? <;> cases partner : row.partner? <;> simp [type, partner] at made
      exact ⟨by simp [type], by simp [partner], whole⟩
    · cases made
  · rintro ⟨type, partner, whole⟩
    obtain ⟨type, known⟩ := Option.isSome_iff_exists.1 type
    obtain ⟨partner, required⟩ := Option.isSome_iff_exists.1 partner
    simp [whole, known, required]

instance (row : CreditRow) : Decidable row.Readable :=
  decidable_of_iff _ rule?_isSome_iff

/-- The entry of a row is under the kind of credit that the row names. -/
theorem type?_of_rule? {row : CreditRow} {entry : CreditType × CreditRule}
    (made : row.rule? = some entry) : row.type? = some entry.1 := by
  unfold rule? at made
  split_ifs at made
  obtain ⟨type, known, made⟩ := Option.bind_eq_some_iff.1 made
  obtain ⟨partner, -, rfl⟩ := Option.map_eq_some_iff.1 made
  exact known

end CreditRow

namespace DeductionRow

/-- The kind of deduction that a row names. -/
def type? (row : DeductionRow) : Option DeductionType :=
  DeductionType.ofName? (Text.trim row.deductionType)

/-- The entry of a row that can be read. -/
def rule? (row : DeductionRow) : Option (DeductionType × DeductionRule) :=
  row.type?.map (·, ⟨row.ceiling, row.shareable⟩)

theorem rule?_isSome_iff {row : DeductionRow} : row.rule?.isSome ↔ row.type?.isSome := by
  rw [rule?, Option.isSome_map]

/-- The entry of a row is under the kind of deduction that the row names. -/
theorem type?_of_rule? {row : DeductionRow} {entry : DeductionType × DeductionRule}
    (made : row.rule? = some entry) : row.type? = some entry.1 := by
  obtain ⟨type, known, rfl⟩ := Option.map_eq_some_iff.1 made
  exact known

end DeductionRow

/-! ### Rows of one file -/

section Entries

variable {ρ κ ν : Type} [Ord κ] [Std.TransOrd κ]

/-- Each row adds its entry to one map of a definition, under a new key. -/
structure AddsEntry (extend : ρ → RateTableDefinition → Except TableFault RateTableDefinition)
    (pair? : ρ → Option (κ × ν)) (get : RateTableDefinition → OrderedMap κ ν)
    (put : OrderedMap κ ν → RateTableDefinition → RateTableDefinition) : Prop where
  extend_eq_ok_iff : ∀ row d d', extend row d = .ok d' ↔ ∃ entry, pair? row = some entry ∧
    (get d).find? entry.1 = none ∧ d' = put ((get d).insert entry.1 entry.2) d
  get_put : ∀ m d, get (put m d) = m
  put_put : ∀ m m' d, put m (put m' d) = put m d
  put_get : ∀ d, put (get d) d = d

variable [Std.LawfulEqOrd κ]
  {extend : ρ → RateTableDefinition → Except TableFault RateTableDefinition}
  {pair? : ρ → Option (κ × ν)} {get : RateTableDefinition → OrderedMap κ ν}
  {put : OrderedMap κ ν → RateTableDefinition → RateTableDefinition} {rows : List ρ}
  {d d' : RateTableDefinition}

/-- Rows can be added when each makes an entry, and all keys are new and differ. -/
theorem AddsEntry.foldlM_eq_ok_iff (adds : AddsEntry extend pair? get put) :
    rows.foldlM (fun d row => extend row d) d = .ok d' ↔
      (∀ row ∈ rows, (pair? row).isSome) ∧ ((rows.filterMap pair?).map Prod.fst).Nodup ∧
      (∀ k ∈ (rows.filterMap pair?).map Prod.fst, (get d).find? k = none) ∧
      d' = put ((rows.filterMap pair?).foldl (fun m e => m.insert e.1 e.2) (get d)) d := by
  induction rows generalizing d with
  | nil =>
    rw [List.foldlM_nil, List.filterMap_nil, List.foldl_nil, adds.put_get]
    constructor
    · intro same
      cases same
      exact ⟨nofun, .nil, nofun, rfl⟩
    · rintro ⟨-, -, -, rfl⟩
      rfl
  | cons row rest ih =>
    rw [Verdict.foldlM_cons_eq_ok_iff]
    cases made : pair? row with
    | none => simp [adds.extend_eq_ok_iff, made]
    | some entry =>
      have fresh : ∀ k, ((get d).insert entry.1 entry.2).find? k = none ↔
          entry.1 ≠ k ∧ (get d).find? k = none := by
        intro k
        by_cases same : entry.1 = k
        · subst same
          simp
        · simp [OrderedMap.find?_insert_of_ne _ _ same, same]
      -- What the rest needs of the larger map is what it needs of the map, and other keys.
      simp only [adds.extend_eq_ok_iff, made, Option.some.injEq, exists_eq_left', and_assoc,
        exists_and_left, exists_eq_left, ih, adds.get_put, adds.put_put, fresh,
        List.filterMap_cons_some made, List.forall_mem_cons, List.map_cons, List.nodup_cons,
        List.foldl_cons, Option.isSome_some, true_and, forall_and]
      constructor
      · rintro ⟨new, whole, nodup, differ, news, rfl⟩
        exact ⟨whole, fun member => differ _ member rfl, nodup, new, news, rfl⟩
      · rintro ⟨whole, absent, nodup, new, news, rfl⟩
        exact ⟨new, whole, nodup, fun k member same => absent (same ▸ member), news, rfl⟩

theorem map_eq_map_some_filterMap {α β : Type} {f : α → Option β} {xs : List α}
    (all : ∀ x ∈ xs, (f x).isSome) : xs.map f = (xs.filterMap f).map some := by
  induction xs with
  | nil => rfl
  | cons x rest ih =>
    rw [List.forall_mem_cons] at all
    obtain ⟨y, made⟩ := Option.isSome_iff_exists.1 all.1
    rw [List.filterMap_cons_some made, List.map_cons, List.map_cons, made, ih all.2]

omit [Ord κ] [Std.TransOrd κ] [Std.LawfulEqOrd κ] in
/-- The keys of all entries differ when the names in the rows do. -/
theorem nodup_keys_iff {name? : ρ → Option κ} (all : ∀ row ∈ rows, (pair? row).isSome)
    (named : ∀ row entry, pair? row = some entry → name? row = some entry.1) :
    ((rows.filterMap pair?).map Prod.fst).Nodup ↔ (rows.map name?).Nodup := by
  have name_eq : ∀ row ∈ rows, name? row = (pair? row).map Prod.fst := by
    intro row member
    obtain ⟨entry, made⟩ := Option.isSome_iff_exists.1 (all row member)
    rw [named row entry made, made, Option.map_some]
  have names : rows.map name? = ((rows.filterMap pair?).map Prod.fst).map some :=
    calc rows.map name?
      _ = rows.map (Option.map Prod.fst ∘ pair?) := List.map_congr_left name_eq
      _ = (rows.map pair?).map (Option.map Prod.fst) := List.map_map.symm
      _ = ((rows.filterMap pair?).map some).map (Option.map Prod.fst) := by
        rw [map_eq_map_some_filterMap all]
      _ = ((rows.filterMap pair?).map Prod.fst).map some := by
        simp only [List.map_map, Function.comp_def, Option.map_some]
  rw [names, List.nodup_map_iff (Option.some_injective κ)]

end Entries

/-! ### The files of a table -/

open Assembly (extendBrackets extendThresholds extendCredits extendDeductions phaseOutOf)

theorem foldlM_extendBrackets (rows : List BracketRow) (d : RateTableDefinition) :
    rows.foldlM (fun d row => extendBrackets row d) d =
      .ok { d with brackets := d.brackets ++ rows.map BracketRow.bracket } := by
  induction rows generalizing d with
  | nil => simp [pure, Except.pure]
  | cons row rest ih =>
    rw [List.foldlM_cons, extendBrackets]
    refine (ih _).trans ?_
    simp [BracketRow.bracket]

theorem addsEntry_extendThresholds :
    AddsEntry extendThresholds (fun row => some row.entry) RateTableDefinition.thresholds
      (fun m d => { d with thresholds := m }) where
  extend_eq_ok_iff row d d' := by
    unfold extendThresholds ThresholdRow.entry OrderedMap.contains
    cases found : d.thresholds.find? row.name with
    | none => simp [found, eq_comm (a := d')]
    | some amount => simp [found]
  get_put m d := rfl
  put_put m m' d := rfl
  put_get d := rfl

theorem phaseOutOf_eq (key : RateTableKey) (type : CreditType) (row : CreditRow) :
    phaseOutOf key type row =
      if row.phaseOutThreshold.isSome = row.phaseOutRate.isSome then .ok row.phaseOut?
      else .error (.invalidPhaseOut key type) := by
  unfold phaseOutOf CreditRow.phaseOut?
  cases row.phaseOutThreshold <;> cases row.phaseOutRate <;> rfl

theorem addsEntry_extendCredits :
    AddsEntry extendCredits CreditRow.rule? RateTableDefinition.credits
      (fun m d => { d with credits := m }) where
  extend_eq_ok_iff row d d' := by
    unfold extendCredits CreditRow.rule? CreditRow.type? CreditRow.partner? OrderedMap.contains
    simp only [phaseOutOf_eq]
    cases CreditType.ofName? (Text.trim row.creditType) with
    | none => simp
    | some type =>
      cases PartnerRequirement.ofCell? (Text.trim row.partner) with
      | none => simp
      | some partner =>
        by_cases whole : row.phaseOutThreshold.isSome = row.phaseOutRate.isSome
        · cases found : d.credits.find? type with
          | none => simp [found, whole, eq_comm (a := d')]
          | some rule => simp [found, whole]
        · simp [whole]
  get_put m d := rfl
  put_put m m' d := rfl
  put_get d := rfl

theorem addsEntry_extendDeductions :
    AddsEntry extendDeductions DeductionRow.rule? RateTableDefinition.deductions
      (fun m d => { d with deductions := m }) where
  extend_eq_ok_iff row d d' := by
    unfold extendDeductions DeductionRow.rule? DeductionRow.type? OrderedMap.contains
    cases DeductionType.ofName? (Text.trim row.deductionType) with
    | none => simp
    | some type =>
      cases found : d.deductions.find? type with
      | none => simp [found, eq_comm (a := d')]
      | some rule => simp [found]
  get_put m d := rfl
  put_put m m' d := rfl
  put_get d := rfl

/-! ### One key -/

/-- The definition says what its rows say: it has the version of its only table row, the brackets in
the order of their rows, and one entry for each other row. -/
structure RateTableDefinition.Collects (d : RateTableDefinition) (own : RateTableRows) : Prop where
  version : own.tables.map TableRow.version = [d.version]
  brackets : d.brackets = own.brackets.map BracketRow.bracket
  thresholds : d.thresholds.entries.Perm (own.thresholds.map ThresholdRow.entry)
  credits : (d.credits.entries.map some).Perm (own.credits.map CreditRow.rule?)
  deductions : (d.deductions.entries.map some).Perm (own.deductions.map DeductionRow.rule?)

namespace RateTableRows

/-- The rows of one key make a definition: the key is listed once, every row can be read, and no name
is repeated. -/
structure Complete (own : RateTableRows) : Prop where
  listed : ∃ table, own.tables = [table]
  thresholds : (own.thresholds.map ThresholdRow.name).Nodup
  credits_readable : ∀ row ∈ own.credits, row.Readable
  credits : (own.credits.map CreditRow.type?).Nodup
  deductions_readable : ∀ row ∈ own.deductions, row.type?.isSome
  deductions : (own.deductions.map DeductionRow.type?).Nodup

instance (own : RateTableRows) : Decidable own.Complete :=
  decidable_of_iff
    (own.tables.length = 1 ∧ (own.thresholds.map ThresholdRow.name).Nodup ∧
      (∀ row ∈ own.credits, row.Readable) ∧ (own.credits.map CreditRow.type?).Nodup ∧
      (∀ row ∈ own.deductions, row.type?.isSome) ∧ (own.deductions.map DeductionRow.type?).Nodup)
    ⟨fun ⟨one, thresholds, readable, credits, known, deductions⟩ =>
      ⟨List.length_eq_one_iff.1 one, thresholds, readable, credits, known, deductions⟩,
    fun ⟨listed, thresholds, readable, credits, known, deductions⟩ =>
      ⟨List.length_eq_one_iff.2 listed, thresholds, readable, credits, known, deductions⟩⟩

/-- The definition that the rows of a key make. -/
def collect (own : RateTableRows) (key : RateTableKey) (version : String) : RateTableDefinition where
  taxYear := key.taxYear
  category := key.category
  version := version
  brackets := own.brackets.map BracketRow.bracket
  thresholds := .ofList (own.thresholds.map ThresholdRow.entry)
  credits := .ofList (own.credits.filterMap CreditRow.rule?)
  deductions := .ofList (own.deductions.filterMap DeductionRow.rule?)

/-- What the rows of a key make of it. -/
def outcome (own : RateTableRows) (key : RateTableKey) : Verdict TableFault RateTableDefinition :=
  own.all.foldl (RateTableRow.change key) none

variable {own : RateTableRows} {key : RateTableKey} {d : RateTableDefinition} {version : String}

theorem keys_credits_iff {rows : List CreditRow} :
    (∀ row ∈ rows, row.rule?.isSome) ∧ ((rows.filterMap CreditRow.rule?).map Prod.fst).Nodup ↔
      (∀ row ∈ rows, row.Readable) ∧ (rows.map CreditRow.type?).Nodup := by
  simp only [← CreditRow.rule?_isSome_iff]
  exact and_congr_right fun all => nodup_keys_iff all fun _ _ => CreditRow.type?_of_rule?

theorem keys_deductions_iff {rows : List DeductionRow} :
    (∀ row ∈ rows, row.rule?.isSome) ∧ ((rows.filterMap DeductionRow.rule?).map Prod.fst).Nodup ↔
      (∀ row ∈ rows, row.type?.isSome) ∧ (rows.map DeductionRow.type?).Nodup := by
  simp only [← DeductionRow.rule?_isSome_iff]
  exact and_congr_right fun all => nodup_keys_iff all fun _ _ => DeductionRow.type?_of_rule?

/-- What the rows of the other files make of a table without rows. -/
theorem foldlM_others_eq_ok_iff :
    own.others.foldlM (fun d row => row.extend d)
      ⟨key.taxYear, key.category, version, [], .empty, .empty, .empty⟩ = .ok d ↔
    (own.thresholds.map ThresholdRow.name).Nodup ∧
      ((∀ row ∈ own.credits, row.Readable) ∧ (own.credits.map CreditRow.type?).Nodup) ∧
      ((∀ row ∈ own.deductions, row.type?.isSome) ∧
        (own.deductions.map DeductionRow.type?).Nodup) ∧ d = own.collect key version := by
  have thresholds : (own.thresholds.filterMap fun row => some row.entry) =
      own.thresholds.map ThresholdRow.entry := congrFun List.filterMap_eq_map _
  have names : (own.thresholds.map ThresholdRow.entry).map Prod.fst =
      own.thresholds.map ThresholdRow.name := List.map_map
  rw [← keys_credits_iff, ← keys_deductions_iff]
  simp only [others, Verdict.foldlM_append_eq_ok_iff, List.foldlM_map, RateTableRow.extend,
    foldlM_extendBrackets, addsEntry_extendThresholds.foldlM_eq_ok_iff,
    addsEntry_extendCredits.foldlM_eq_ok_iff, addsEntry_extendDeductions.foldlM_eq_ok_iff,
    Except.ok.injEq, exists_eq_left', and_assoc, exists_and_left, exists_eq_left,
    OrderedMap.find?_empty, implies_true, true_and, Option.isSome_some, thresholds, names,
    List.nil_append]
  rfl

/-- The first row of a key starts it, and all others extend it. -/
theorem outcome_cons {row : RateTableRow} {rest : List RateTableRow} (all : own.all = row :: rest) :
    own.outcome key =
      some ((row.start key).bind fun d => rest.foldlM (fun d row => row.extend d) d) := by
  unfold outcome
  rw [all, List.foldl_cons]
  exact Verdict.foldl_next_some (fun row => some (RateTableRow.start key row)) RateTableRow.extend
    rest (row.start key)

/-- A key has neither a definition nor a fault when it has no rows. -/
theorem outcome_eq_none_iff : own.outcome key = none ↔ own.all = [] := by
  constructor
  · intro unseen
    cases all : own.all with
    | nil => rfl
    | cons row rest =>
      rw [outcome_cons all] at unseen
      cases unseen
  · intro all
    rw [outcome, all, List.foldl_nil]

/-- Rows without a table start with a fault. -/
theorem exists_start_eq_error {row : RateTableRow} (member : row ∈ own.others) :
    ∃ fault, row.start key = .error fault := by
  cases row with
  | table row => simp [others] at member
  | bracket | threshold | credit | deduction => exact ⟨_, rfl⟩

/-- A key that is not listed has no definition. -/
theorem outcome_ne_ok_of_unlisted (unlisted : own.tables = []) :
    own.outcome key ≠ some (.ok d) := by
  have all : own.all = own.others := by rw [all, unlisted, List.map_nil, List.nil_append]
  intro made
  cases others : own.others with
  | nil =>
    rw [outcome_eq_none_iff.2 (all.trans others)] at made
    cases made
  | cons row rest =>
    have member : row ∈ own.others := others ▸ List.mem_cons_self
    obtain ⟨fault, failed⟩ : ∃ fault, row.start key = .error fault :=
      exists_start_eq_error member
    rw [outcome_cons (all.trans others), failed] at made
    cases made

theorem complete_iff {table : TableRow} (listed : own.tables = [table]) :
    own.Complete ↔ (own.thresholds.map ThresholdRow.name).Nodup ∧
      ((∀ row ∈ own.credits, row.Readable) ∧ (own.credits.map CreditRow.type?).Nodup) ∧
      (∀ row ∈ own.deductions, row.type?.isSome) ∧
        (own.deductions.map DeductionRow.type?).Nodup := by
  constructor
  · rintro ⟨-, thresholds, readable, credits, known, deductions⟩
    exact ⟨thresholds, ⟨readable, credits⟩, known, deductions⟩
  · rintro ⟨thresholds, ⟨readable, credits⟩, known, deductions⟩
    exact ⟨⟨table, listed⟩, thresholds, readable, credits, known, deductions⟩

/-- The rows of a key make a definition when they are complete. -/
theorem outcome_eq_ok_iff : own.outcome key = some (.ok d) ↔
    own.Complete ∧ ∃ table ∈ own.tables, d = own.collect key table.version := by
  cases tables : own.tables with
  | nil => simp [outcome_ne_ok_of_unlisted tables]
  | cons table more =>
    have all : own.all = .table table :: (more.map .table ++ own.others) := by
      rw [all, tables, List.map_cons, List.cons_append]
    rw [outcome_cons all]
    cases more with
    | nil =>
      simp only [List.mem_singleton, exists_eq_left, complete_iff tables, and_assoc]
      refine Option.some_inj.trans (foldlM_others_eq_ok_iff.trans ?_)
      simp only [and_assoc]
    | cons second more =>
      -- The second row of the tables is the fault, whatever the other files say.
      have repeated : ¬ own.Complete := by
        intro complete
        obtain ⟨only, listed⟩ := complete.listed
        rw [tables] at listed
        cases listed
      simp [RateTableRow.start, Except.bind, RateTableRow.extend, bind, repeated]

/-- What complete rows make has all of them and no others. -/
theorem Complete.collects (complete : own.Complete) (key : RateTableKey) {table : TableRow}
    (listed : table ∈ own.tables) : (own.collect key table.version).Collects own where
  version := by
    obtain ⟨only, tables⟩ := complete.listed
    rw [tables, List.mem_singleton] at listed
    rw [tables, listed]
    rfl
  brackets := rfl
  thresholds := by
    have names : (own.thresholds.map ThresholdRow.entry).map Prod.fst =
        own.thresholds.map ThresholdRow.name := List.map_map
    exact OrderedMap.perm_entries_ofList (names ▸ complete.thresholds)
  credits := by
    obtain ⟨made, nodup⟩ := keys_credits_iff.2 ⟨complete.credits_readable, complete.credits⟩
    rw [map_eq_map_some_filterMap made]
    exact (OrderedMap.perm_entries_ofList nodup).map some
  deductions := by
    obtain ⟨made, nodup⟩ :=
      keys_deductions_iff.2 ⟨complete.deductions_readable, complete.deductions⟩
    rw [map_eq_map_some_filterMap made]
    exact (OrderedMap.perm_entries_ofList nodup).map some

/-! ### All rows -/

variable {rows : RateTableRows}

/-- Something is known of a key when it occurs in a row. -/
theorem outcome_ofKey_ne_none_iff : (rows.ofKey key).outcome key ≠ none ↔
    ∃ row ∈ rows.all, row.key? = some key := by
  rw [Ne, outcome_eq_none_iff, all_ofKey, List.filter_eq_nil_iff]
  simp

/-- A definition that is kept has all rows of its key and no others. -/
theorem collects_of_mem {a : Assembly} (sound : a.Sound)
    (seen : ∀ key, a.verdict key = (rows.ofKey key).outcome key)
    (member : d ∈ a.definitions.values) : d.Collects (rows.ofKey d.key) := by
  obtain ⟨⟨key, d⟩, entry, rfl⟩ := List.mem_map.1 member
  have found : a.definitions.find? key = some d := OrderedMap.find?_eq_some_iff.2 entry
  have good : a.verdict key = some (.ok d) := sound.apart.of_eq_ok_iff.2 found
  rw [seen, ← sound.definition_key key d found, outcome_eq_ok_iff] at good
  obtain ⟨complete, table, listed, made⟩ := good
  have collects := complete.collects d.key listed
  rwa [← made] at collects

/-- An assembly fails with the first category that does not exist, in the order the files are read.
Otherwise a key that occurs in a row has either a definition or a fault, and no other key has one. It
has a definition exactly when its rows are complete, and the definition then has all of them and no
others. Definitions and faults come in key order. -/
theorem assemble_exact (rows : RateTableRows) :
    (∀ name, rows.assemble = .error ⟨name⟩ ↔
      (rows.all.map RateTableRow.category).find? (fun name => !isCategory name) = some name) ∧
    ((∀ row ∈ rows.all, isCategory row.category = true) →
      ∃ batch, rows.assemble = .ok batch ∧
        (batch.definitions.map RateTableDefinition.key).Pairwise (compare · · = .lt) ∧
        (batch.faults.map TableFault.key).Pairwise (compare · · = .lt) ∧
        ∀ key,
          ((∃ row ∈ rows.all, row.key? = some key) ↔
            key ∈ batch.definitions.map RateTableDefinition.key ∨
              key ∈ batch.faults.map TableFault.key) ∧
          ¬ (key ∈ batch.definitions.map RateTableDefinition.key ∧
            key ∈ batch.faults.map TableFault.key) ∧
          (key ∈ batch.definitions.map RateTableDefinition.key ↔ (rows.ofKey key).Complete) ∧
          ∀ d ∈ batch.definitions, d.key = key → d.Collects (rows.ofKey key)) := by
  constructor
  · intro name
    rw [← assembly_eq_error_iff, assemble]
    cases rows.assembly <;> simp [Except.map]
  · intro known
    obtain ⟨a, run, sound, seen⟩ := exists_assembly known
    have seen : ∀ key, a.verdict key = (rows.ofKey key).outcome key := seen
    have defined : ∀ key d, a.definitions.find? key = some d ↔ a.verdict key = some (.ok d) :=
      fun key d => sound.apart.of_eq_ok_iff.symm
    have failed : ∀ key fault,
        a.faults.find? key = some fault ↔ a.verdict key = some (.error fault) :=
      fun key fault => Verdict.of_eq_error_iff.symm
    refine ⟨⟨a.definitions.values, a.faults.values⟩, by rw [assemble, run]; rfl, ?_⟩
    -- Both lists are listed by the keys of their maps, and these by the verdicts.
    simp only [OrderedMap.map_values_eq_keys sound.definition_key,
      OrderedMap.map_values_eq_keys sound.fault_key, OrderedMap.mem_keys_iff, defined, failed]
    refine ⟨a.definitions.pairwise_keys, a.faults.pairwise_keys, fun key => ⟨?_, ?_, ?_, ?_⟩⟩
    · rw [← outcome_ofKey_ne_none_iff, ← seen]
      cases a.verdict key with
      | none => simp
      | some outcome => cases outcome <;> simp
    · rintro ⟨⟨d, good⟩, fault, bad⟩
      rw [good] at bad
      cases bad
    · simp only [seen, outcome_eq_ok_iff]
      constructor
      · rintro ⟨d, complete, -⟩
        exact complete
      · intro complete
        obtain ⟨table, tables⟩ := complete.listed
        exact ⟨_, complete, table, tables ▸ List.mem_singleton_self table, rfl⟩
    · rintro d member rfl
      exact collects_of_mem sound seen member

/-! ### Rows of four tables -/

/-- Rows of a year: a complete table for residents, a table that is listed twice for non-residents, a
bracket of a table for migration that is not listed, and a provisional table with a credit that has a
threshold for its phase-out and no rate. -/
def sampleRows (year : TaxYear) : RateTableRows where
  tables :=
    [⟨year, "non-resident", "1"⟩, ⟨year, " resident ", "1"⟩, ⟨year, "non-resident", "2"⟩,
      ⟨year, "provisional-resident", "1"⟩]
  brackets :=
    [⟨year, "resident", .zero, some .one, .zero⟩, ⟨year, "migration", .zero, none, .one⟩,
      ⟨year, "resident", .one, none, .one⟩]
  thresholds := [⟨year, "resident", "minimum_refund", .one⟩]
  credits :=
    [⟨year, "resident", "elderly-credit", .one, some .one, some .zero, false, none, none, ""⟩,
      ⟨year, "provisional-resident", "elderly-credit", .one, some .one, none, false, none, none, ""⟩]
  deductions := [⟨year, "resident", "gifts", none, false⟩]

/-- Of the sample rows only those for residents make a definition. -/
theorem assemble_exact_of_sampleRows :
    let year : TaxYear := ⟨2024, by decide⟩
    (∀ row ∈ (sampleRows year).all, isCategory row.category = true) ∧
    ∃ batch, (sampleRows year).assemble = .ok batch ∧
      ⟨year, .resident⟩ ∈ batch.definitions.map RateTableDefinition.key ∧
      ⟨year, .nonResident⟩ ∈ batch.faults.map TableFault.key ∧
      ⟨year, .migration⟩ ∈ batch.faults.map TableFault.key ∧
      ⟨year, .provisionalResident⟩ ∈ batch.faults.map TableFault.key := by
  intro year
  have known : ∀ row ∈ (sampleRows year).all, isCategory row.category = true := by
    decide +kernel
  obtain ⟨batch, run, -, -, exact⟩ := (assemble_exact (sampleRows year)).2 known
  have faulted : ∀ key, (∃ row ∈ (sampleRows year).all, row.key? = some key) →
      ¬ ((sampleRows year).ofKey key).Complete → key ∈ batch.faults.map TableFault.key := by
    intro key occurs incomplete
    rw [← (exact key).2.2.1] at incomplete
    exact ((exact key).1.1 occurs).resolve_left incomplete
  refine ⟨known, batch, run, ?_, ?_, ?_, ?_⟩
  · rw [(exact _).2.2.1]
    decide +kernel
  · exact faulted _ (by decide +kernel) (by decide +kernel)
  · exact faulted _ (by decide +kernel) (by decide +kernel)
  · exact faulted _ (by decide +kernel) (by decide +kernel)

end RateTableRows

end IncomeTax

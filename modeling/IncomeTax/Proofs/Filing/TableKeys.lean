import IncomeTax.Proofs.Filing.Calculation
import IncomeTax.Proofs.RateTable.Published

/-!
# Errors no filing meets

Two errors guard against a broken service: a declaration meets the table of another key, or a
validated declaration has lost its calculation. Neither is ever answered. A table enters a set under
the key it is built for, and quarantine only takes tables away, so every table that is served has
the key it is asked for, whichever sets are swapped in. And a declaration can only be submitted from
the status that its calculation came with.

## Main definitions

* `RateTableSet.IsBuilt` — a set of definitions and faults, under either policy
* `RateTableSet.Keyed` — every table stands under its own key
* `StateError.IsInternal` — the two errors

## Main results

* `RateTableSet.IsBuilt.keyed` — every set that is built is keyed
* `FilingService.isBuilt_after` — all sets of a run are built
* `FilingService.no_internal_error_of_run` — no operation of a run answers one of the two errors
-/

namespace IncomeTax

namespace RateTableSet

variable {set set' : RateTableSet} {key : RateTableKey} {table : RateTable} {policy : FaultPolicy}

/-! ### The key of a table -/

/-- The set is what some definitions and faults are built to under a policy. -/
def IsBuilt (set : RateTableSet) : Prop :=
  ∃ definitions faults policy, build definitions faults policy = .ok set

/-- Every table stands under its own key. -/
def Keyed (set : RateTableSet) : Prop :=
  ∀ key table, set.tables.find? key = some table → table.key = key

namespace Keyed

theorem empty : RateTableSet.empty.Keyed := fun key _ found =>
  nomatch (OrderedMap.find?_empty key).symm.trans found

theorem quarantine (keyed : set.Keyed) (fault : TableFault) : (set.quarantine fault).Keyed := by
  intro key table found
  by_cases own : fault.key = key
  · subst own
    cases (OrderedMap.find?_erase_self _ _).symm.trans found
  · exact keyed key table ((OrderedMap.find?_erase_of_ne _ own).symm.trans found)

theorem insert (keyed : set.Keyed) (own : table.key = key) : (set.insert key table).Keyed := by
  intro key' table' found
  rcases OrderedMap.find?_insert_eq_some_iff.1 found with ⟨rfl, rfl⟩ | ⟨-, found⟩
  · exact own
  · exact keyed key' table' found

theorem addFault (keyed : set.Keyed) {fault : TableFault}
    (added : addFault policy set fault = .ok set') : set'.Keyed := by
  cases policy with
  | strict => cases added
  | quarantine =>
    cases added
    exact keyed.quarantine fault

theorem addDefinition (keyed : set.Keyed) {definition : RateTableDefinition}
    (added : addDefinition policy set definition = .ok set') : set'.Keyed := by
  unfold RateTableSet.addDefinition at added
  split at added
  next table next =>
    cases added
    refine keyed.insert ?_
    unfold nextTable at next
    split at next
    · cases next
    · exact RateTable.key_of_ofDefinition next
  next fault _ => exact keyed.addFault added
  · cases added

theorem key_of_lookup (keyed : set.Keyed) (found : set.lookup key = .ok table) :
    table.key = key := by
  unfold lookup at found
  split at found
  · cases found
  · split at found
    next found' =>
      cases found
      exact keyed key table found'
    · cases found

end Keyed

/-- Every set that is built is keyed, as it is before the first definition and after each step. -/
theorem IsBuilt.keyed (built : set.IsBuilt) : set.Keyed := by
  obtain ⟨definitions, faults, policy, built⟩ := built
  obtain ⟨defined, run, rest⟩ := bind_eq_ok_iff.1 built
  have keyed : defined.Keyed :=
    Verdict.foldlM_induction .empty (fun _ _ _ keyed added => keyed.addDefinition added) run
  exact Verdict.foldlM_induction keyed (fun _ _ _ keyed added => keyed.addFault added) rest

theorem isBuilt_of_load {batch : TableBatch} (loaded : batch.load policy = .ok set) :
    set.IsBuilt := by
  unfold TableBatch.load at loaded
  cases built : build batch.definitions batch.faults policy with
  | error e =>
    rw [built] at loaded
    cases loaded
  | ok tables =>
    rw [built] at loaded
    cases loaded
    exact ⟨_, _, _, built⟩

end RateTableSet

/-! ### The errors of a step -/

/-- The errors that would tell of a broken service rather than of its misuse. -/
inductive StateError.IsInternal : StateError → Prop
  | tableMismatch (needed found : RateTableKey) : IsInternal (.tableMismatch needed found)
  | calculationMissing : IsInternal .calculationMissing

theorem FilingError.ofOption_ne_state_error {α : Type} {x : Option α} {e : StateError} :
    FilingError.ofOption x ≠ .error (.state e) := by
  cases x <;> exact nofun

theorem FilingError.ofState_eq_error_iff {α : Type} {x : Except StateError α} {e : StateError} :
    FilingError.ofState x = .error (.state e) ↔ x = .error e := by
  cases x <;> simp [FilingError.ofState]

namespace Declaration

variable {d d' : Declaration} {table : RateTable} {e : StateError}

theorem not_isInternal_of_checkEdge {target : DeclarationStatus}
    (failed : d.checkEdge target = .error e) : ¬ e.IsInternal := by
  unfold checkEdge at failed
  split at failed
  · cases failed
  · cases failed
    exact nofun

theorem not_isInternal_of_edit {change : ContentEdit}
    (failed : (edit change).applyTo d = (.error (.state e), d')) : ¬ e.IsInternal := by
  simp only [edit, InPlace.applyTo_get_bind] at failed
  split at failed
  · cases failed
    rintro ⟨⟩
  · rcases InPlace.applyTo_lift_bind_eq_error_iff.1 failed with ⟨failed, -⟩ | ⟨_, -, failed⟩
    · exact absurd failed FilingError.ofOption_ne_state_error
    · split at failed <;> cases failed
      rintro ⟨⟩

theorem not_isInternal_of_record {event : ProcessingEvent}
    (failed : (record event).applyTo d = (.error e, d')) : ¬ e.IsInternal := by
  simp only [record, InPlace.applyTo_get_bind] at failed
  rcases InPlace.applyTo_lift_bind_eq_error_iff.1 failed with ⟨failed, -⟩ | ⟨_, -, failed⟩
  · exact not_isInternal_of_checkEdge failed
  · cases failed

/-- The submission of a declaration that has its calculation when it is validated. -/
theorem not_isInternal_of_submit (calculated : d.status ≠ .draft → d.calculation.isSome = true)
    (failed : submit.applyTo d = (.error e, d')) : ¬ e.IsInternal := by
  simp only [submit, InPlace.applyTo_get_bind] at failed
  rcases InPlace.applyTo_lift_bind_eq_error_iff.1 failed with ⟨failed, -⟩ | ⟨_, edge, failed⟩
  · exact not_isInternal_of_checkEdge failed
  · rw [checkEdge_eq_ok_iff] at edge
    -- Only a validated declaration can be submitted.
    have past : d.status ≠ .draft := by
      intro draft
      rw [draft] at edge
      cases edge
    rw [← Option.not_isNone, Bool.not_eq_true'] at calculated
    rw [InPlace.applyTo_get_bind, calculated past] at failed
    cases failed

section OwnTable

variable (own : table.key = d.rateTableKey)

include own

theorem not_isInternal_of_resolve (failed : d.resolve table = .error e) : ¬ e.IsInternal := by
  unfold resolve at failed
  rw [if_neg (not_not.2 own.symm)] at failed
  split at failed
  next crossed =>
    cases failed
    obtain ⟨claim, -, crossed⟩ := List.exists_of_findSome?_eq_some crossed
    obtain ⟨reference, -, crossed⟩ := Option.bind_eq_some_iff.1 crossed
    split at crossed
    · cases crossed
    · cases crossed
      exact nofun
  · split at failed <;> cases failed

theorem calculate_ne_state_error {r : Resolution} : d.calculate table r ≠ .error (.state e) := by
  unfold calculate
  rw [if_neg (not_not.2 own.symm)]
  cases d.calculation? table r <;> exact nofun

/-- The assessment of a declaration against the table of its own key. -/
theorem not_isInternal_of_assess (failed : d.assess table = .error (.state e)) :
    ¬ e.IsInternal := by
  unfold assess at failed
  split at failed
  · split at failed
    · exact absurd failed (calculate_ne_state_error own)
    · cases failed
  next resolved =>
    cases failed
    exact not_isInternal_of_resolve own resolved
  · cases failed
  · cases failed

theorem not_isInternal_of_validateWith
    (failed : (validateWith table).applyTo d = (.error (.state e), d')) : ¬ e.IsInternal := by
  simp only [validateWith, InPlace.applyTo_get_bind] at failed
  rcases InPlace.applyTo_lift_bind_eq_error_iff.1 failed with ⟨failed, -⟩ | ⟨_, -, failed⟩
  · exact not_isInternal_of_checkEdge (FilingError.ofState_eq_error_iff.1 failed)
  · rw [InPlace.applyTo_get_bind] at failed
    rcases InPlace.applyTo_lift_bind_eq_error_iff.1 failed with ⟨failed, -⟩ | ⟨_, -, failed⟩
    · exact not_isInternal_of_assess own failed
    · cases failed

end OwnTable

end Declaration

/-! ### Runs -/

namespace FilingService

variable {s : FilingService} {e : StateError}

theorem finish_eq_filing_error_iff {α : Type} {wrap : α → FilingAnswer}
    {outcome : FilingService × Except FilingError α} {e : FilingError} :
    (finish .filing wrap outcome).2 = .error (.filing e) ↔ outcome.2 = .error e := by
  obtain ⟨state, answer⟩ := outcome
  cases answer <;> simp [finish, Except.mapError, Except.map]

theorem finish_ne_error {ε α : Type} {wrapError : ε → OperationError} {wrap : α → FilingAnswer}
    {outcome : FilingService × Except ε α} {e : OperationError} (other : ∀ e', wrapError e' ≠ e) :
    (finish wrapError wrap outcome).2 ≠ .error e := by
  obtain ⟨state, answer⟩ := outcome
  cases answer <;> simp [finish, Except.mapError, Except.map, other]

theorem tableFor_ne_state_error {d : Declaration} : tableFor s.tables d ≠ .error (.state e) := by
  unfold tableFor
  cases s.tables.lookup d.rateTableKey <;> exact nofun

theorem not_isInternal_of_get {id : DeclarationId} (failed : s.get id = .error (.state e)) :
    ¬ e.IsInternal := by
  have failed := FilingError.ofState_eq_error_iff.1 failed
  cases stored : s.store.declarations.find? id with
  | none =>
    rw [DeclarationStore.get_of_unknown stored] at failed
    cases failed
    exact nofun
  | some d =>
    rw [DeclarationStore.get_of_stored stored] at failed
    cases failed

/-- A step in place answers an error of its own, unless it finds no declaration. -/
theorem not_isInternal_of_step {α : Type} {id : DeclarationId}
    {step : InPlace FilingError Declaration α}
    (sound : ∀ d d' e, s.store.declarations.find? id = some d →
      step.applyTo d = (.error (.state e), d') → ¬ e.IsInternal)
    (failed : (s.store.withDeclaration id step).2 = .error (.state e)) : ¬ e.IsInternal := by
  cases stored : s.store.declarations.find? id with
  | none =>
    rw [DeclarationStore.withDeclaration_of_unknown stored] at failed
    cases failed
    exact nofun
  | some d =>
    rw [DeclarationStore.withDeclaration_snd step stored] at failed
    exact sound d _ e stored (Prod.ext failed rfl)

theorem not_isInternal_of_create {new : NewDeclaration}
    (failed : (s.create new).2 = .error (.state e)) : ¬ e.IsInternal := by
  cases found : s.store.live.find? new.filingKey with
  | some id =>
    rw [create_of_find?_eq_some found] at failed
    cases failed
    exact nofun
  | none =>
    rw [create_of_find?_eq_none found] at failed
    cases failed

theorem not_isInternal_of_amend {id : DeclarationId} (failed : (s.amend id).2 = .error (.state e)) :
    ¬ e.IsInternal := by
  rcases s.amend_cases id with unknown | ⟨status, refused⟩ | ⟨d, -, -, closed⟩
  · rw [unknown] at failed
    cases failed
    exact nofun
  · rw [refused] at failed
    cases failed
    exact nofun
  · rw [closed] at failed
    cases failed

section Moment

variable (keyed : s.tables.Keyed)
  (calculated : ∀ id d, s.store.declarations.find? id = some d → d.status ≠ .draft →
    d.calculation.isSome = true)

include keyed calculated

/-- No operation answers an internal error at a moment when the tables are keyed and the
declarations past their draft have their calculation. -/
theorem not_isInternal_of_perform {op : FilingOperation}
    (failed : (s.perform op).2 = .error (.filing (.state e))) : ¬ e.IsInternal := by
  cases op with
  | create new => exact not_isInternal_of_create (finish_eq_filing_error_iff.1 failed)
  | get id => exact not_isInternal_of_get (finish_eq_filing_error_iff.1 failed)
  | edit id change =>
    refine not_isInternal_of_step (fun d d' e _ failed => ?_) (finish_eq_filing_error_iff.1 failed)
    exact Declaration.not_isInternal_of_edit failed
  | preview id =>
    refine not_isInternal_of_step (fun d d' e _ failed => ?_) (finish_eq_filing_error_iff.1 failed)
    rw [applyTo_previewStep] at failed
    rcases bind_eq_error_iff.1 (congrArg Prod.fst failed) with failed | ⟨table, found, failed⟩
    · exact absurd failed tableFor_ne_state_error
    · have own := keyed.key_of_lookup (tableFor_eq_ok_iff.1 found)
      exact Declaration.not_isInternal_of_assess own failed
  | validate id =>
    refine not_isInternal_of_step (fun d d' e _ failed => ?_) (finish_eq_filing_error_iff.1 failed)
    simp only [validateStep, InPlace.applyTo_getThe_bind] at failed
    rcases InPlace.applyTo_lift_bind_eq_error_iff.1 failed with ⟨failed, -⟩ | ⟨table, found, failed⟩
    · exact absurd failed tableFor_ne_state_error
    · have own := keyed.key_of_lookup (tableFor_eq_ok_iff.1 found)
      exact Declaration.not_isInternal_of_validateWith own failed
  | submit id =>
    refine not_isInternal_of_step (fun d d' e stored failed => ?_)
      (finish_eq_filing_error_iff.1 failed)
    obtain ⟨e, failed, ⟨⟩⟩ := InPlace.applyTo_forFiling_eq_error_iff.1 failed
    exact Declaration.not_isInternal_of_submit (calculated id d stored) failed
  | record id event =>
    refine not_isInternal_of_step (fun d d' e _ failed => ?_) (finish_eq_filing_error_iff.1 failed)
    obtain ⟨e, failed, ⟨⟩⟩ := InPlace.applyTo_forFiling_eq_error_iff.1 failed
    exact Declaration.not_isInternal_of_record failed
  | amend id => exact not_isInternal_of_amend (finish_eq_filing_error_iff.1 failed)
  | lookup | reload | reloadFrom => exact absurd failed (finish_ne_error (by rintro _ ⟨⟩))

end Moment

/-- Only a reload replaces the tables, and by a set that is built. -/
theorem tables_perform (s : FilingService) (op : FilingOperation) :
    (s.perform op).1.tables = s.tables ∨ (s.perform op).1.tables.IsBuilt := by
  cases op with
  | reload definitions faults policy =>
    simp only [perform, finish, reload]
    split
    next built => exact .inr ⟨definitions, faults, policy, built⟩
    · exact .inl rfl
  | reloadFrom fetched policy =>
    simp only [perform, finish, reloadFrom]
    split
    next loaded =>
      cases fetched with
      | error e => cases loaded
      | ok batch => exact .inr (RateTableSet.isBuilt_of_load loaded)
    · exact .inl rfl
  | _ => exact .inl rfl

/-- The tables of a service that starts with a set that is built are built at every moment. -/
theorem isBuilt_after (start : s.tables.IsBuilt) (ops : List FilingOperation) :
    (s.after ops).tables.IsBuilt := by
  induction ops using List.reverseRecOn with
  | nil => exact start
  | append_singleton ops op ih =>
    rw [after_concat]
    rcases tables_perform (s.after ops) op with same | built
    · exact same ▸ ih
    · exact built

/-- In a run of a service that starts without declarations and with tables that are built, every
table that is looked up has the key it is looked up by, and no operation answers that a table
belongs to another key or that a calculation is missing. -/
theorem no_internal_error_of_run {tables : RateTableSet} (built : tables.IsBuilt)
    (ops : List FilingOperation) :
    (∀ key table, ((start tables).after ops).tables.lookup key = .ok table → table.key = key) ∧
      ∀ op e, (((start tables).after ops).perform op).2 = .error (.filing (.state e)) →
        ¬ e.IsInternal := by
  have keyed : ((start tables).after ops).tables.Keyed := (isBuilt_after built ops).keyed
  refine ⟨fun key table found => keyed.key_of_lookup found, fun op e failed => ?_⟩
  refine not_isInternal_of_perform keyed (fun id d stored past => ?_) failed
  have current :=
    isCurrent_of_stored (s := start tables) (fun _ _ found => nomatch found) ops stored
  rcases current with ⟨draft, -⟩ | ⟨-, c, table, attached, -⟩
  · exact absurd draft past
  · rw [attached]
    rfl

/-- After an edit of the sample run, its declaration has no calculation. A submission is then
refused for its status, while a table of its key is served. -/
theorem no_internal_error_of_sampleRun :
    let s := (start .empty).after (sampleRun.take 4)
    let key := RateTableDefinition.sample2024.key
    RateTableSet.empty.IsBuilt ∧ (∃ table, s.tables.lookup key = .ok table ∧ table.key = key) ∧
      ∃ e, (s.perform (.submit ⟨1⟩)).2 = .error (.filing (.state e)) ∧ ¬ e.IsInternal ∧
        e = .invalidTransition .draft .submitted := by
  intro s key
  have built : RateTableSet.empty.IsBuilt := ⟨[], [], .strict, rfl⟩
  obtain ⟨keys, sound⟩ := no_internal_error_of_run built (sampleRun.take 4)
  obtain ⟨table, served, -⟩ : ∃ table, s.tables.lookup key = .ok table ∧
      (!table.brackets.isEmpty) = true := exists_ok_of_any (by decide +kernel)
  have refused : (s.submit ⟨1⟩).2 = .error (.state (.invalidTransition .draft .submitted)) := by
    decide +kernel
  have failed : (s.perform (.submit ⟨1⟩)).2 =
      .error (.filing (.state (.invalidTransition .draft .submitted))) :=
    finish_eq_filing_error_iff.2 refused
  exact ⟨built, ⟨table, served, keys key table served⟩, _, failed,
    sound (.submit ⟨1⟩) _ failed, rfl⟩

end FilingService

end IncomeTax

import IncomeTax.Proofs.Filing.Run

/-!
# The calculation of a stored declaration

A stored declaration has no calculation exactly while it is a draft. From its validation on it
carries the calculation of an assessment of its present contents, against a table that was served
for it at an earlier moment. Edits drop the calculation with the status, an amendment starts without
one, and a reload of the tables touches no declaration, so none is ever stale.
-/

namespace IncomeTax

namespace Declaration

/-- The calculation fits the status: none for a draft, and for any other declaration that of an
assessment of its contents against a table served for it. -/
def IsCurrent (served : RateTableKey → RateTable → Prop) (d : Declaration) : Prop :=
  (d.status = .draft ∧ d.calculation = none) ∨
    (d.status ≠ .draft ∧ ∃ c table, d.calculation = some c ∧
      served d.rateTableKey table ∧ d.assess table = .ok c)

variable {served served' : RateTableKey → RateTable → Prop} {d d' : Declaration}

theorem IsCurrent.mono (current : d.IsCurrent served)
    (more : ∀ key table, served key table → served' key table) : d.IsCurrent served' := by
  rcases current with draft | ⟨past, c, table, attached, found, assessed⟩
  · exact .inl draft
  · exact .inr ⟨past, c, table, attached, more _ _ found, assessed⟩

section Status

/-! ### The outcome of an assessment is decided by tax year, category and contents -/

variable (d : Declaration) (status : DeclarationStatus) (calculation : Option CalculationResult)
  (table : RateTable)

theorem validate_with_status : { d with status, calculation }.validate = d.validate := rfl

theorem resolve_with_status : { d with status, calculation }.resolve table = d.resolve table := rfl

theorem calculate_with_status (r : Resolution) :
    { d with status, calculation }.calculate table r = d.calculate table r := rfl

theorem assess_with_status : { d with status, calculation }.assess table = d.assess table := by
  simp only [assess, validate_with_status, resolve_with_status, calculate_with_status]

end Status

/-- Past its draft, a declaration may move on with its calculation. -/
theorem IsCurrent.with_status (current : d.IsCurrent served) {status : DeclarationStatus}
    (edge : d.status.leadsTo status = true) (unvalidated : status ≠ .validated) :
    IsCurrent served { d with status } := by
  rcases current with ⟨draft, -⟩ | ⟨-, c, table, attached, found, assessed⟩
  · rw [draft] at edge
    exact absurd (by simpa [DeclarationStatus.leadsTo, DeclarationStatus.successors] using edge)
      unvalidated
  · have kept := (assess_with_status d status d.calculation table).trans assessed
    refine .inr ⟨?_, c, table, attached, found, kept⟩
    -- No step leads back to a draft.
    rintro rfl
    revert edge
    cases d.status <;> decide

theorem IsCurrent.revision {tables : RateTableSet} (current : d.IsCurrent served)
    (now : ∀ table, tables.lookup d.rateTableKey = .ok table → served d.rateTableKey table)
    (revision : d.Revision tables d') : d'.IsCurrent served := by
  cases revision with
  | edited => exact .inl ⟨rfl, rfl⟩
  | validated table c _ found assessed =>
    have kept := (assess_with_status d .validated (some c) table).trans assessed
    exact .inr ⟨nofun, c, table, rfl, now table found, kept⟩
  | submitted edge => exact current.with_status edge nofun
  | recorded event edge => exact current.with_status edge (by cases event <;> nofun)

end Declaration

namespace FilingService

variable {s : FilingService}

/-- At every moment of a run, each stored declaration has a current calculation. -/
theorem isCurrent_of_stored
    (start : ∀ id d, s.store.declarations.find? id = some d →
      d.IsCurrent fun key table => s.ServedBefore [] key table)
    (ops : List FilingOperation) {id : DeclarationId} {d : Declaration}
    (stored : (s.after ops).store.declarations.find? id = some d) :
    d.IsCurrent fun key table => s.ServedBefore ops key table := by
  -- The invariant speaks of the run so far, so the induction adds operations at the end.
  induction ops using List.reverseRecOn generalizing id d with
  | nil => exact start id d stored
  | append_singleton ops op ih =>
    rw [after_concat] at stored
    cases (perform_change _ op).origin stored with
    | kept stored => exact (ih stored).mono fun _ _ found => found.concat op
    | created new => exact .inl ⟨rfl, rfl⟩
    | revised stored revision =>
      exact ((ih stored).mono fun _ _ found => found.concat op).revision
        (fun _ found => servedBefore_concat_of_lookup found op) revision
    | closed found edge =>
      exact ((ih found).mono fun _ _ found => found.concat op).with_status edge nofun
    | amendment => exact .inl ⟨rfl, rfl⟩

/-- At every moment of a run of a service that starts without declarations, a stored declaration has
no calculation exactly when it is a draft. Any other one has the calculation that an assessment of
its present contents gives, against a table that was served for it at an earlier moment. -/
theorem calculation_current_of_run (tables : RateTableSet) (ops : List FilingOperation)
    {id : DeclarationId} {d : Declaration}
    (stored : ((start tables).after ops).store.declarations.find? id = some d) :
    (d.calculation = none ↔ d.status = .draft) ∧
      (d.status ≠ .draft → ∃ c table, d.calculation = some c ∧
        (start tables).ServedBefore ops d.rateTableKey table ∧ d.assess table = .ok c) := by
  have current := isCurrent_of_stored (s := start tables) (fun _ _ found => nomatch found) ops stored
  rcases current with ⟨draft, missing⟩ | ⟨past, c, table, attached, served, assessed⟩
  · exact ⟨iff_of_true missing draft, fun past => absurd draft past⟩
  · refine ⟨iff_of_false ?_ past, fun _ => ⟨c, table, attached, served, assessed⟩⟩
    rw [attached]
    exact nofun

/-- The approved declaration of the sample run still has its calculation after it is amended, though
its table is no longer served. -/
theorem calculation_current_of_sampleRun :
    ∃ d, ((start .empty).after sampleRun).store.declarations.find? ⟨1⟩ = some d ∧
      d.status = .amended ∧ ∃ c table, d.calculation = some c ∧
        (start .empty).ServedBefore sampleRun d.rateTableKey table ∧ d.assess table = .ok c := by
  have found : (((start .empty).after sampleRun).store.declarations.find? ⟨1⟩).map (·.status) =
      some .amended := by
    decide +kernel
  obtain ⟨d, stored, amended⟩ := Option.map_eq_some_iff.1 found
  have current := (calculation_current_of_run .empty sampleRun stored).2
  exact ⟨d, stored, amended, current (by rw [amended]; exact nofun)⟩

end FilingService

end IncomeTax

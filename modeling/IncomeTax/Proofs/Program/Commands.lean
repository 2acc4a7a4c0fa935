import IncomeTax.Program.Outcome
import IncomeTax.Proofs.Filing.Change

/-!
# The commands agree

The three commands on a declaration take different ways through the service: one previews its
calculation, one validates it, and one validates it, submits it and reads the calculation back from
the store. They agree all the same. What a draft can be previewed with is what its validation
attaches, the submission of a validated draft cannot fail, and a preview and a validation that fail
fail with one error. So each command is a step with the answer of the same preview.

## Main definitions

* `RateTableSet.opened` — the fresh service that holds one draft

## Main results

* `FilingService.validate_of_preview_eq_ok`, `validate_of_preview_eq_error` — a validation follows
  the preview
* `FilingService.get_of_submitted` — the calculation of the preview is kept
* `RateTableSet.validate_eq`, `calculate_eq`, `file_eq` — each command as a step with the answer of
  the preview
* `RateTableSet.calculate_eq_calculated_iff`, `calculate_eq_rejected_iff` — what decides the outcome
* `RateTableSet.commands_agree` — the commands all succeed, all reject or all fail
-/

namespace IncomeTax

namespace Outcome

/-- What fails a step either rejects the declaration or fails the command, whatever the step was to
produce. -/
theorem ofStep_error (e : FilingError) :
    (∃ errors, ∀ {α : Type} (wrap : α → Outcome),
        ofStep wrap (.error e) = .ok (.rejected errors)) ∨
      ∀ {α : Type} (wrap : α → Outcome), ofStep wrap (.error e) = .error e := by
  cases e with
  | invalid errors => exact .inl ⟨errors, fun _ => rfl⟩
  | state | lookup | overflow => exact .inr fun _ => rfl

theorem ofStep_calculated_iff {answer : Except FilingError CalculationResult}
    {calculation : CalculationResult} :
    ofStep .calculated answer = .ok (.calculated calculation) ↔ answer = .ok calculation := by
  rcases answer with e | c
  · cases e <;> simp [ofStep]
  · simp [ofStep]

/-- A step whose answers are no rejections rejects the declaration for its errors alone. -/
theorem ofStep_rejected_iff {α : Type} {wrap : α → Outcome} {answer : Except FilingError α}
    {errors : List ValidationError} (accepts : ∀ a, wrap a ≠ .rejected errors) :
    ofStep wrap answer = .ok (.rejected errors) ↔ answer = .error (.invalid errors) := by
  rcases answer with e | a
  · cases e <;> simp [ofStep]
  · simp [ofStep, accepts a]

end Outcome

/-- The validation of a draft fails with its assessment. -/
theorem Declaration.applyTo_validateWith_of_assess_error {d : Declaration} {table : RateTable}
    {e : FilingError} (draft : d.status = .draft) (failed : d.assess table = .error e) :
    (validateWith table).applyTo d = (.error e, d) := by
  have edge : d.checkEdge .validated = .ok () := checkEdge_eq_ok_iff.2 (by rw [draft]; rfl)
  simp only [validateWith, InPlace.applyTo_get_bind]
  refine InPlace.applyTo_lift_bind_eq_error_iff.2
    (.inr ⟨(), FilingError.ofState_eq_ok_iff.2 edge, ?_⟩)
  rw [InPlace.applyTo_get_bind]
  exact InPlace.applyTo_lift_bind_eq_error_iff.2 (.inl ⟨failed, rfl⟩)

namespace FilingService

variable {s : FilingService} {id : DeclarationId} {d : Declaration} {c : CalculationResult}

theorem get_of_stored (stored : s.store.declarations.find? id = some d) : s.get id = .ok d :=
  congrArg _ (DeclarationStore.get_of_stored stored)

/-- The preview of a stored declaration is its assessment against the table served for it. -/
theorem preview_of_stored (stored : s.store.declarations.find? id = some d) :
    (s.preview id).2 = tableFor s.tables d >>= d.assess := by
  rw [preview, withStore, DeclarationStore.withDeclaration_snd _ stored, applyTo_previewStep]

theorem preview_eq_ok_iff (stored : s.store.declarations.find? id = some d) :
    (s.preview id).2 = .ok c ↔
      ∃ table, s.tables.lookup d.rateTableKey = .ok table ∧ d.assess table = .ok c := by
  simp only [preview_of_stored stored, bind_eq_ok_iff, tableFor_eq_ok_iff]

/-- A preview finds errors only against a table that is served. -/
theorem preview_eq_invalid_iff {errors : List ValidationError}
    (stored : s.store.declarations.find? id = some d) :
    (s.preview id).2 = .error (.invalid errors) ↔
      ∃ table, s.tables.lookup d.rateTableKey = .ok table ∧
        d.assess table = .error (.invalid errors) := by
  rw [preview_of_stored stored, tableFor]
  cases s.tables.lookup d.rateTableKey <;> simp [Except.mapError, bind, Except.bind]

/-- A draft is validated by attaching the calculation it is previewed with. -/
theorem validate_of_preview_eq_ok (stored : s.store.declarations.find? id = some d)
    (draft : d.status = .draft) (previewed : (s.preview id).2 = .ok c) :
    s.validate id =
      ({ s with store := s.store.replace id { d with status := .validated, calculation := some c } },
        .ok .validated) := by
  obtain ⟨table, found, assessed⟩ := (preview_eq_ok_iff stored).1 previewed
  have validated := Declaration.applyTo_validateWith_eq_ok_iff.2
    ⟨by rw [draft]; rfl, c, assessed, rfl, rfl⟩
  have stepped := applyTo_validateStep_eq_ok_iff.2 ⟨table, found, validated⟩
  rw [validate, DeclarationStore.withDeclaration_of_answer stored stepped nofun]
  rfl

/-- The validation of a draft that cannot be previewed fails with the error of the preview. -/
theorem validate_of_preview_eq_error {e : FilingError}
    (stored : s.store.declarations.find? id = some d) (draft : d.status = .draft)
    (failed : (s.preview id).2 = .error e) : (s.validate id).2 = .error e := by
  rw [preview_of_stored stored] at failed
  have stepped : (validateStep s.tables).applyTo d = (.error e, d) := by
    simp only [validateStep, InPlace.applyTo_getThe_bind]
    refine InPlace.applyTo_lift_bind_eq_error_iff.2 ?_
    rcases bind_eq_error_iff.1 failed with failed | ⟨table, found, failed⟩
    · exact .inl ⟨failed, rfl⟩
    · exact .inr ⟨table, found, Declaration.applyTo_validateWith_of_assess_error draft failed⟩
  rw [validate, withStore, DeclarationStore.withDeclaration_snd _ stored, stepped]

/-- A validated declaration with a calculation can be submitted, and keeps it. -/
theorem submit_of_validated (stored : s.store.declarations.find? id = some d)
    (validated : d.status = .validated) (attached : d.calculation = some c) :
    s.submit id =
      ({ s with store := s.store.replace id { d with status := .submitted } },
        .ok .submitted) := by
  have submitted := Declaration.applyTo_submit_eq_ok_iff.2
    ⟨by rw [validated]; rfl, by rw [attached]; rfl, rfl, rfl⟩
  have stepped := InPlace.applyTo_forFiling_eq_ok_iff.2 submitted
  rw [submit, DeclarationStore.withDeclaration_of_answer stored stepped nofun]
  rfl

/-- A draft that is validated and then submitted is found with the calculation it was previewed
with. -/
theorem get_of_submitted (stored : s.store.declarations.find? id = some d)
    (draft : d.status = .draft) (previewed : (s.preview id).2 = .ok c) :
    (s.validate id).2 = .ok .validated ∧ ((s.validate id).1.submit id).2 = .ok .submitted ∧
      ((s.validate id).1.submit id).1.get id =
        .ok { d with status := .submitted, calculation := some c } := by
  have validated := validate_of_preview_eq_ok stored draft previewed
  -- The submission and the reading each find what the step before them has stored.
  rw [validated, submit_of_validated (DeclarationStore.find?_replace_self _ _ _) rfl rfl]
  exact ⟨rfl, rfl, get_of_stored (DeclarationStore.find?_replace_self _ _ _)⟩

end FilingService

namespace RateTableSet

variable (tables : RateTableSet) (new : NewDeclaration)

/-- The service of a command once it has added the draft to its empty store. -/
def opened : FilingService where
  tables := tables
  store := DeclarationStore.empty.allocate.hold (.draft ⟨1⟩ new)

/-- No other declaration can hold the key of the draft. -/
theorem create_start : (FilingService.start tables).create new = (tables.opened new, .ok ⟨1⟩) :=
  FilingService.create_of_find?_eq_none rfl

theorem find?_opened :
    (tables.opened new).store.declarations.find? ⟨1⟩ = some (.draft ⟨1⟩ new) :=
  DeclarationStore.find?_hold_self _ (.draft ⟨1⟩ new)

theorem calculate_eq :
    tables.calculate new = Outcome.ofStep .calculated ((tables.opened new).preview ⟨1⟩).2 := by
  simp only [calculate, create_start]
  rfl

theorem validate_eq :
    tables.validate new =
      Outcome.ofStep (fun _ => .valid .validated) ((tables.opened new).preview ⟨1⟩).2 := by
  have opens : tables.validate new =
      Outcome.ofStep .valid ((tables.opened new).validate ⟨1⟩).2 := by
    simp only [validate, create_start]
    rfl
  rw [opens]
  cases previewed : ((tables.opened new).preview ⟨1⟩).2 with
  | ok c =>
    rw [FilingService.validate_of_preview_eq_ok (tables.find?_opened new) rfl previewed]
    rfl
  | error e =>
    rw [FilingService.validate_of_preview_eq_error (tables.find?_opened new) rfl previewed]
    cases e <;> rfl

theorem file_eq :
    tables.file new =
      Outcome.ofStep (.filed ⟨1⟩ .submitted) ((tables.opened new).preview ⟨1⟩).2 := by
  have stored := tables.find?_opened new
  cases previewed : ((tables.opened new).preview ⟨1⟩).2 with
  | ok c =>
    obtain ⟨validated, submitted, kept⟩ := FilingService.get_of_submitted stored rfl previewed
    simp only [file, create_start, bind, Except.bind, validated, submitted, kept, Outcome.ofStep,
      Outcome.isRejected]
    rfl
  | error e =>
    have refused := FilingService.validate_of_preview_eq_error stored rfl previewed
    simp only [file, create_start, bind, Except.bind, refused]
    cases e <;> rfl

theorem calculate_eq_calculated_iff {calculation : CalculationResult} :
    tables.calculate new = .ok (.calculated calculation) ↔
      ∃ table, tables.lookup (Declaration.draft ⟨1⟩ new).rateTableKey = .ok table ∧
        (Declaration.draft ⟨1⟩ new).assess table = .ok calculation := by
  rw [calculate_eq, Outcome.ofStep_calculated_iff]
  exact FilingService.preview_eq_ok_iff (tables.find?_opened new)

theorem calculate_eq_rejected_iff {errors : List ValidationError} :
    tables.calculate new = .ok (.rejected errors) ↔
      ∃ table, tables.lookup (Declaration.draft ⟨1⟩ new).rateTableKey = .ok table ∧
        (Declaration.draft ⟨1⟩ new).assess table = .error (.invalid errors) := by
  rw [calculate_eq, Outcome.ofStep_rejected_iff]
  · exact FilingService.preview_eq_invalid_iff (tables.find?_opened new)
  · intro calculation same
    cases same

/-- The commands on a declaration agree. Either it can be validated, calculated and filed, and it is
filed as submitted with the calculation it would get, or every command rejects it with the same
errors in the same order, or every command fails with the same error. The first is the case when its
assessment against the table of its key succeeds, and the second when the assessment finds the
errors. -/
theorem commands_agree :
    ((∃ id calculation, tables.validate new = .ok (.valid .validated) ∧
        tables.calculate new = .ok (.calculated calculation) ∧
        tables.file new = .ok (.filed id .submitted calculation)) ∨
      (∃ errors, tables.validate new = .ok (.rejected errors) ∧
        tables.calculate new = .ok (.rejected errors) ∧
        tables.file new = .ok (.rejected errors)) ∨
      ∃ e, tables.validate new = .error e ∧ tables.calculate new = .error e ∧
        tables.file new = .error e) ∧
    (∀ calculation, tables.calculate new = .ok (.calculated calculation) ↔
      ∃ table, tables.lookup (Declaration.draft ⟨1⟩ new).rateTableKey = .ok table ∧
        (Declaration.draft ⟨1⟩ new).assess table = .ok calculation) ∧
    ∀ errors, tables.calculate new = .ok (.rejected errors) ↔
      ∃ table, tables.lookup (Declaration.draft ⟨1⟩ new).rateTableKey = .ok table ∧
        (Declaration.draft ⟨1⟩ new).assess table = .error (.invalid errors) := by
  refine ⟨?_, fun _ => tables.calculate_eq_calculated_iff new,
    fun _ => tables.calculate_eq_rejected_iff new⟩
  rw [validate_eq, calculate_eq, file_eq]
  cases ((tables.opened new).preview ⟨1⟩).2 with
  | ok c => exact .inl ⟨⟨1⟩, c, rfl, rfl, rfl⟩
  | error e =>
    rcases Outcome.ofStep_error e with ⟨errors, rejected⟩ | failed
    · exact .inr (.inl ⟨errors, rejected _, rejected _, rejected _⟩)
    · exact .inr (.inr ⟨e, failed _, failed _, failed _⟩)

end RateTableSet

end IncomeTax

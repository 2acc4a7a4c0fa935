import IncomeTax.Proofs.Filing.Store

/-!
# What an operation can change

Whatever an operation of the service is asked, and whether it succeeds or fails, its effect on the
state is one of six: none but a lock that may be abandoned, a number used up, a draft stored, one
declaration revised, one declaration closed and its amendment stored, or another table set. A
revision in turn is an edit, a validation against the table served for the declaration, a submission
or a report of its processing. Invariants of the service split on these cases and never look into the
operations.

## Main definitions

* `Declaration.Revision` — what a step may make of a declaration
* `FilingOperation.step?` — the step that an operation runs on one declaration
* `FilingService.Change` — what an operation may make of the state
* `FilingService.Origin` — where a declaration found after a change comes from

## Main results

* `FilingService.perform_step_cases` — the outcome of a step, by whether it fails
* `FilingService.perform_change` — the effect of every operation is a change
* `FilingService.Change.origin` — a change stores nothing else
-/

namespace IncomeTax

/-- The key a draft of the declaration has, whatever its number. -/
def NewDeclaration.filingKey (new : NewDeclaration) : FilingKey :=
  ⟨Text.trim new.content.taxpayer.bsn, new.taxYear, new.category⟩

/-- No step leads on from an amended declaration. -/
theorem DeclarationStatus.ne_amended_of_leadsTo {status target : DeclarationStatus}
    (edge : status.leadsTo target = true) : status ≠ .amended := by
  rintro rfl
  cases edge

namespace Declaration

variable {d d' : Declaration}

@[simp] theorem id_draft (id : DeclarationId) (new : NewDeclaration) : (draft id new).id = id := rfl

@[simp] theorem filingKey_draft (id : DeclarationId) (new : NewDeclaration) :
    (draft id new).filingKey = new.filingKey := rfl

@[simp] theorem filingKey_amendment (id : DeclarationId) (d : Declaration) :
    (amendment id d).filingKey = d.filingKey := rfl

/-- What a step in place may make of a declaration while the given tables are served. -/
inductive Revision (tables : RateTableSet) (d : Declaration) : Declaration → Prop
  | edited (content : DeclarationContent) (editable : d.isEditable = true)
      (number : Text.trim content.taxpayer.bsn = Text.trim d.content.taxpayer.bsn) :
      Revision tables d { d with content := content, status := .draft, calculation := none }
  | validated (table : RateTable) (c : CalculationResult)
      (edge : d.status.leadsTo .validated = true)
      (served : tables.lookup d.rateTableKey = .ok table) (assessed : d.assess table = .ok c) :
      Revision tables d { d with status := .validated, calculation := some c }
  | submitted (edge : d.status.leadsTo .submitted = true) (calculated : d.calculation.isSome = true) :
      Revision tables d { d with status := .submitted }
  | recorded (event : ProcessingEvent) (edge : d.status.leadsTo event.target = true) :
      Revision tables d { d with status := event.target }

namespace Revision

variable {tables : RateTableSet}

/-- A revision keeps the number of the declaration. -/
theorem id_eq (revision : Revision tables d d') : d'.id = d.id := by
  cases revision <;> rfl

/-- A revision keeps the filing key: an edit may only change blanks around the citizen-service
number. -/
theorem filingKey_eq (revision : Revision tables d d') : d'.filingKey = d.filingKey := by
  cases revision with
  | edited content _ number => exact congrArg (FilingKey.mk · d.taxYear d.category) number
  | validated | submitted | recorded => rfl

/-- An amended declaration has no revision. -/
theorem status_ne_amended (revision : Revision tables d d') : d.status ≠ .amended := by
  cases revision with
  | edited _ editable =>
    intro amended
    rw [isEditable, amended] at editable
    cases editable
  | validated _ _ edge | submitted edge | recorded _ edge =>
    exact DeclarationStatus.ne_amended_of_leadsTo edge

/-- No revision amends a declaration. -/
theorem status_ne_amended_after (revision : Revision tables d d') : d'.status ≠ .amended := by
  cases revision with
  | recorded event => cases event <;> nofun
  | edited | validated | submitted => nofun

end Revision

end Declaration

namespace FilingOperation

variable {tables : RateTableSet} {op : FilingOperation} {id : DeclarationId}
  {step : InPlace FilingError Declaration DeclarationStatus}

/-- The declaration an operation runs a step on, and the step; no step for an operation that only
reads, or that changes more than one declaration. -/
def step? (tables : RateTableSet) :
    FilingOperation → Option (DeclarationId × InPlace FilingError Declaration DeclarationStatus)
  | .edit id change => some (id, Declaration.edit change)
  | .validate id => some (id, FilingService.validateStep tables)
  | .submit id => some (id, Declaration.submit.forFiling)
  | .record id event => some (id, (Declaration.record event).forFiling)
  | .create _ | .get _ | .preview _ | .amend _ | .lookup _ | .reload .. | .reloadFrom .. => none

theorem perform_of_step? {s : FilingService} (found : op.step? s.tables = some (id, step)) :
    s.perform op =
      FilingService.finish .filing .status (s.withStore (s.store.withDeclaration id step)) := by
  cases op <;> cases found <;> rfl

/-- No step leaves a trace when it fails. -/
theorem isAtomic_of_step? (found : op.step? tables = some (id, step)) : step.IsAtomic := by
  cases op with
  | edit _ change =>
    cases found
    exact Declaration.isAtomic_edit change
  | validate =>
    cases found
    exact FilingService.isAtomic_validateStep tables
  | submit =>
    cases found
    exact Declaration.isAtomic_submit.forFiling
  | record _ event =>
    cases found
    exact (Declaration.isAtomic_record event).forFiling
  | create | get | preview | amend | lookup | reload | reloadFrom => cases found

/-- A step that succeeds revises the declaration. -/
theorem revision_of_step? {d d' : Declaration} {status : DeclarationStatus}
    (found : op.step? tables = some (id, step)) (stepped : step.applyTo d = (.ok status, d')) :
    d.Revision tables d' := by
  cases op with
  | edit _ change =>
    cases found
    obtain ⟨editable, content, -, number, -, rfl⟩ := Declaration.applyTo_edit_eq_ok_iff.1 stepped
    exact .edited content editable number
  | validate =>
    cases found
    obtain ⟨table, served, stepped⟩ := FilingService.applyTo_validateStep_eq_ok_iff.1 stepped
    obtain ⟨edge, c, assessed, -, rfl⟩ := Declaration.applyTo_validateWith_eq_ok_iff.1 stepped
    exact .validated table c edge served assessed
  | submit =>
    cases found
    obtain ⟨edge, calculated, -, rfl⟩ :=
      Declaration.applyTo_submit_eq_ok_iff.1 (InPlace.applyTo_forFiling_eq_ok_iff.1 stepped)
    exact .submitted edge calculated
  | record _ event =>
    cases found
    obtain ⟨edge, -, rfl⟩ :=
      Declaration.applyTo_record_eq_ok_iff.1 (InPlace.applyTo_forFiling_eq_ok_iff.1 stepped)
    exact .recorded event edge
  | create | get | preview | amend | lookup | reload | reloadFrom => cases found

end FilingOperation

namespace FilingService

/-- What an operation may make of the state. -/
inductive Change (s : FilingService) : FilingService → Prop
  | kept {store : DeclarationStore} (alike : s.store.Alike store) : Change s { s with store }
  | numbered : Change s { s with store := s.store.allocate }
  | created (new : NewDeclaration)
      (free : s.store.live.find? new.filingKey = none) :
      Change s { s with store := s.store.allocate.hold (.draft s.store.nextId new) }
  | revised {id : DeclarationId} {d d' : Declaration}
      (stored : s.store.declarations.find? id = some d) (revision : d.Revision s.tables d') :
      Change s { s with store := s.store.replace id d' }
  | amended {id : DeclarationId} {d : Declaration}
      (stored : s.store.declarations.find? id = some d)
      (edge : d.status.leadsTo .amended = true) :
      Change s { s with store := s.store.replaceByAmendment id d }
  | reloaded (tables : RateTableSet) : Change s { s with tables }

variable {s : FilingService}

theorem Change.unchanged : Change s s := .kept (.refl _)

/-- A step keeps the state as it is when it fails, up to the lock that an overflow abandons, and
revises the declaration it is run on when it succeeds. -/
theorem perform_step_cases {op : FilingOperation} {id : DeclarationId}
    {step : InPlace FilingError Declaration DeclarationStatus}
    (found : op.step? s.tables = some (id, step)) :
    (∃ e store, s.perform op = ({ s with store }, .error e) ∧ s.store.Alike store ∧
        (e ≠ .filing .overflow → store = s.store)) ∨
      ∃ d d' status, s.store.declarations.find? id = some d ∧ step.applyTo d = (.ok status, d') ∧
        s.perform op = ({ s with store := s.store.replace id d' }, .ok (.status status)) := by
  rw [FilingOperation.perform_of_step? found]
  rcases DeclarationStore.withDeclaration_cases (FilingOperation.isAtomic_of_step? found) s.store id
    with ⟨e, store, failed, alike, same⟩ | ⟨d, d', status, stored, stepped, replaced⟩
  · rw [failed]
    refine .inl ⟨.filing e, store, rfl, alike, fun answered => same ?_⟩
    rintro rfl
    exact answered rfl
  · rw [replaced]
    exact .inr ⟨d, d', status, stored, stepped, rfl⟩

theorem change_step {op : FilingOperation} {id : DeclarationId}
    {step : InPlace FilingError Declaration DeclarationStatus}
    (found : op.step? s.tables = some (id, step)) : Change s (s.perform op).1 := by
  rcases perform_step_cases found with
    ⟨e, store, failed, alike, -⟩ | ⟨d, d', status, stored, stepped, replaced⟩
  · rw [failed]
    exact .kept alike
  · rw [replaced]
    exact .revised stored (FilingOperation.revision_of_step? found stepped)

/-- A draft whose key leads to a declaration is refused, though its number is used up. -/
theorem create_of_find?_eq_some {new : NewDeclaration} {id : DeclarationId}
    (taken : s.store.live.find? new.filingKey = some id) :
    s.create new =
      ({ s with store := s.store.allocate },
        .error (.state (.duplicateFiling new.filingKey id))) := by
  simp [create, DeclarationStore.create, taken, withStore, FilingError.ofState]

/-- A draft whose key leads nowhere is stored under the next number. -/
theorem create_of_find?_eq_none {new : NewDeclaration}
    (free : s.store.live.find? new.filingKey = none) :
    s.create new =
      ({ s with store := s.store.allocate.hold (.draft s.store.nextId new) },
        .ok s.store.nextId) := by
  simp [create, DeclarationStore.create, free, withStore, FilingError.ofState]

theorem change_create (new : NewDeclaration) : Change s (s.create new).1 := by
  cases found : s.store.live.find? new.filingKey with
  | some id =>
    rw [create_of_find?_eq_some found]
    exact .numbered
  | none =>
    rw [create_of_find?_eq_none found]
    exact .created new found

/-- An amendment of an unknown declaration changes nothing, one that is refused uses up a number, and
any other one closes the declaration. -/
theorem amend_cases (s : FilingService) (id : DeclarationId) :
    s.amend id = (s, .error (.state (.unknownDeclaration id))) ∨
      (∃ status, s.amend id =
        ({ s with store := s.store.allocate },
          .error (.state (.invalidTransition status .amended)))) ∨
      ∃ d, s.store.declarations.find? id = some d ∧ d.status.leadsTo .amended = true ∧
        s.amend id = ({ s with store := s.store.replaceByAmendment id d }, .ok s.store.nextId) := by
  unfold amend
  cases stored : s.store.declarations.find? id with
  | none =>
    rw [DeclarationStore.amend_of_unknown stored]
    exact .inl rfl
  | some d =>
    cases edge : d.status.leadsTo .amended with
    | false =>
      rw [DeclarationStore.amend_of_no_edge stored edge]
      exact .inr (.inl ⟨d.status, rfl⟩)
    | true =>
      rw [DeclarationStore.amend_of_edge stored edge]
      exact .inr (.inr ⟨d, rfl, edge, rfl⟩)

theorem change_amend (id : DeclarationId) : Change s (s.amend id).1 := by
  rcases s.amend_cases id with unknown | ⟨status, refused⟩ | ⟨d, stored, edge, closed⟩
  · rw [unknown]
    exact .unchanged
  · rw [refused]
    exact .numbered
  · rw [closed]
    exact .amended stored edge

/-- The effect of every operation, successful or not, is a change. -/
theorem perform_change (s : FilingService) (op : FilingOperation) : Change s (s.perform op).1 := by
  cases op with
  | create new => exact change_create new
  | amend id => exact change_amend id
  | get | lookup => exact .unchanged
  | preview id =>
    exact .kept (DeclarationStore.alike_of_readsOnly (readsOnly_previewStep s.tables) s.store id).1
  | edit | validate | submit | record => exact change_step rfl
  | reload definitions faults policy =>
    simp only [perform, finish, reload]
    split
    · exact .reloaded _
    · exact .unchanged
  | reloadFrom fetched policy =>
    simp only [perform, finish, reloadFrom]
    split
    · exact .reloaded _
    · exact .unchanged

/-- Where a declaration found after a change comes from. -/
inductive Origin (s : FilingService) (id : DeclarationId) : Declaration → Prop
  | kept {d : Declaration} (stored : s.store.declarations.find? id = some d) : Origin s id d
  | created (new : NewDeclaration) (number : id = s.store.nextId)
      (free : s.store.live.find? new.filingKey = none) :
      Origin s id (.draft id new)
  | revised {d d' : Declaration} (stored : s.store.declarations.find? id = some d)
      (revision : d.Revision s.tables d') : Origin s id d'
  | closed {d : Declaration} (stored : s.store.declarations.find? id = some d)
      (edge : d.status.leadsTo .amended = true) : Origin s id { d with status := .amended }
  | amendment {id' : DeclarationId} {d : Declaration} (number : id = s.store.nextId)
      (stored : s.store.declarations.find? id' = some d)
      (edge : d.status.leadsTo .amended = true) : Origin s id (.amendment id d)

theorem Change.origin {s' : FilingService} (change : Change s s') {id : DeclarationId}
    {d : Declaration} (stored : s'.store.declarations.find? id = some d) : Origin s id d := by
  cases change with
  | kept alike => exact .kept (alike.declarations_eq ▸ stored)
  | numbered | reloaded => exact .kept stored
  | created new free =>
    rcases DeclarationStore.find?_hold_eq_some_iff.1 stored with ⟨rfl, rfl⟩ | ⟨-, stored⟩
    · exact .created new rfl free
    · exact .kept stored
  | revised found revision =>
    rcases DeclarationStore.find?_replace_eq_some_iff.1 stored with ⟨rfl, rfl⟩ | ⟨-, stored⟩
    · exact .revised found revision
    · exact .kept stored
  | amended found edge =>
    -- Two declarations are written: the amendment over the closed one over the rest.
    rcases DeclarationStore.find?_hold_eq_some_iff.1 stored with ⟨rfl, rfl⟩ | ⟨-, stored⟩
    · exact .amendment rfl found edge
    · rcases DeclarationStore.find?_replace_eq_some_iff.1 stored with ⟨rfl, rfl⟩ | ⟨-, stored⟩
      · exact .closed found edge
      · exact .kept stored

end FilingService

end IncomeTax

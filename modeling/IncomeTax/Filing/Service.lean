import IncomeTax.Filing.Store
import IncomeTax.RateTable.Backend

/-!
# The filing service

The service takes declarations through their steps against the current rate tables. Its state is the
current table set and the stored declarations. Every operation gives the state after it, and either
an answer or the error that stopped it. A table set is built in full before it takes the place of
the current one.

## Main definitions

* `FilingService` — the state
* `FilingService.create`, `edit`, `preview`, `validate`, `submit`, `record`, `amend` — the steps
  of filings
* `FilingService.reload`, `reloadFrom` — replacing the table set
* `FilingOperation`, `FilingService.perform` — the operations as data
-/

namespace IncomeTax

/-- The current rate tables and the stored declarations. -/
structure FilingService where
  tables : RateTableSet
  store : DeclarationStore
  deriving DecidableEq

namespace FilingService

/-- The service without declarations. -/
def start (tables : RateTableSet) : FilingService := ⟨tables, .empty⟩

/-- The table of a declaration. -/
def tableFor (tables : RateTableSet) (d : Declaration) : Except FilingError RateTable :=
  (tables.lookup d.rateTableKey).mapError FilingError.lookup

/-- The service with the store after a change, and the answer of the change. -/
def withStore {α : Type} (s : FilingService) (change : DeclarationStore × α) : FilingService × α :=
  ({ s with store := change.1 }, change.2)

/-- Adds a draft. -/
def create (s : FilingService) (new : NewDeclaration) :
    FilingService × Except FilingError DeclarationId :=
  let (store, answer) := s.store.create new
  s.withStore (store, FilingError.ofState answer)

/-- The declaration with a number. -/
def get (s : FilingService) (id : DeclarationId) : Except FilingError Declaration :=
  FilingError.ofState (s.store.get id)

/-- Edits the contents of a declaration. -/
def edit (s : FilingService) (id : DeclarationId) (change : ContentEdit) :
    FilingService × Except FilingError DeclarationStatus :=
  s.withStore (s.store.withDeclaration id (Declaration.edit change))

/-- The step that calculates a declaration against the table served for it, and leaves it as it
is. -/
def previewStep (tables : RateTableSet) : InPlace FilingError Declaration CalculationResult := do
  let d ← getThe Declaration
  d.assess (← tableFor tables d)

/-- The calculation a declaration would get. -/
def preview (s : FilingService) (id : DeclarationId) :
    FilingService × Except FilingError CalculationResult :=
  s.withStore (s.store.withDeclaration id (previewStep s.tables))

/-- The step that validates a declaration against the table served for it. -/
def validateStep (tables : RateTableSet) : InPlace FilingError Declaration DeclarationStatus := do
  Declaration.validateWith (← tableFor tables (← getThe Declaration))

/-- Validates a declaration against the current tables. -/
def validate (s : FilingService) (id : DeclarationId) :
    FilingService × Except FilingError DeclarationStatus :=
  s.withStore (s.store.withDeclaration id (validateStep s.tables))

/-- Submits a declaration. -/
def submit (s : FilingService) (id : DeclarationId) :
    FilingService × Except FilingError DeclarationStatus :=
  s.withStore (s.store.withDeclaration id Declaration.submit.forFiling)

/-- Records what the processing of a declaration reports. -/
def record (s : FilingService) (id : DeclarationId) (event : ProcessingEvent) :
    FilingService × Except FilingError DeclarationStatus :=
  s.withStore (s.store.withDeclaration id (Declaration.record event).forFiling)

/-- Amends a declaration. -/
def amend (s : FilingService) (id : DeclarationId) :
    FilingService × Except FilingError DeclarationId :=
  s.withStore (s.store.amend id)

/-- Replaces the table set by that of definitions and faults, unless it cannot be built. -/
def reload (s : FilingService) (definitions : List RateTableDefinition)
    (faults : List TableFault) (policy : FaultPolicy) :
    FilingService × Except TableError Unit :=
  match RateTableSet.build definitions faults policy with
  | .ok tables => ({ s with tables }, .ok ())
  | .error e => (s, .error e)

/-- Replaces the table set by that of a fetch, unless the fetch failed or it cannot be built. -/
def reloadFrom (s : FilingService) (fetched : Except SourceError TableBatch)
    (policy : FaultPolicy) : FilingService × Except SourceError Unit :=
  match fetched.bind (·.load policy) with
  | .ok tables => ({ s with tables }, .ok ())
  | .error e => (s, .error e)

end FilingService

/-- An operation of the service. -/
inductive FilingOperation where
  | create (new : NewDeclaration)
  | get (id : DeclarationId)
  | edit (id : DeclarationId) (change : ContentEdit)
  | preview (id : DeclarationId)
  | validate (id : DeclarationId)
  | submit (id : DeclarationId)
  | record (id : DeclarationId) (event : ProcessingEvent)
  | amend (id : DeclarationId)
  | lookup (key : RateTableKey)
  | reload (definitions : List RateTableDefinition) (faults : List TableFault)
      (policy : FaultPolicy)
  | reloadFrom (fetched : Except SourceError TableBatch) (policy : FaultPolicy)

/-- What an operation answers. -/
inductive FilingAnswer where
  | number (id : DeclarationId)
  | declaration (d : Declaration)
  | status (status : DeclarationStatus)
  | calculation (c : CalculationResult)
  | table (t : RateTable)
  | done

/-- The error that stops an operation. -/
inductive OperationError where
  | filing (e : FilingError)
  | table (e : TableError)
  | source (e : SourceError)

namespace FilingService

/-- The state after an operation whose answer is wrapped up. -/
def finish {ε α : Type} (wrapError : ε → OperationError) (wrap : α → FilingAnswer)
    (outcome : FilingService × Except ε α) : FilingService × Except OperationError FilingAnswer :=
  (outcome.1, (outcome.2.mapError wrapError).map wrap)

/-- Performs an operation. -/
def perform (s : FilingService) :
    FilingOperation → FilingService × Except OperationError FilingAnswer
  | .create new => finish .filing .number (s.create new)
  | .get id => finish .filing .declaration (s, s.get id)
  | .edit id change => finish .filing .status (s.edit id change)
  | .preview id => finish .filing .calculation (s.preview id)
  | .validate id => finish .filing .status (s.validate id)
  | .submit id => finish .filing .status (s.submit id)
  | .record id event => finish .filing .status (s.record id event)
  | .amend id => finish .filing .number (s.amend id)
  | .lookup key => finish (.filing ∘ .lookup) .table (s, s.tables.lookup key)
  | .reload definitions faults policy =>
    finish .table (fun _ => .done) (s.reload definitions faults policy)
  | .reloadFrom fetched policy => finish .source (fun _ => .done) (s.reloadFrom fetched policy)

end FilingService

end IncomeTax

/-!
# Status of a declaration

A draft is validated, submitted and processed, which ends in approval or rejection. An approved or
rejected declaration can be amended: it is then closed for good, and a new draft takes its place.

## Main definitions

* `DeclarationStatus` — the stages, with the steps between them
* `ProcessingEvent` — what the processing of a submitted declaration reports
-/

namespace IncomeTax

/-- The stage a declaration is in. -/
inductive DeclarationStatus where
  | draft
  | validated
  | submitted
  | processing
  | approved
  | rejected
  | amended
  deriving DecidableEq

namespace DeclarationStatus

/-- Every status. -/
def all : List DeclarationStatus :=
  [.draft, .validated, .submitted, .processing, .approved, .rejected, .amended]

/-- The name of the status. -/
def name : DeclarationStatus → String
  | .draft => "draft"
  | .validated => "validated"
  | .submitted => "submitted"
  | .processing => "processing"
  | .approved => "approved"
  | .rejected => "rejected"
  | .amended => "amended"

/-- The status with the given name. -/
def ofName? (s : String) : Option DeclarationStatus := all.find? (·.name == s)

/-- The statuses that can be reached in one step. -/
def successors : DeclarationStatus → List DeclarationStatus
  | .draft => [.validated]
  | .validated => [.submitted]
  | .submitted => [.processing]
  | .processing => [.approved, .rejected]
  | .approved | .rejected => [.amended]
  | .amended => []

/-- Whether the target can be reached in one step. -/
def leadsTo (status target : DeclarationStatus) : Bool :=
  status.successors.contains target

/-- Whether the filing is finished. -/
def isClosed : DeclarationStatus → Bool
  | .approved | .rejected | .amended => true
  | _ => false

/-- Whether the contents may still be edited. -/
def isEditable : DeclarationStatus → Bool
  | .draft | .validated => true
  | _ => false

end DeclarationStatus

/-- What the processing of a submitted declaration reports. -/
inductive ProcessingEvent where
  | beginProcessing
  | approve
  | reject
  deriving DecidableEq

namespace ProcessingEvent

/-- Every event. -/
def all : List ProcessingEvent := [.beginProcessing, .approve, .reject]

/-- The name of the event. -/
def name : ProcessingEvent → String
  | .beginProcessing => "begin_processing"
  | .approve => "approve"
  | .reject => "reject"

/-- The event with the given name. -/
def ofName? (s : String) : Option ProcessingEvent := all.find? (·.name == s)

/-- The status the event leads to. -/
def target : ProcessingEvent → DeclarationStatus
  | .beginProcessing => .processing
  | .approve => .approved
  | .reject => .rejected

end ProcessingEvent

end IncomeTax

import IncomeTax.Declaration.Json
import IncomeTax.Filing.Service

/-!
# Commands on one declaration

A declaration can be validated, calculated or filed, each in a service of its own. When the
declaration is stopped by violations or rejected claims the command succeeds all the same, with the
errors as its outcome; any other error fails the command.

## Main definitions

* `Outcome` — what a command produced, with its document
* `RateTableSet.validate`, `calculate`, `file` — the commands
-/

namespace IncomeTax

/-- What a command produced. -/
inductive Outcome where
  | valid (status : DeclarationStatus)
  | calculated (calculation : CalculationResult)
  | filed (id : DeclarationId) (status : DeclarationStatus) (calculation : CalculationResult)
  | rejected (errors : List ValidationError)
  deriving DecidableEq

namespace Outcome

/-- Whether the declaration was rejected. -/
def isRejected : Outcome → Bool
  | .rejected _ => true
  | _ => false

/-- An error as reported: its field, and the code and wording of its rule. -/
def reportedToJson (e : ValidationError) : Json :=
  .object [("field", .string e.field), ("code", .string e.rule.code),
    ("message", .string e.rule.message)]

/-- The outcome as a record. -/
def toJson : Outcome → Json
  | .valid status => .object [("outcome", .string "valid"), ("status", status.toJson)]
  | .calculated calculation =>
    .object [("outcome", .string "calculated"), ("calculation", calculation.toJson)]
  | .filed id status calculation =>
    .object [("outcome", .string "filed"), ("id", id.toJson), ("status", status.toJson),
      ("calculation", calculation.toJson)]
  | .rejected errors =>
    .object [("outcome", .string "rejected"), ("errors", Json.ofList reportedToJson errors)]

/-- The outcome of a step: its answer, or the errors that stopped the declaration. -/
def ofStep {α : Type} (wrap : α → Outcome) : Except FilingError α → Except FilingError Outcome
  | .ok a => .ok (wrap a)
  | .error (.invalid errors) => .ok (.rejected errors)
  | .error e => .error e

end Outcome

namespace RateTableSet

/-- Validates a declaration. -/
def validate (tables : RateTableSet) (new : NewDeclaration) : Except FilingError Outcome := do
  let (service, id) := (FilingService.start tables).create new
  let (_, status) := service.validate (← id)
  Outcome.ofStep .valid status

/-- Calculates a declaration without filing it. -/
def calculate (tables : RateTableSet) (new : NewDeclaration) : Except FilingError Outcome := do
  let (service, id) := (FilingService.start tables).create new
  let (_, calculation) := service.preview (← id)
  Outcome.ofStep .calculated calculation

/-- Validates and submits a declaration. -/
def file (tables : RateTableSet) (new : NewDeclaration) : Except FilingError Outcome := do
  let (service, id) := (FilingService.start tables).create new
  let id ← id
  let (service, validated) := service.validate id
  let validated ← Outcome.ofStep .valid validated
  if validated.isRejected then return validated
  else
    let (service, status) := service.submit id
    let status ← status
    let d ← service.get id
    match d.calculation with
    | some calculation => return .filed id status calculation
    | none => throw (.state .calculationMissing)

end RateTableSet

end IncomeTax

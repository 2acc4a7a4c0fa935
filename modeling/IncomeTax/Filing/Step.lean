import IncomeTax.Assessment.Basic

/-!
# Steps of a declaration

A step changes a declaration in place. Nothing takes back what a step has written: when it fails,
the declaration is left as it stands at that point. That a step which fails leaves the declaration as
it was is therefore a matter of order, since it checks whatever can fail before it writes.

## Main definitions

* `InPlace` — a change in place, with `InPlace.applyTo` for its answer and what it leaves
* `ContentEdit` — a change of contents in place
* `Declaration.edit`, `validateWith`, `submit`, `record` — one step each
* `Declaration.amend` — closes a declaration and makes its amendment
-/

namespace IncomeTax

/-- A change of a value in place that may fail. What it wrote before it failed stays written. -/
abbrev InPlace (ε σ : Type) : Type → Type := ExceptT ε (StateM σ)

/-- The answer of a change, and what it leaves of a value. -/
def InPlace.applyTo {ε σ α : Type} (change : InPlace ε σ α) (value : σ) : Except ε α × σ :=
  (change.run.run value).run

/-- A change that can only be misused, as one that may be stopped for other reasons too. -/
def InPlace.forFiling {σ α : Type} (change : InPlace StateError σ α) : InPlace FilingError σ α :=
  ExceptT.adapt FilingError.state change

/-- An edit of contents in place. An overflow may break it off halfway. -/
abbrev ContentEdit : Type := OptionT (StateM DeclarationContent) Unit

/-- Whether an edit came to its end, and the contents it leaves. -/
def ContentEdit.applyTo (change : ContentEdit) (content : DeclarationContent) :
    Option Unit × DeclarationContent :=
  (change.run.run content).run

namespace Declaration

/-- Checks that a status can be reached in one step. -/
def checkEdge (d : Declaration) (target : DeclarationStatus) : Except StateError Unit :=
  if d.status.leadsTo target then .ok () else .error (.invalidTransition d.status target)

/-- Moves the declaration to a status, which is the answer. -/
def transition {ε : Type} (target : DeclarationStatus) :
    InPlace ε Declaration DeclarationStatus := do
  modify fun d => { d with status := target }
  return target

/-- Edits the contents. The declaration becomes a draft without a calculation again. The
citizen-service number of the taxpayer may not change, blanks around it apart. -/
def edit (change : ContentEdit) : InPlace FilingError Declaration DeclarationStatus := do
  let d ← get
  if !d.isEditable then throw (.state (.notEditable d.status))
  -- The edit works on a copy, which is dropped unless it can be taken over as a whole.
  let (ended, content) := change.applyTo d.content
  FilingError.ofOption ended
  if Text.trim content.taxpayer.bsn ≠ Text.trim d.content.taxpayer.bsn then
    throw (.state .filingKeyChanged)
  modify fun d => { d with content := content }
  modify fun d => { d with status := .draft }
  modify fun d => { d with calculation := none }
  return (← get).status

/-- Assesses a draft against a table and attaches the calculation. -/
def validateWith (table : RateTable) : InPlace FilingError Declaration DeclarationStatus := do
  FilingError.ofState ((← get).checkEdge .validated)
  let calculation ← (← get).assess table
  modify fun d => { d with calculation := some calculation }
  transition .validated

/-- Submits a validated declaration, which must have a calculation attached. -/
def submit : InPlace StateError Declaration DeclarationStatus := do
  (← get).checkEdge .submitted
  if (← get).calculation.isNone then throw .calculationMissing
  transition .submitted

/-- Records what the processing of a declaration reports. -/
def record (event : ProcessingEvent) : InPlace StateError Declaration DeclarationStatus := do
  (← get).checkEdge event.target
  transition event.target

/-- Closes an approved or rejected declaration; answers its amendment. -/
def amend (id : DeclarationId) : InPlace StateError Declaration Declaration := do
  (← get).checkEdge .amended
  let amendment := amendment id (← get)
  let _ ← transition .amended
  return amendment

end Declaration

end IncomeTax

import IncomeTax.Filing.Step

/-!
# Stored declarations

A store keeps declarations by number, each behind a lock of its own, and an index from filing keys
to the declaration that holds the key. A declaration holds its key until it is amended; then the
amendment does. Numbers are given out in ascending order, and one that was given out for a refused
declaration is not used again.

A step has the declaration to itself while it holds the lock, and whatever it leaves is what is
stored. An overflow ends a step without giving the lock back in order: the lock is abandoned.
Whoever takes an abandoned lock is warned, and goes on with the declaration all the same. No amount
is calculated while the table of locks or the index is held, so these are never abandoned.

## Main definitions

* `Slot` — a declaration behind its lock, with `Slot.run` for a step that holds the lock
* `DeclarationStore` — the declarations, the index and the last number given out
* `DeclarationStore.create`, `get`, `withDeclaration`, `amend` — access and change
-/

namespace IncomeTax

/-- A declaration behind its lock. The lock is abandoned once a step that held it was broken off,
and stays so. -/
structure Slot where
  declaration : Declaration
  abandoned : Bool
  deriving DecidableEq

namespace Slot

/-- Takes the lock. An abandoned one gives the declaration with a warning, as an error. -/
def lock (slot : Slot) : Except Declaration Declaration :=
  if slot.abandoned then .error slot.declaration else .ok slot.declaration

/-- The declaration, whether or not the lock gives a warning. -/
def enter (slot : Slot) : Declaration :=
  match slot.lock with
  | .ok d => d
  | .error d => d

/-- Runs a step that holds the lock. The declaration is what the step leaves, however it ends; an
overflow abandons the lock. -/
def run {α : Type} (slot : Slot) (step : InPlace FilingError Declaration α) :
    Slot × Except FilingError α :=
  match step.applyTo slot.enter with
  | (.error .overflow, d) => (⟨d, true⟩, .error .overflow)
  | (answer, d) => ({ slot with declaration := d }, answer)

end Slot

/-- Declarations by number, and who holds which filing key. The last number has no upper bound. A
counter of 64 bits wraps around after 2^64 - 1 numbers, and goes on to give out numbers that are in
use. -/
structure DeclarationStore where
  lastId : Nat
  slots : OrderedMap DeclarationId Slot
  live : OrderedMap FilingKey DeclarationId
  deriving DecidableEq

namespace DeclarationStore

/-- The store without declarations. -/
def empty : DeclarationStore := ⟨0, .empty, .empty⟩

/-- The declarations by number, whatever became of their locks. -/
def declarations (store : DeclarationStore) : OrderedMap DeclarationId Declaration :=
  store.slots.mapValues (·.declaration)

/-- The next number to be given out. -/
def nextId (store : DeclarationStore) : DeclarationId := ⟨store.lastId + 1⟩

/-- The store after the next number has been given out. -/
def allocate (store : DeclarationStore) : DeclarationStore :=
  { store with lastId := store.lastId + 1 }

/-- Stores a declaration behind a fresh lock, under its number and as the holder of its filing
key. -/
def hold (store : DeclarationStore) (d : Declaration) : DeclarationStore :=
  { store with
    slots := store.slots.insert d.id ⟨d, false⟩
    live := store.live.insert d.filingKey d.id }

/-- Adds a draft, unless another declaration holds its key. -/
def create (store : DeclarationStore) (new : NewDeclaration) :
    DeclarationStore × Except StateError DeclarationId :=
  let d := Declaration.draft store.nextId new
  match store.live.find? d.filingKey with
  -- The number is used up even when the draft is refused.
  | some existing => (store.allocate, .error (.duplicateFiling d.filingKey existing))
  | none => (store.allocate.hold d, .ok d.id)

/-- The slot with a number. -/
def slot (store : DeclarationStore) (id : DeclarationId) : Except StateError Slot :=
  match store.slots.find? id with
  | some slot => .ok slot
  | none => .error (.unknownDeclaration id)

/-- The declaration with a number. -/
def get (store : DeclarationStore) (id : DeclarationId) : Except StateError Declaration :=
  (store.slot id).map Slot.enter

/-- Runs a step on the declaration with a number, which has it to itself. -/
def withDeclaration {α : Type} (store : DeclarationStore) (id : DeclarationId)
    (step : InPlace FilingError Declaration α) : DeclarationStore × Except FilingError α :=
  match store.slot id with
  | .error e => (store, .error (.state e))
  | .ok slot =>
    let (slot, answer) := slot.run step
    ({ store with slots := store.slots.insert id slot }, answer)

/-- Closes the declaration with a number and stores its amendment, which takes over the key. -/
def amend (store : DeclarationStore) (id : DeclarationId) :
    DeclarationStore × Except FilingError DeclarationId :=
  match store.slot id with
  | .error e => (store, .error (.state e))
  | .ok _ =>
    -- The number is given out while the lock is held, before the declaration can refuse.
    match store.allocate.withDeclaration id (Declaration.amend store.nextId).forFiling with
    | (store, .error e) => (store, .error e)
    -- The amendment has the key of the declaration it closes, and holds it from here on.
    | (store, .ok amendment) => (store.hold amendment, .ok amendment.id)

end DeclarationStore

end IncomeTax

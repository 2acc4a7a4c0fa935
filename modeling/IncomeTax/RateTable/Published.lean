import IncomeTax.Log.Event
import IncomeTax.RateTable.Basic

/-!
# Published rate tables

A table set holds the tables that can be used and, for other keys, the fault that keeps a table from
use. A key with neither has no table published.

While a set is built, a definition whose key has been seen before is a duplicate. Under the strict
policy the first fault fails the build. Under the quarantine policy a fault takes its key out of use
and the build goes on; of several faults of a key the first is kept.

## Main definitions

* `RateTableSet` — usable tables and faults, by key
* `RateTableSet.build` — the set of definitions and of faults found by their source
* `RateTableSet.quarantined` — the faults that such a build meets, for the log
* `RateTableSet.lookup` — the table of a key, or why there is none
-/

namespace IncomeTax

/-- How faults are handled while tables are loaded. -/
inductive FaultPolicy where
  | strict
  | quarantine
  deriving DecidableEq

/-- The name of the policy. -/
def FaultPolicy.name : FaultPolicy → String
  | .strict => "strict"
  | .quarantine => "quarantine"

/-- Why there is no rate table for a key: nothing is published, or what is published has a fault. -/
inductive LookupError where
  | notFound (key : RateTableKey)
  | faulty (fault : TableFault)
  deriving DecidableEq

/-- The wording of the error. -/
def LookupError.message : LookupError → String
  | .notFound key => "no rate table published for " ++ key.toText
  | .faulty fault => fault.message

/-- Usable tables, and the faults of other keys. -/
structure RateTableSet where
  tables : OrderedMap RateTableKey RateTable
  faults : OrderedMap RateTableKey TableFault
  deriving DecidableEq

namespace RateTableSet

/-- The set without tables and faults. -/
def empty : RateTableSet := ⟨.empty, .empty⟩

instance : Inhabited RateTableSet := ⟨empty⟩

/-- Takes the key of a fault out of use, and keeps the fault if it is the first of its key. -/
def quarantine (set : RateTableSet) (fault : TableFault) : RateTableSet :=
  ⟨set.tables.erase fault.key, set.faults.insertNew fault.key fault⟩

/-- Handles a fault as the policy says. -/
def addFault (policy : FaultPolicy) (set : RateTableSet) (fault : TableFault) :
    Except TableError RateTableSet :=
  match policy with
  | .strict => .error (.fault fault)
  | .quarantine => .ok (set.quarantine fault)

/-- Whether the key has been seen in a definition. -/
def knows (set : RateTableSet) (key : RateTableKey) : Bool :=
  set.tables.contains key || set.faults.contains key

/-- The table of a definition that is next to be added; one with a known key is a duplicate. -/
def nextTable (set : RateTableSet) (definition : RateTableDefinition) :
    Except TableError RateTable :=
  if set.knows definition.key then .error (.fault (.duplicateTable definition.key))
  else RateTable.ofDefinition definition

/-- The set with one more table. -/
def insert (set : RateTableSet) (key : RateTableKey) (table : RateTable) : RateTableSet :=
  ⟨set.tables.insert key table, set.faults⟩

/-- Adds the table of a definition, or handles its fault. -/
def addDefinition (policy : FaultPolicy) (set : RateTableSet) (definition : RateTableDefinition) :
    Except TableError RateTableSet :=
  match set.nextTable definition with
  | .ok table => .ok (set.insert definition.key table)
  | .error (.fault fault) => set.addFault policy fault
  | .error .overflow => .error .overflow

/-- The set of a list of definitions and of faults that their source found. -/
def build (definitions : List RateTableDefinition) (faults : List TableFault)
    (policy : FaultPolicy) : Except TableError RateTableSet := do
  let set ← definitions.foldlM (addDefinition policy) empty
  faults.foldlM (addFault policy) set

/-- The faults that quarantine meets when definitions, and then the faults of their source, are
added to a set. -/
def quarantined (set : RateTableSet) (faults : List TableFault) :
    List RateTableDefinition → List TableFault
  | [] => faults
  | definition :: rest =>
    match set.nextTable definition with
    | .ok table => (set.insert definition.key table).quarantined faults rest
    | .error (.fault fault) => fault :: (set.quarantine fault).quarantined faults rest
    | .error .overflow => []

/-- The table of a key, or why there is none. -/
def lookup (set : RateTableSet) (key : RateTableKey) : Except LookupError RateTable :=
  -- A key out of use has no table, so the order of the two does not matter.
  match set.faults.find? key with
  | some fault => .error (.faulty fault)
  | none =>
    match set.tables.find? key with
    | some table => .ok table
    | none => .error (.notFound key)

/-- The keys of the usable tables, in order. -/
def keys (set : RateTableSet) : List RateTableKey := set.tables.keys

/-- The number of usable tables. -/
def size (set : RateTableSet) : Nat := set.tables.size

/-- One line for each usable table, then one for each key out of use. -/
def listing (set : RateTableSet) : List String :=
  (set.tables.entries.map fun (key, table) =>
    key.toText ++ "  version " ++ table.version ++ "  " ++ toString table.brackets.length ++
      " brackets  " ++ toString table.credits.size ++ " credits  " ++
      toString table.deductions.size ++ " deductions") ++
  set.faults.entries.map fun (key, fault) => key.toText ++ "  QUARANTINED: " ++ fault.message

/-- A fault has taken its key out of use. -/
def quarantineEvent (fault : TableFault) : LogEvent :=
  ⟨.warn, "aangifte_core::registry", "quarantined rate table",
    [("table", fault.key.toText), ("error", fault.message)]⟩

/-- The set has been built. -/
def loadedEvent (set : RateTableSet) : LogEvent :=
  ⟨.info, "aangifte_core::registry", "loaded rate tables",
    [("tables", toString set.size), ("quarantined", toString set.faults.size)]⟩

end RateTableSet

end IncomeTax

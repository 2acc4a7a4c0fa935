import IncomeTax.RateTable.Published
import IncomeTax.Text.Quoted

/-!
# Sources of rate tables

Rate tables come from a source, which fetches definitions and the faults of tables it could not
read. Only a failure of the source as a whole is an error of its own. Sources are made by factories,
one for each backend; a factory replaces an earlier one of the same name.

## Main definitions

* `SourceError` — why a fetch gives no tables
* `SourceConfig`, `Backends` — how a source is chosen
* `TableBatch.load` — the table set of a fetch
-/

namespace IncomeTax

/-- Why no tables came from a source. -/
inductive SourceError where
  | unknownBackend (requested : String) (available : List String)
  | unavailable (location message : String)
  | malformed (location message : String)
  | faulty (fault : TableFault)
  | overflow
  deriving DecidableEq

/-- The wording of the error. -/
def SourceError.message : SourceError → String
  | .unknownBackend requested available =>
    "unknown rate table backend '" ++ requested ++ "'; available: [" ++
      ", ".intercalate (available.map Text.quoted) ++ "]"
  | .unavailable location message =>
    "cannot read rate tables from " ++ location ++ ": " ++ message
  | .malformed location message =>
    "malformed rate table data in " ++ location ++ ": " ++ message
  | .faulty fault => fault.message
  | .overflow => "an amount is out of range"

/-- The error of a set that could not be built. -/
def SourceError.ofTableError : TableError → SourceError
  | .fault fault => .faulty fault
  | .overflow => .overflow

/-- Builds the table set of a fetch. -/
def TableBatch.load (fetched : TableBatch) (policy : FaultPolicy) :
    Except SourceError RateTableSet :=
  (RateTableSet.build fetched.definitions fetched.faults policy).mapError SourceError.ofTableError

/-- Which backend to use, and where it finds the tables. -/
structure SourceConfig where
  backend : String
  location : String
  deriving DecidableEq

/-- A directory of comma-separated files named `rate-tables`. -/
def SourceConfig.default : SourceConfig := ⟨"csv-dir", "rate-tables"⟩

/-- Factories of sources, by the name of their backend. -/
structure Backends (σ : Type) where
  factories : OrderedMap String (SourceConfig → σ)

namespace Backends

variable {σ : Type}

/-- No factories. -/
def empty : Backends σ := ⟨.empty⟩

/-- Registers a factory, in place of an earlier one of the same name. -/
def register (r : Backends σ) (backend : String) (factory : SourceConfig → σ) :
    Backends σ :=
  ⟨r.factories.insert backend factory⟩

/-- The names of all backends, in alphabetical order. -/
def names (r : Backends σ) : List String := r.factories.keys

/-- Makes the source of the backend that is asked for. -/
def create (r : Backends σ) (config : SourceConfig) : Except SourceError σ :=
  match r.factories.find? config.backend with
  | some factory => .ok (factory config)
  | none => .error (.unknownBackend config.backend r.names)

end Backends

end IncomeTax

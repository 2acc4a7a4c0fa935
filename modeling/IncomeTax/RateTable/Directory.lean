import IncomeTax.Program.Files
import IncomeTax.RateTable.Backend
import IncomeTax.RateTable.Files

/-!
# Directories of rate tables

Rate tables can be published as a directory of comma-separated files: `tables.csv` and
`brackets.csv`, which must be there, and `thresholds.csv`, `credits.csv` and `deductions.csv`. A
file that need not be there and is missing has no rows. Loading is told to a log step by step.

## Main definitions

* `RateTableDirectory` — such a directory, as a source
* `RateTableDirectory.sources` — the backends, of which `csv-dir` is the only one
-/

namespace IncomeTax

/-- A directory of comma-separated files. -/
structure RateTableDirectory where
  path : String
  deriving DecidableEq

namespace RateTableDirectory

variable {m : Type → Type} [Monad m]

/-- The name of the backend. -/
def backendName : String := "csv-dir"

/-- Where the tables come from. -/
def describe (d : RateTableDirectory) : String := backendName ++ ":" ++ d.path

/-- A file that need not be there is not there. -/
def absentEvent (path : String) : LogEvent :=
  ⟨.debug, "aangifte_data::directory", "optional rate table file absent", [("path", path)]⟩

/-- Definitions have been fetched. -/
def fetchedEvent (d : RateTableDirectory) (fetched : TableBatch) : LogEvent :=
  ⟨.info, "aangifte_core::source", "fetched rate tables",
    [("source", d.describe), ("definitions", toString fetched.definitions.length),
      ("faults", toString fetched.faults.length)]⟩

/-- The rows of one file. -/
def readRows {ρ : Type} (d : RateTableDirectory) (files : FileAccess m) (log : LogEvent → m Unit)
    (layout : Csv.Layout ρ) (file : String) (required : Bool) : ExceptT SourceError m (List ρ) := do
  let path := joinPath d.path file
  match ← files.readText path with
  | .ok text =>
    match layout.load text.toUTF8.toList with
    | .ok rows => return rows
    | .error e => throw (.malformed path e.message)
  | .error e =>
    if e = .notFound ∧ !required then
      log (absentEvent path)
      return []
    else throw (.unavailable path e.message)

/-- Reads all files and puts their rows together. -/
def fetch (d : RateTableDirectory) (files : FileAccess m) (log : LogEvent → m Unit) :
    ExceptT SourceError m TableBatch := do
  let tables ← d.readRows files log TableRow.layout "tables.csv" true
  let brackets ← d.readRows files log BracketRow.layout "brackets.csv" true
  let thresholds ← d.readRows files log ThresholdRow.layout "thresholds.csv" false
  let credits ← d.readRows files log CreditRow.layout "credits.csv" false
  let deductions ← d.readRows files log DeductionRow.layout "deductions.csv" false
  match RateTableRows.load { tables, brackets, thresholds, credits, deductions } with
  | .ok fetched => return fetched
  | .error e => throw (.malformed d.path e.message)

/-- The directory at the configured location, if it is one. -/
def locate (files : FileAccess m) (config : SourceConfig) :
    ExceptT SourceError m RateTableDirectory := do
  if ← files.isDirectory config.location then return ⟨config.location⟩
  else throw (.unavailable config.location "not a directory")

/-- The backends, of which this is the only one. -/
def sources (files : FileAccess m) : Backends (ExceptT SourceError m RateTableDirectory) :=
  Backends.empty.register backendName (locate files)

/-- The directory that a configuration asks for. -/
def ofConfig (files : FileAccess m) (config : SourceConfig) :
    ExceptT SourceError m RateTableDirectory :=
  match (sources files).create config with
  | .ok source => source
  | .error e => throw e

/-- The table set of the directory. -/
def load (d : RateTableDirectory) (files : FileAccess m) (log : LogEvent → m Unit)
    (policy : FaultPolicy) : ExceptT SourceError m RateTableSet := do
  let fetched ← d.fetch files log
  log (d.fetchedEvent fetched)
  if policy = .quarantine then
    for fault in RateTableSet.empty.quarantined fetched.faults fetched.definitions do
      log (RateTableSet.quarantineEvent fault)
  match fetched.load policy with
  | .ok tables =>
    log tables.loadedEvent
    return tables
  | .error e => throw e

end RateTableDirectory

end IncomeTax

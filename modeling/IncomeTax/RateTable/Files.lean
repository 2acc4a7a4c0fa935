import IncomeTax.Csv.Table
import IncomeTax.RateTable.Assembly

/-!
# Rate tables in comma-separated files

Each kind of row has a file of its own, with a column for each field. Amounts that may be missing
and ages are left empty when there is none, and only the ages and the partner requirement may lack
their column.

## Main definitions

* `TableRow.layout`, `BracketRow.layout`, … — the columns of the five files
* `TableFilesError` — why files hold no rate tables, with its wording
* `RateTableFiles.read` — the rows of the five files
-/

namespace IncomeTax

/-- The range of a tax year. -/
def readTaxYear (column : Nat) (s : String) : Except Csv.CellError TaxYear :=
  match Csv.readInteger (-Nat.pow 2 31) (Nat.pow 2 31 - 1) s with
  | .error e => .error (.integer column e)
  | .ok n =>
    match TaxYear.ofInt? n with
    | some year => .ok year
    | none => .error (.integer column .tooLarge)

/-- An age that may be missing. -/
def readAge (column : Nat) (s : String) : Except Csv.CellError (Option UInt32) :=
  if s.isEmpty then .ok none
  else
    match Csv.readInteger 0 (Nat.pow 2 32 - 1) s with
    | .error e => .error (.integer column e)
    | .ok n => .ok (some (UInt32.ofNat n.toNat))

/-- A column that must be there. -/
def requiredColumn {ρ : Type} (name : String)
    (read : Nat → String → Except Csv.CellError (ρ → ρ)) : Csv.Column ρ :=
  ⟨name, false, false, read⟩

/-- The column of a tax year. -/
def taxYearColumn {ρ : Type} (set : TaxYear → ρ → ρ) : Csv.Column ρ :=
  requiredColumn "tax_year" fun column s => (readTaxYear column s).map set

/-- A column of texts. -/
def textColumn {ρ : Type} (name : String) (set : String → ρ → ρ) : Csv.Column ρ :=
  requiredColumn name fun _ s => .ok (set s)

/-- A column of amounts. -/
def amountColumn {ρ : Type} (name : String) (set : Decimal → ρ → ρ) : Csv.Column ρ :=
  requiredColumn name fun _ s => (Csv.readAmount s).map set

/-- A column of amounts that may be missing. -/
def optionalAmountColumn {ρ : Type} (name : String) (set : Option Decimal → ρ → ρ) :
    Csv.Column ρ :=
  requiredColumn name fun _ s => (Csv.readOptionalAmount s).map set

/-- A column of flags. -/
def flagColumn {ρ : Type} (name : String) (set : Bool → ρ → ρ) : Csv.Column ρ :=
  requiredColumn name fun _ s => (Csv.readFlag s).map set

/-- A column of ages, which need not be there. -/
def ageColumn {ρ : Type} (name : String) (set : Option UInt32 → ρ → ρ) : Csv.Column ρ :=
  ⟨name, true, false, fun column s => (readAge column s).map set⟩

/-- A tax year for rows that are still to be filled. -/
def blankYear : TaxYear := ⟨0, by decide⟩

/-- The columns of `tables.csv`. -/
def TableRow.layout : Csv.Layout TableRow where
  columns := [
    taxYearColumn fun v row => { row with taxYear := v },
    textColumn "category" fun v row => { row with category := v },
    textColumn "version" fun v row => { row with version := v }]
  blank := ⟨blankYear, "", ""⟩
  rowName := "TableRecord"

/-- The columns of `brackets.csv`. -/
def BracketRow.layout : Csv.Layout BracketRow where
  columns := [
    taxYearColumn fun v row => { row with taxYear := v },
    textColumn "category" fun v row => { row with category := v },
    amountColumn "lower_bound" fun v row => { row with lowerBound := v },
    optionalAmountColumn "upper_bound" fun v row => { row with upperBound := v },
    amountColumn "rate" fun v row => { row with rate := v }]
  blank := ⟨blankYear, "", .zero, none, .zero⟩
  rowName := "BracketRecord"

/-- The columns of `thresholds.csv`. -/
def ThresholdRow.layout : Csv.Layout ThresholdRow where
  columns := [
    taxYearColumn fun v row => { row with taxYear := v },
    textColumn "category" fun v row => { row with category := v },
    textColumn "name" fun v row => { row with name := v },
    amountColumn "amount" fun v row => { row with amount := v }]
  blank := ⟨blankYear, "", "", .zero⟩
  rowName := "ThresholdRecord"

/-- The columns of `credits.csv`. -/
def CreditRow.layout : Csv.Layout CreditRow where
  columns := [
    taxYearColumn fun v row => { row with taxYear := v },
    textColumn "category" fun v row => { row with category := v },
    textColumn "credit_type" fun v row => { row with creditType := v },
    amountColumn "maximum" fun v row => { row with maximum := v },
    optionalAmountColumn "phase_out_threshold" fun v row => { row with phaseOutThreshold := v },
    optionalAmountColumn "phase_out_rate" fun v row => { row with phaseOutRate := v },
    flagColumn "automatic" fun v row => { row with automatic := v },
    ageColumn "minimum_age" fun v row => { row with minimumAge := v },
    ageColumn "dependent_under_age" fun v row => { row with dependentUnderAge := v },
    ⟨"partner", true, true, fun _ s => .ok fun row => { row with partner := s }⟩]
  blank := ⟨blankYear, "", "", .zero, none, none, false, none, none, ""⟩
  rowName := "CreditRecord"

/-- The columns of `deductions.csv`. -/
def DeductionRow.layout : Csv.Layout DeductionRow where
  columns := [
    taxYearColumn fun v row => { row with taxYear := v },
    textColumn "category" fun v row => { row with category := v },
    textColumn "deduction_type" fun v row => { row with deductionType := v },
    optionalAmountColumn "ceiling" fun v row => { row with ceiling := v },
    flagColumn "shareable" fun v row => { row with shareable := v }]
  blank := ⟨blankYear, "", "", none, false⟩
  rowName := "DeductionRecord"

/-- Why files hold no rate tables. -/
inductive TableFilesError where
  | file (e : Csv.FileError)
  | unknownCategory (name : String)
  deriving DecidableEq

namespace TableFilesError

/-- The name of the kind of error. -/
def name : TableFilesError → String
  | .file _ => "CsvParse"
  | .unknownCategory _ => "UnknownCategory"

/-- The wording of the error. -/
def message : TableFilesError → String
  | .file e => "CSV parse error: " ++ e.message
  | .unknownCategory name => "unknown declaration category '" ++ name ++ "'"

end TableFilesError

/-- The rows of a file. -/
def Csv.Layout.load {ρ : Type} (layout : Csv.Layout ρ) (bytes : List UInt8) :
    Except TableFilesError (List ρ) :=
  (layout.read bytes).mapError TableFilesError.file

/-- The definitions and faults of all rows. -/
def RateTableRows.load (rows : RateTableRows) : Except TableFilesError TableBatch :=
  rows.assemble.mapError fun e => .unknownCategory e.name

end IncomeTax

import IncomeTax.RateTable.Definition

/-!
# Assembling rate tables from rows

Published tables come as rows of five kinds: the tables themselves, and their brackets, thresholds,
credits and deductions, each row naming its tax year and category. Rows are put together in this
order. A row that is wrong or repeated takes its own table out and leaves a fault in its place; the
later rows of that table are passed over. Only a category that does not exist fails the assembly,
since its rows belong to no table.

## Main definitions

* `TableRow`, `BracketRow`, `ThresholdRow`, `CreditRow`, `DeductionRow`, `RateTableRows` — the rows
* `Assembly` — the definitions put together so far, and the faults
* `RateTableRows.assemble` — definitions and faults of all rows, in key order
-/

namespace IncomeTax

/-- A published table. -/
structure TableRow where
  taxYear : TaxYear
  category : String
  version : String
  deriving DecidableEq

/-- A bracket of a table; brackets stand in ascending order. -/
structure BracketRow where
  taxYear : TaxYear
  category : String
  lowerBound : Decimal
  upperBound : Option Decimal
  rate : Decimal
  deriving DecidableEq

/-- A named amount of a table. -/
structure ThresholdRow where
  taxYear : TaxYear
  category : String
  name : String
  amount : Decimal
  deriving DecidableEq

/-- A kind of credit that may be claimed. -/
structure CreditRow where
  taxYear : TaxYear
  category : String
  creditType : String
  maximum : Decimal
  phaseOutThreshold : Option Decimal
  phaseOutRate : Option Decimal
  automatic : Bool
  minimumAge : Option UInt32
  dependentUnderAge : Option UInt32
  partner : String
  deriving DecidableEq

/-- A kind of deduction that may be claimed. -/
structure DeductionRow where
  taxYear : TaxYear
  category : String
  deductionType : String
  ceiling : Option Decimal
  shareable : Bool
  deriving DecidableEq

/-- The rows of all published tables. -/
structure RateTableRows where
  tables : List TableRow
  brackets : List BracketRow
  thresholds : List ThresholdRow
  credits : List CreditRow
  deductions : List DeductionRow
  deriving DecidableEq

/-- The definitions put together so far, and the faults of the tables given up. -/
structure Assembly where
  definitions : OrderedMap RateTableKey RateTableDefinition
  faults : OrderedMap RateTableKey TableFault

/-- A category that does not exist, as named in a row. -/
structure UnknownCategory where
  name : String
  deriving DecidableEq

/-- The category named in a row, blanks around the name apart. -/
def categoryOf (name : String) : Except UnknownCategory DeclarationCategory :=
  match DeclarationCategory.ofName? (Text.trim name) with
  | some category => .ok category
  | none => .error ⟨name⟩

namespace Assembly

/-- The assembly without tables. -/
def empty : Assembly := ⟨.empty, .empty⟩

/-- Gives up the table of a fault, and keeps the fault if it is the first of its table. -/
def giveUp (a : Assembly) (fault : TableFault) : Assembly :=
  ⟨a.definitions.erase fault.key, a.faults.insertNew fault.key fault⟩

/-- Adds a table without rows; a table that was added before is given up. -/
def addTable (a : Assembly) (row : TableRow) : Except UnknownCategory Assembly :=
  (categoryOf row.category).map fun category =>
    let key : RateTableKey := ⟨row.taxYear, category⟩
    if a.definitions.contains key || a.faults.contains key then a.giveUp (.duplicateTable key)
    else
      { a with
        definitions := a.definitions.insert key
          ⟨row.taxYear, category, row.version, [], .empty, .empty, .empty⟩ }

/-- Adds a row of a file to the table it belongs to. A table that was given up stays as it is; a row
of a table that is not listed is a fault of that table. -/
def addRow (file : String) (taxYear : TaxYear) (categoryName : String)
    (extend : RateTableDefinition → Except TableFault RateTableDefinition)
    (a : Assembly) : Except UnknownCategory Assembly :=
  (categoryOf categoryName).map fun category =>
    let key : RateTableKey := ⟨taxYear, category⟩
    -- The category of the row counts even when its table was given up.
    if a.faults.contains key then a
    else
      match a.definitions.find? key with
      | none =>
        a.giveUp (.malformedEntry key (file ++ " has rows for a table not listed in tables.csv"))
      | some definition =>
        match extend definition with
        | .ok definition => { a with definitions := a.definitions.insert key definition }
        | .error fault => a.giveUp fault

/-- A definition with a bracket at its end. -/
def extendBrackets (row : BracketRow) (d : RateTableDefinition) :
    Except TableFault RateTableDefinition :=
  .ok { d with brackets := d.brackets ++ [⟨row.lowerBound, row.upperBound, row.rate⟩] }

/-- A definition with one more threshold. -/
def extendThresholds (row : ThresholdRow) (d : RateTableDefinition) :
    Except TableFault RateTableDefinition :=
  if d.thresholds.contains row.name then
    .error (.duplicateEntry d.key ("threshold " ++ row.name))
  else .ok { d with thresholds := d.thresholds.insert row.name row.amount }

/-- The fault of a row that names something that does not exist. -/
def unknownName (key : RateTableKey) (what name : String) : TableFault :=
  .malformedEntry key ("unknown " ++ what ++ " '" ++ name ++ "'")

/-- The phase-out of a row, which has both a threshold and a rate or neither. -/
def phaseOutOf (key : RateTableKey) (type : CreditType) (row : CreditRow) :
    Except TableFault (Option PhaseOut) :=
  match row.phaseOutThreshold, row.phaseOutRate with
  | some threshold, some rate => .ok (some ⟨threshold, rate⟩)
  | none, none => .ok none
  | _, _ => .error (.invalidPhaseOut key type)

/-- A definition with the rule for one more kind of credit. -/
def extendCredits (row : CreditRow) (d : RateTableDefinition) :
    Except TableFault RateTableDefinition :=
  match CreditType.ofName? (Text.trim row.creditType) with
  | none => .error (unknownName d.key "credit type" row.creditType)
  | some type =>
    match PartnerRequirement.ofCell? (Text.trim row.partner) with
    | none => .error (unknownName d.key "partner requirement" row.partner)
    | some partner =>
      match phaseOutOf d.key type row with
      | .error fault => .error fault
      | .ok phaseOut =>
        if d.credits.contains type then .error (.duplicateEntry d.key ("credit " ++ type.name))
        else
          .ok { d with
            credits := d.credits.insert type
              ⟨row.maximum, phaseOut, row.automatic, row.minimumAge, row.dependentUnderAge,
                partner⟩ }

/-- A definition with the rule for one more kind of deduction. -/
def extendDeductions (row : DeductionRow) (d : RateTableDefinition) :
    Except TableFault RateTableDefinition :=
  match DeductionType.ofName? (Text.trim row.deductionType) with
  | none => .error (unknownName d.key "deduction type" row.deductionType)
  | some type =>
    if d.deductions.contains type then .error (.duplicateEntry d.key ("deduction " ++ type.name))
    else .ok { d with deductions := d.deductions.insert type ⟨row.ceiling, row.shareable⟩ }

/-- Adds a bracket to its table. -/
def addBracket (a : Assembly) (row : BracketRow) : Except UnknownCategory Assembly :=
  a.addRow "brackets.csv" row.taxYear row.category (extendBrackets row)

/-- Adds a threshold to its table. -/
def addThreshold (a : Assembly) (row : ThresholdRow) : Except UnknownCategory Assembly :=
  a.addRow "thresholds.csv" row.taxYear row.category (extendThresholds row)

/-- Adds the rule for a kind of credit to its table. -/
def addCredit (a : Assembly) (row : CreditRow) : Except UnknownCategory Assembly :=
  a.addRow "credits.csv" row.taxYear row.category (extendCredits row)

/-- Adds the rule for a kind of deduction to its table. -/
def addDeduction (a : Assembly) (row : DeductionRow) : Except UnknownCategory Assembly :=
  a.addRow "deductions.csv" row.taxYear row.category (extendDeductions row)

end Assembly

namespace RateTableRows

/-- Puts all rows together. -/
def assembly (rows : RateTableRows) : Except UnknownCategory Assembly := do
  let a ← rows.tables.foldlM Assembly.addTable Assembly.empty
  let a ← rows.brackets.foldlM Assembly.addBracket a
  let a ← rows.thresholds.foldlM Assembly.addThreshold a
  let a ← rows.credits.foldlM Assembly.addCredit a
  rows.deductions.foldlM Assembly.addDeduction a

/-- The definitions of all good tables and the faults of all others, both in key order. -/
def assemble (rows : RateTableRows) : Except UnknownCategory TableBatch :=
  rows.assembly.map fun a => ⟨a.definitions.values, a.faults.values⟩

end RateTableRows

end IncomeTax

import IncomeTax.RateTable.Definition

/-!
# Rate tables

A rate table is a definition that has been checked. Its brackets start at zero, join without gaps or
overlaps, increase strictly, and only the last one is open; rates lie between zero and one, and no
amount is negative. Each bracket carries the tax on all income below it, its base tax.

Base taxes are sums of products and can outgrow an amount; a table with such a base tax cannot be
built, though its definition has no fault.

## Main definitions

* `TaxBracket`, `RateTable` — the checked brackets and the table
* `RateTable.ofDefinition` — checks a definition and derives the base taxes
* `TableError` — why there is no table
-/

namespace IncomeTax

/-- A checked bracket, with the tax on all income below its lower bound. -/
structure TaxBracket where
  lowerBound : Decimal
  upperBound : Option Decimal
  rate : Decimal
  baseTax : Decimal
  deriving DecidableEq

/-- Whether an income falls into the bracket; the lower bound does, the upper one does not. -/
def TaxBracket.contains (b : TaxBracket) (income : Decimal) : Bool :=
  b.lowerBound ≤ income && b.upperBound.all fun upper => decide (income < upper)

/-- The brackets, thresholds and rules for one tax year and category. -/
structure RateTable where
  key : RateTableKey
  version : String
  brackets : List TaxBracket
  thresholds : OrderedMap String Decimal
  credits : OrderedMap CreditType CreditRule
  deductions : OrderedMap DeductionType DeductionRule
  deriving DecidableEq

/-- Why a definition makes no table: a fault, or a base tax that outgrows an amount. -/
inductive TableError where
  | fault (f : TableFault)
  | overflow
  deriving DecidableEq

namespace RateTable

/-- The threshold with the given name. -/
def threshold? (t : RateTable) (name : String) : Option Decimal := t.thresholds.find? name

/-- The rule for a kind of credit, if it may be claimed. -/
def creditRule? (t : RateTable) (type : CreditType) : Option CreditRule := t.credits.find? type

/-- The rule for a kind of deduction, if it may be claimed. -/
def deductionRule? (t : RateTable) (type : DeductionType) : Option DeductionRule :=
  t.deductions.find? type

/-- Whether the amount is between zero and one. -/
def isFraction (rate : Decimal) : Bool := Decimal.zero ≤ rate && rate ≤ Decimal.one

/-- The fault of the bracket at an index, given the bracket after it. -/
def bracketFault? (key : RateTableKey) (index : Nat) (bracket : BracketDefinition)
    (next : Option BracketDefinition) : Option TableFault :=
  if !isFraction bracket.rate then some (.invalidRate key index bracket.rate)
  else
    match bracket.upperBound, next with
    | none, none => none
    | none, some _ => some (.openBracketNotLast key index)
    | some _, none => some (.boundedFinalBracket key)
    -- Only here do both bounds exist; the next lower bound must be this upper one.
    | some upper, some next =>
      if upper ≤ bracket.lowerBound then some (.notIncreasing key index)
      else if upper < next.lowerBound then some (.bracketGap key index)
      else if next.lowerBound < upper then some (.bracketOverlap key index)
      else none

/-- The base tax of the bracket that follows, none on overflow. -/
def nextBaseTax? (baseTax : Decimal) (bracket : BracketDefinition) : Option Decimal :=
  match bracket.upperBound with
  | none => some baseTax
  | some upper => do
    let width ← upper.sub? bracket.lowerBound
    let tax ← width.mul? bracket.rate
    baseTax.add? tax

/-- Checks brackets from the one at an index on, and derives their base taxes. -/
def brackets? (key : RateTableKey) (index : Nat) (baseTax : Decimal) :
    List BracketDefinition → Except TableError (List TaxBracket)
  | [] => .ok []
  | bracket :: rest =>
    match bracketFault? key index bracket rest.head? with
    | some fault => .error (.fault fault)
    | none =>
      match nextBaseTax? baseTax bracket with
      | none => .error .overflow
      | some next =>
        match brackets? key (index + 1) next rest with
        | .error e => .error e
        | .ok built =>
          .ok (⟨bracket.lowerBound, bracket.upperBound, bracket.rate, baseTax⟩ :: built)

/-- Checks all brackets, the first of which must start at zero. -/
def allBrackets? (key : RateTableKey) (brackets : List BracketDefinition) :
    Except TableError (List TaxBracket) :=
  match brackets.head? with
  | none => .error (.fault (.emptyBrackets key))
  | some first =>
    if !first.lowerBound.isZero then
      .error (.fault (.firstBracketNotAtZero key first.lowerBound))
    else brackets? key 0 Decimal.zero brackets

/-- The fault of a named threshold. -/
def thresholdFault? (key : RateTableKey) (entry : String × Decimal) : Option TableFault :=
  if entry.2.negative then some (.negativeAmount key ("threshold " ++ entry.1)) else none

/-- The fault of a rule for a kind of credit. -/
def creditFault? (key : RateTableKey) (entry : CreditType × CreditRule) :
    Option TableFault :=
  if entry.2.maximum.negative then
    some (.negativeAmount key ("credit " ++ entry.1.name ++ " maximum"))
  else
    match entry.2.phaseOut with
    | none => none
    | some phaseOut =>
      if phaseOut.threshold.negative || !isFraction phaseOut.rate then
        some (.invalidPhaseOut key entry.1)
      else none

/-- The fault of a rule for a kind of deduction. -/
def deductionFault? (key : RateTableKey) (entry : DeductionType × DeductionRule) :
    Option TableFault :=
  if entry.2.ceiling.any (·.negative) then
    some (.negativeAmount key ("deduction " ++ entry.1.name ++ " ceiling"))
  else none

/-- The first fault among thresholds, credits and deductions, in that order. -/
def rulesFault? (d : RateTableDefinition) : Option TableFault :=
  ((d.thresholds.entries.findSome? (thresholdFault? d.key)).or
    (d.credits.entries.findSome? (creditFault? d.key))).or
    (d.deductions.entries.findSome? (deductionFault? d.key))

/-- The table of a definition. The version is checked first, then the brackets, then the rules. -/
def ofDefinition (d : RateTableDefinition) : Except TableError RateTable :=
  if Text.isBlankText d.version then .error (.fault (.missingVersion d.key))
  else
    match allBrackets? d.key d.brackets with
    | .error e => .error e
    | .ok brackets =>
      match rulesFault? d with
      | some fault => .error (.fault fault)
      | none =>
        .ok ⟨d.key, d.version, brackets, d.thresholds, d.credits, d.deductions⟩

end RateTable

end IncomeTax

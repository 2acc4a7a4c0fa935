import IncomeTax.Decimal.Text
import IncomeTax.Declaration.Claim

/-!
# Rate table definitions

A definition is a rate table as published, not yet checked: brackets with their bounds and rates,
named thresholds, and the rules for each kind of credit and deduction that may be claimed. What is
wrong with a definition is a configuration fault, always against the key of its table.

## Main definitions

* `RateTableDefinition` — a table as published, with its brackets and rules
* `TableFault` — what can be wrong with it, with its key and wording
* `TableBatch` — the definitions and faults of several tables
-/

namespace IncomeTax

/-- A bracket as published: a rate on the income from the lower bound up to the upper one. -/
structure BracketDefinition where
  lowerBound : Decimal
  upperBound : Option Decimal
  rate : Decimal
  deriving DecidableEq

/-- The reduction of a credit: the rate times the income above the threshold. -/
structure PhaseOut where
  threshold : Decimal
  rate : Decimal
  deriving DecidableEq

/-- Whether a credit asks for a fiscal partner, or for none. -/
inductive PartnerRequirement where
  | any
  | withPartner
  | withoutPartner
  deriving DecidableEq

namespace PartnerRequirement

/-- Every requirement. -/
def all : List PartnerRequirement := [.any, .withPartner, .withoutPartner]

/-- The name of the requirement. -/
def name : PartnerRequirement → String
  | .any => "any"
  | .withPartner => "with-partner"
  | .withoutPartner => "without-partner"

/-- The requirement with the given name. -/
def ofName? (s : String) : Option PartnerRequirement := all.find? (·.name == s)

/-- The requirement with the given name, none being required when the text is empty. -/
def ofCell? (s : String) : Option PartnerRequirement := if s == "" then some .any else ofName? s

end PartnerRequirement

/-- The rule for a kind of credit. An automatic credit is granted without a claim; the ages are
those at the end of the tax year. -/
structure CreditRule where
  maximum : Decimal
  phaseOut : Option PhaseOut
  automatic : Bool
  minimumAge : Option UInt32
  dependentUnderAge : Option UInt32
  partner : PartnerRequirement
  deriving DecidableEq

/-- The rule for a kind of deduction. -/
structure DeductionRule where
  ceiling : Option Decimal
  shareable : Bool
  deriving DecidableEq

/-- A rate table as published. -/
structure RateTableDefinition where
  taxYear : TaxYear
  category : DeclarationCategory
  version : String
  brackets : List BracketDefinition
  thresholds : OrderedMap String Decimal
  credits : OrderedMap CreditType CreditRule
  deductions : OrderedMap DeductionType DeductionRule
  deriving DecidableEq

/-- The key of the table. -/
def RateTableDefinition.key (d : RateTableDefinition) : RateTableKey := ⟨d.taxYear, d.category⟩

/-- What makes a published table unusable. -/
inductive TableFault where
  | missingVersion (key : RateTableKey)
  | emptyBrackets (key : RateTableKey)
  | firstBracketNotAtZero (key : RateTableKey) (lowerBound : Decimal)
  | invalidRate (key : RateTableKey) (index : Nat) (rate : Decimal)
  | openBracketNotLast (key : RateTableKey) (index : Nat)
  | boundedFinalBracket (key : RateTableKey)
  | notIncreasing (key : RateTableKey) (index : Nat)
  | bracketGap (key : RateTableKey) (index : Nat)
  | bracketOverlap (key : RateTableKey) (index : Nat)
  | negativeAmount (key : RateTableKey) (item : String)
  | invalidPhaseOut (key : RateTableKey) (credit : CreditType)
  | duplicateTable (key : RateTableKey)
  | duplicateEntry (key : RateTableKey) (item : String)
  | malformedEntry (key : RateTableKey) (detail : String)
  deriving DecidableEq

namespace TableFault

/-- The table the fault is about. -/
def key : TableFault → RateTableKey
  | .missingVersion key | .emptyBrackets key | .firstBracketNotAtZero key _
  | .invalidRate key _ _ | .openBracketNotLast key _ | .boundedFinalBracket key
  | .notIncreasing key _ | .bracketGap key _ | .bracketOverlap key _ | .negativeAmount key _
  | .invalidPhaseOut key _ | .duplicateTable key | .duplicateEntry key _
  | .malformedEntry key _ => key

/-- The name of the kind of fault. -/
def name : TableFault → String
  | .missingVersion .. => "MissingVersion"
  | .emptyBrackets .. => "EmptyBrackets"
  | .firstBracketNotAtZero .. => "FirstBracketNotAtZero"
  | .invalidRate .. => "InvalidRate"
  | .openBracketNotLast .. => "OpenBracketNotLast"
  | .boundedFinalBracket .. => "BoundedFinalBracket"
  | .notIncreasing .. => "NotIncreasing"
  | .bracketGap .. => "BracketGap"
  | .bracketOverlap .. => "BracketOverlap"
  | .negativeAmount .. => "NegativeAmount"
  | .invalidPhaseOut .. => "InvalidPhaseOut"
  | .duplicateTable .. => "DuplicateTable"
  | .duplicateEntry .. => "DuplicateEntry"
  | .malformedEntry .. => "MalformedEntry"

/-- The wording of the fault. -/
def message (fault : TableFault) : String :=
  "rate table " ++ fault.key.toText ++
    match fault with
    | .missingVersion _ => " has no version"
    | .emptyBrackets _ => " has no brackets"
    | .firstBracketNotAtZero _ lowerBound =>
      ": first bracket starts at " ++ lowerBound.toText ++ " instead of 0"
    | .invalidRate _ index rate =>
      ": bracket " ++ toString index ++ " has invalid rate " ++ rate.toText
    | .openBracketNotLast _ index => ": bracket " ++ toString index ++ " is open-ended but not last"
    | .boundedFinalBracket _ => ": final bracket must be open-ended"
    | .notIncreasing _ index =>
      ": bracket " ++ toString index ++ " upper bound does not exceed its lower bound"
    | .bracketGap _ index => ": gap after bracket " ++ toString index
    | .bracketOverlap _ index => ": bracket " ++ toString index ++ " overlaps the next one"
    | .negativeAmount _ item => ": negative " ++ item
    | .invalidPhaseOut _ credit => ": invalid phase-out for " ++ credit.name
    | .duplicateTable _ => " is defined more than once"
    | .duplicateEntry _ item => " lists " ++ item ++ " more than once"
    | .malformedEntry _ detail => ": " ++ detail

end TableFault

/-- What was fetched from where tables are published: definitions, and the faults of the tables that
could not be made into one. -/
structure TableBatch where
  definitions : List RateTableDefinition
  faults : List TableFault
  deriving DecidableEq

end IncomeTax

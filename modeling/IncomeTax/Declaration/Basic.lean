import IncomeTax.Assessment.Result
import IncomeTax.Declaration.Claim
import IncomeTax.Declaration.Status

/-!
# Declarations

A declaration has contents, which the filer may edit while it is a draft or validated, and a status.
A validated declaration has a calculation attached. An amendment refers to the declaration it
amends. The trimmed citizen-service number of the taxpayer, the tax year and the category identify
the filing; a declaration keeps this key for life.

## Main definitions

* `DeclarationContent`, `NewDeclaration`, `Declaration` — what is filed
* `FilingKey`, `DeclarationId` — what identifies a filing and a declaration
* `Declaration.draft`, `Declaration.amendment` — making declarations
* `StateError` — misuse of a declaration, which never changes it
-/

namespace IncomeTax

/-- The number of a declaration, without an upper bound. A number of 64 bits does for the first
2^64 - 1 declarations; `DeclarationStore` says what it does to those that follow. -/
structure DeclarationId where
  val : Nat
  deriving DecidableEq

namespace DeclarationId

/-- The number as shown in messages. -/
def toText (id : DeclarationId) : String := "#" ++ toString id.val

instance : Ord DeclarationId := ⟨compareOn val⟩

instance : Std.TransOrd DeclarationId := inferInstanceAs (Std.TransCmp (compareOn val))

instance : Std.LawfulEqOrd DeclarationId where
  eq_of_compare {a b} same := by
    have same : compare a.val b.val = .eq := same
    cases a
    cases b
    exact congrArg _ (Std.LawfulEqOrd.eq_of_compare same)

end DeclarationId

/-- The identity provider's assertion. It travels with a declaration and is never looked into. -/
structure IdentityAssertion where
  text : String
  deriving DecidableEq

/-- Everything a filer may edit. The fiscal partner's profile is there when the partner files along;
the refund account is the bank account number a refund is paid to. -/
structure DeclarationContent where
  taxpayer : TaxpayerProfile
  fiscalPartner : Option TaxpayerProfile
  dependents : List Dependent
  income : List IncomeRecord
  deductions : List DeductionClaim
  credits : List CreditClaim
  refundAccount : Option String
  deriving DecidableEq

/-- A declaration that has not been numbered yet. -/
structure NewDeclaration where
  taxYear : TaxYear
  category : DeclarationCategory
  identity : Option IdentityAssertion
  content : DeclarationContent
  deriving DecidableEq

/-- A declaration. -/
structure Declaration where
  id : DeclarationId
  taxYear : TaxYear
  category : DeclarationCategory
  identity : Option IdentityAssertion
  content : DeclarationContent
  status : DeclarationStatus
  calculation : Option CalculationResult
  amends : Option DeclarationId
  deriving DecidableEq

/-- What only one declaration may hold at a time, unless it has been amended. -/
structure FilingKey where
  bsn : String
  taxYear : TaxYear
  category : DeclarationCategory
  deriving DecidableEq

namespace FilingKey

/-- The key as shown in messages. -/
def toText (k : FilingKey) : String :=
  k.bsn ++ "/" ++ k.taxYear.toText ++ "/" ++ k.category.name

instance : Ord FilingKey :=
  ⟨compareLex (compareOn bsn) (compareLex (compareOn taxYear) (compareOn category))⟩

instance : Std.TransOrd FilingKey :=
  inferInstanceAs (Std.TransCmp
    (compareLex (compareOn bsn) (compareLex (compareOn taxYear) (compareOn category))))

instance : Std.LawfulEqOrd FilingKey where
  compare_self {a} := by
    show (compare a.bsn a.bsn).then
      ((compare a.taxYear a.taxYear).then (compare a.category a.category)) = .eq
    simp
  eq_of_compare {a b} same := by
    obtain ⟨numbers, rest⟩ := Ordering.then_eq_eq.1 same
    obtain ⟨years, categories⟩ := Ordering.then_eq_eq.1 rest
    cases a
    cases b
    cases Std.LawfulEqOrd.eq_of_compare numbers
    cases Std.LawfulEqOrd.eq_of_compare years
    cases Std.LawfulEqOrd.eq_of_compare categories
    rfl

end FilingKey

/-- Misuse of a declaration or of the steps of its filing. -/
inductive StateError where
  | invalidTransition (source target : DeclarationStatus)
  | notEditable (status : DeclarationStatus)
  | filingKeyChanged
  | calculationMissing
  | partnerCrossReference (field reference : String)
  | tableMismatch (declaration table : RateTableKey)
  | duplicateFiling (key : FilingKey) (existing : DeclarationId)
  | unknownDeclaration (id : DeclarationId)
  deriving DecidableEq

namespace StateError

/-- The name of the kind of misuse. -/
def name : StateError → String
  | .invalidTransition .. => "InvalidTransition"
  | .notEditable .. => "NotEditable"
  | .filingKeyChanged => "FilingKeyChanged"
  | .calculationMissing => "CalculationMissing"
  | .partnerCrossReference .. => "PartnerCrossReference"
  | .tableMismatch .. => "TableMismatch"
  | .duplicateFiling .. => "DuplicateFiling"
  | .unknownDeclaration .. => "UnknownDeclaration"

/-- The wording of the error. -/
def message : StateError → String
  | .invalidTransition source target =>
    "cannot move declaration from " ++ source.name ++ " to " ++ target.name
  | .notEditable status => "declaration is " ++ status.name ++ " and can no longer be edited"
  | .filingKeyChanged => "the taxpayer's BSN identifies the filing and cannot be edited"
  | .calculationMissing => "declaration has no calculation attached"
  | .partnerCrossReference field reference =>
    field ++ " references partner " ++ reference ++ " who is not part of this filing"
  | .tableMismatch declaration table =>
    "declaration needs rate table " ++ declaration.toText ++ " but was given " ++ table.toText
  | .duplicateFiling key existing =>
    key.toText ++ " is already being filed as declaration " ++ existing.toText
  | .unknownDeclaration id => "declaration " ++ id.toText ++ " does not exist"

end StateError

namespace Declaration

/-- A fresh draft. -/
def draft (id : DeclarationId) (new : NewDeclaration) : Declaration where
  id := id
  taxYear := new.taxYear
  category := new.category
  identity := new.identity
  content := new.content
  status := .draft
  calculation := none
  amends := none

/-- A draft with the contents of a closed declaration, linked back to it. -/
def amendment (id : DeclarationId) (closed : Declaration) : Declaration :=
  { closed with id := id, status := .draft, calculation := none, amends := some closed.id }

/-- The key of the rate table the declaration needs. -/
def rateTableKey (d : Declaration) : RateTableKey := ⟨d.taxYear, d.category⟩

/-- The key of the filing. -/
def filingKey (d : Declaration) : FilingKey :=
  ⟨Text.trim d.content.taxpayer.bsn, d.taxYear, d.category⟩

/-- Whether the contents may still be edited. -/
def isEditable (d : Declaration) : Bool := d.status.isEditable

end Declaration

end IncomeTax

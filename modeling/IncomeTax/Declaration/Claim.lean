import IncomeTax.Decimal.Basic
import IncomeTax.Declaration.Taxpayer

/-!
# Income and claims

A declaration lists income, and claims deductions and credits. A deduction lowers the income that is
taxed, a credit lowers the tax itself. Each entry has an amount and a period; a deduction can be
shared with the fiscal partner.

## Main definitions

* `DeductionType`, `CreditType` — the kinds of claims, with their names and order
* `IncomeRecord`, `DeductionClaim`, `CreditClaim` — the entries of a declaration
-/

namespace IncomeTax

/-- The kind of a deduction. -/
inductive DeductionType where
  | mortgageInterest
  | dependentCare
  | specificCareCosts
  | gifts
  | alimony
  deriving DecidableEq

/-- The kind of a credit. -/
inductive CreditType where
  | generalTaxCredit
  | labourCredit
  | incomeDependentCombinationCredit
  | elderlyCredit
  | singleElderlyCredit
  deriving DecidableEq

namespace DeductionType

/-- Every kind, in order. -/
def all : List DeductionType :=
  [.mortgageInterest, .dependentCare, .specificCareCosts, .gifts, .alimony]

/-- The name of the kind. -/
def name : DeductionType → String
  | .mortgageInterest => "mortgage-interest"
  | .dependentCare => "dependent-care"
  | .specificCareCosts => "specific-care-costs"
  | .gifts => "gifts"
  | .alimony => "alimony"

/-- The kind with the given name. -/
def ofName? (s : String) : Option DeductionType := all.find? (·.name == s)

/-- The place of the kind in the order of kinds. -/
def rank : DeductionType → Nat
  | .mortgageInterest => 0
  | .dependentCare => 1
  | .specificCareCosts => 2
  | .gifts => 3
  | .alimony => 4

instance : Ord DeductionType := ⟨compareOn rank⟩

instance : Std.TransOrd DeductionType := inferInstanceAs (Std.TransCmp (compareOn rank))

instance : Std.LawfulEqOrd DeductionType where
  eq_of_compare {a b} same := by
    revert same
    cases a <;> cases b <;> decide

end DeductionType

namespace CreditType

/-- Every kind, in order. -/
def all : List CreditType :=
  [.generalTaxCredit, .labourCredit, .incomeDependentCombinationCredit, .elderlyCredit,
    .singleElderlyCredit]

/-- The name of the kind. -/
def name : CreditType → String
  | .generalTaxCredit => "general-tax-credit"
  | .labourCredit => "labour-credit"
  | .incomeDependentCombinationCredit => "income-dependent-combination-credit"
  | .elderlyCredit => "elderly-credit"
  | .singleElderlyCredit => "single-elderly-credit"

/-- The kind with the given name. -/
def ofName? (s : String) : Option CreditType := all.find? (·.name == s)

/-- The place of the kind in the order of kinds. -/
def rank : CreditType → Nat
  | .generalTaxCredit => 0
  | .labourCredit => 1
  | .incomeDependentCombinationCredit => 2
  | .elderlyCredit => 3
  | .singleElderlyCredit => 4

instance : Ord CreditType := ⟨compareOn rank⟩

instance : Std.TransOrd CreditType := inferInstanceAs (Std.TransCmp (compareOn rank))

instance : Std.LawfulEqOrd CreditType where
  eq_of_compare {a b} same := by
    revert same
    cases a <;> cases b <;> decide

end CreditType

/-- Income of one kind over a period, with the tax already withheld on it. -/
structure IncomeRecord where
  category : IncomeCategory
  grossAmount : Decimal
  period : Period
  withholding : Decimal
  deriving DecidableEq

/-- A claimed deduction, shared with the fiscal partner if a reference is given. -/
structure DeductionClaim where
  deductionType : DeductionType
  amount : Decimal
  period : Period
  sharedWith : Option PartnerReference
  deriving DecidableEq

/-- A claimed credit. -/
structure CreditClaim where
  creditType : CreditType
  amount : Decimal
  period : Period
  deriving DecidableEq

end IncomeTax

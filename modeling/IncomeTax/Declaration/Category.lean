import IncomeTax.OrderedMap

/-!
# Tax years and categories

A declaration is made for one tax year and in one category. The category decides which residency the
taxpayer must have; apart from that all categories are handled alike, each with its own rate table.

## Main definitions

* `TaxYear` — a year as a 32-bit number
* `DeclarationCategory`, `Residency`, `IncomeCategory` — the cases, with their names
* `RateTableKey` — a tax year and a category, which together identify a rate table
-/

namespace IncomeTax

/-- A tax year, a signed number of at most 32 bits. -/
structure TaxYear where
  val : Int
  val_mem : -Nat.pow 2 31 ≤ val ∧ val < Nat.pow 2 31
  deriving DecidableEq

namespace TaxYear

/-- The tax year of a number in range. -/
def ofInt? (n : Int) : Option TaxYear :=
  if inRange : -Nat.pow 2 31 ≤ n ∧ n < Nat.pow 2 31 then some ⟨n, inRange⟩ else none

/-- The tax year in decimal. -/
def toText (y : TaxYear) : String := toString y.val

/-- Tax years are ordered as numbers. -/
instance : Ord TaxYear := ⟨compareOn val⟩

instance : Std.TransOrd TaxYear := inferInstanceAs (Std.TransCmp (compareOn val))

instance : Std.LawfulEqOrd TaxYear where
  eq_of_compare {a b} same := by
    have same : compare a.val b.val = .eq := same
    have equal : a.val = b.val := Std.LawfulEqOrd.eq_of_compare same
    cases a
    cases b
    cases equal
    rfl

end TaxYear

/-- The kind of declaration that is filed. -/
inductive DeclarationCategory where
  | resident
  | nonResident
  | migration
  | provisionalResident
  | provisionalNonResident
  deriving DecidableEq

/-- Where a taxpayer lives; part of the year means that they moved in or out during the tax year. -/
inductive Residency where
  | resident
  | nonResident
  | partialYear
  deriving DecidableEq

/-- The kind of an income. -/
inductive IncomeCategory where
  | employment
  | investmentActualReturn
  | business
  | foreign
  deriving DecidableEq

namespace Residency

/-- Every residency. -/
def all : List Residency := [.resident, .nonResident, .partialYear]

/-- The name of the residency. -/
def name : Residency → String
  | .resident => "resident"
  | .nonResident => "non-resident"
  | .partialYear => "partial-year"

/-- The residency with the given name. -/
def ofName? (s : String) : Option Residency := all.find? (·.name == s)

end Residency

namespace DeclarationCategory

/-- Every category, in order. -/
def all : List DeclarationCategory :=
  [.resident, .nonResident, .migration, .provisionalResident, .provisionalNonResident]

/-- The name of the category. -/
def name : DeclarationCategory → String
  | .resident => "resident"
  | .nonResident => "non-resident"
  | .migration => "migration"
  | .provisionalResident => "provisional-resident"
  | .provisionalNonResident => "provisional-non-resident"

/-- The category with the given name. -/
def ofName? (s : String) : Option DeclarationCategory := all.find? (·.name == s)

/-- The residency a taxpayer must have to file in the category. -/
def requiredResidency : DeclarationCategory → Residency
  | .resident | .provisionalResident => .resident
  | .nonResident | .provisionalNonResident => .nonResident
  | .migration => .partialYear

/-- The place of the category in the order of categories. -/
def rank : DeclarationCategory → Nat
  | .resident => 0
  | .nonResident => 1
  | .migration => 2
  | .provisionalResident => 3
  | .provisionalNonResident => 4

instance : Ord DeclarationCategory := ⟨compareOn rank⟩

instance : Std.TransOrd DeclarationCategory := inferInstanceAs (Std.TransCmp (compareOn rank))

instance : Std.LawfulEqOrd DeclarationCategory where
  eq_of_compare {a b} same := by
    revert same
    cases a <;> cases b <;> decide

end DeclarationCategory

namespace IncomeCategory

/-- Every category, in order. -/
def all : List IncomeCategory := [.employment, .investmentActualReturn, .business, .foreign]

/-- The name of the category. -/
def name : IncomeCategory → String
  | .employment => "employment"
  | .investmentActualReturn => "investment-actual-return"
  | .business => "business"
  | .foreign => "foreign"

/-- The category with the given name. -/
def ofName? (s : String) : Option IncomeCategory := all.find? (·.name == s)

/-- The place of the category in the order of categories. -/
def rank : IncomeCategory → Nat
  | .employment => 0
  | .investmentActualReturn => 1
  | .business => 2
  | .foreign => 3

instance : Ord IncomeCategory := ⟨compareOn rank⟩

instance : Std.TransOrd IncomeCategory := inferInstanceAs (Std.TransCmp (compareOn rank))

instance : Std.LawfulEqOrd IncomeCategory where
  eq_of_compare {a b} same := by
    revert same
    cases a <;> cases b <;> decide

end IncomeCategory

/-- What identifies a published rate table. -/
structure RateTableKey where
  taxYear : TaxYear
  category : DeclarationCategory
  deriving DecidableEq

namespace RateTableKey

/-- The tax year and the category. -/
def toText (k : RateTableKey) : String := k.taxYear.toText ++ "/" ++ k.category.name

/-- Keys are ordered by year, then category. -/
instance : Ord RateTableKey := ⟨compareLex (compareOn taxYear) (compareOn category)⟩

instance : Std.TransOrd RateTableKey :=
  inferInstanceAs (Std.TransCmp (compareLex (compareOn taxYear) (compareOn category)))

instance : Std.LawfulEqOrd RateTableKey where
  compare_self {a} := by
    show (compare a.taxYear a.taxYear).then (compare a.category a.category) = .eq
    simp
  eq_of_compare {a b} same := by
    obtain ⟨years, categories⟩ := Ordering.then_eq_eq.1 same
    cases a
    cases b
    cases Std.LawfulEqOrd.eq_of_compare years
    cases Std.LawfulEqOrd.eq_of_compare categories
    rfl

end RateTableKey

end IncomeTax

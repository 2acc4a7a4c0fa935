import IncomeTax.Declaration.Basic
import IncomeTax.Identifier.Bsn
import IncomeTax.Identifier.Iban
import IncomeTax.Identifier.PostalCode

/-!
# Validation of declarations

Every rule is checked and every violation reported: first those of single fields, in the order of
the contents, then those between fields. A check never depends on the outcome of another one.

The tax year is supported from 2001 on, as long as its days are on the calendar. While the year is
not supported, nothing is compared with it.

## Main definitions

* `Validation.amountErrors`, `periodErrors`, `profileErrors`, … — the checks of single fields
* `Declaration.validate` — all violations of a declaration
-/

namespace IncomeTax

namespace Validation

/-- The first supported tax year. -/
def firstSupportedYear : Int := 2001

/-- The greatest number of days that income of a migration declaration may cover in total. -/
def partialYearLimit : Int := 366

/-- The greatest amount, 999 999 999 999.99. -/
def greatestAmount : Decimal :=
  ⟨false, 99999999999999, 2, by decide, Decimal.cents_le_maxScale⟩

/-- The earliest date of birth. -/
def earliestBirth : Date := ⟨1900, 1, 1, by decide, by decide⟩

/-- The violation of a rule at a field, when the rule is broken. -/
def errorIf (broken : Bool) (field : String) (rule : Rule) : List ValidationError :=
  if broken then [⟨field, rule⟩] else []

/-- The violation at a field, when there is one. -/
def errorOf (field : String) (violation : Option Rule) : List ValidationError :=
  violation.toList.map (⟨field, ·⟩)

/-- The path of the item at an index of a list. -/
def itemPath (list : String) (index : Nat) : String := list ++ "[" ++ toString index ++ "]"

/-- Whether the text is 1 to 20 letters or digits of ASCII, blanks around them apart. -/
def isForeignId (id : String) : Bool :=
  let cs := Text.trimBoth id.toList
  !cs.isEmpty && cs.length ≤ 20 && cs.all fun c => Iban.isLetter c || Text.isDigit c

/-- A date of birth is not before 1900 and not after the tax year. -/
def birthErrors (field : String) (birth : Date) (year : Option Period) : List ValidationError :=
  errorIf (birth < earliestBirth || year.any fun year => decide (year.finish < birth)) field
    .dateOfBirthOutOfRange

/-- An amount is not negative, within range, and a whole number of cents. -/
def amountErrors (field : String) (amount : Decimal) : List ValidationError :=
  errorIf (amount.negative && !amount.isZero) field .negativeAmount ++
    errorIf (greatestAmount < amount.abs) field .amountOutOfRange ++
    errorIf (2 < amount.trimmedScale) field .amountPrecision

/-- A period does not end before it starts, and lies within the tax year. -/
def periodErrors (field : String) (period : Period) (year : Option Period) :
    List ValidationError :=
  if period.isReversed then [⟨field, .periodReversed⟩]
  else errorIf (year.any fun year => !year.contains period) field .periodOutsideTaxYear

/-- The checks of a profile. A profile without a citizen-service number passes when it has a foreign
tax identifier. -/
def profileErrors (path : String) (profile : TaxpayerProfile) (year : Option Period) :
    List ValidationError :=
  let number := Text.trim profile.bsn
  -- The number may be missing, but one that is there must be valid.
  let foreignOnly := number.isEmpty && profile.foreignTaxId.isSome
  (if foreignOnly then [] else errorOf (path ++ ".bsn") (Bsn.violation number)) ++
    errorIf (profile.foreignTaxId.any (!isForeignId ·)) (path ++ ".foreign_tax_id")
      .foreignTaxIdFormat ++
    birthErrors (path ++ ".date_of_birth") profile.dateOfBirth year ++
    errorOf (path ++ ".postal_code") (profile.postalCode.bind PostalCode.violation)

/-- A reference to a partner is a valid identifier, and not the taxpayer's own number. -/
def referenceErrors (path : String) (reference : PartnerReference) (taxpayer : TaxpayerProfile) :
    List ValidationError :=
  match reference with
  | .bsn number =>
    match Bsn.violation (Text.trim number) with
    | some rule => [⟨path, rule⟩]
    | none => errorIf (Text.trim number == Text.trim taxpayer.bsn) path .partnerIsTaxpayer
  | .foreignTaxId id => errorIf (!isForeignId id) path .foreignTaxIdFormat

/-- The checks of one income record. Withholding is compared with the gross amount only when
neither of them carries a negative sign. -/
def incomeErrors (year : Option Period) (index : Nat) (record : IncomeRecord) :
    List ValidationError :=
  let path := itemPath "income" index
  amountErrors (path ++ ".gross_amount") record.grossAmount ++
    amountErrors (path ++ ".withholding") record.withholding ++
    errorIf (!record.withholding.negative && !record.grossAmount.negative &&
      decide (record.grossAmount < record.withholding)) (path ++ ".withholding")
      .withholdingExceedsGross ++
    periodErrors (path ++ ".period") record.period year

/-- The checks of one deduction claim. -/
def deductionErrors (year : Option Period) (taxpayer : TaxpayerProfile) (index : Nat)
    (claim : DeductionClaim) : List ValidationError :=
  let path := itemPath "deductions" index
  amountErrors (path ++ ".amount") claim.amount ++
    periodErrors (path ++ ".period") claim.period year ++
    claim.sharedWith.toList.flatMap (referenceErrors (path ++ ".shared_with") · taxpayer)

/-- The checks of one credit claim. -/
def creditErrors (year : Option Period) (index : Nat) (claim : CreditClaim) :
    List ValidationError :=
  let path := itemPath "credits" index
  amountErrors (path ++ ".amount") claim.amount ++
    periodErrors (path ++ ".period") claim.period year

/-- The checks of every item of a list, each with its index. -/
def eachErrors {α : Type} (check : Nat → α → List ValidationError) (items : List α) :
    List ValidationError :=
  items.zipIdx.flatMap fun (item, index) => check index item

/-- A claim repeats an earlier one of the list when both have one kind and their periods overlap. -/
def duplicateErrors {α : Type} (list : String) (repeats : α → α → Bool) (claims : List α) :
    List ValidationError :=
  eachErrors (fun index later =>
    errorIf ((claims.take index).any (repeats · later)) (itemPath list index) .duplicateClaim)
    claims

/-- Two deduction claims of one kind for overlapping periods. -/
def repeatsDeduction (earlier later : DeductionClaim) : Bool :=
  earlier.deductionType == later.deductionType && earlier.period.overlaps later.period

/-- Two credit claims of one kind for overlapping periods. -/
def repeatsCredit (earlier later : CreditClaim) : Bool :=
  earlier.creditType == later.creditType && earlier.period.overlaps later.period

/-- The profile of a fiscal partner is that of the partner the taxpayer refers to. -/
def fiscalPartnerErrors (content : DeclarationContent) : List ValidationError :=
  errorIf (content.fiscalPartner.any fun partner =>
    !content.taxpayer.partner.any (·.identifies partner)) "fiscal_partner" .partnerProfileMismatch

/-- The days of all income periods of a migration declaration together are limited. -/
def partialYearErrors (category : DeclarationCategory) (income : List IncomeRecord) :
    List ValidationError :=
  errorIf (category == .migration &&
    decide (partialYearLimit < (income.map (·.period.days)).foldl (· + ·) 0)) "income"
    .partialYearDaysExceeded

end Validation

open Validation

namespace Declaration

/-- The tax year as a period, if it is supported. -/
def supportedYear? (d : Declaration) : Option Period :=
  if d.taxYear.val < firstSupportedYear then none else Period.calendarYear? d.taxYear.val

/-- The violations of single fields. -/
def fieldErrors (d : Declaration) : List ValidationError :=
  let year := d.supportedYear?
  let content := d.content
  errorIf year.isNone "tax_year" .taxYearOutOfRange ++
    profileErrors "taxpayer" content.taxpayer year ++
    content.taxpayer.partner.toList.flatMap
      (referenceErrors "taxpayer.partner" · content.taxpayer) ++
    content.fiscalPartner.toList.flatMap (profileErrors "fiscal_partner" · year) ++
    eachErrors (fun index dependent =>
      birthErrors (itemPath "dependents" index ++ ".date_of_birth") dependent.dateOfBirth year)
      content.dependents ++
    errorOf "refund_account" (content.refundAccount.bind Iban.violation) ++
    eachErrors (incomeErrors year) content.income ++
    eachErrors (deductionErrors year content.taxpayer) content.deductions ++
    eachErrors (creditErrors year) content.credits ++
    errorIf (content.taxpayer.residency == .resident && content.taxpayer.postalCode.isNone)
      "taxpayer.postal_code" .required

/-- The violations between fields. -/
def crossErrors (d : Declaration) : List ValidationError :=
  errorIf (d.content.taxpayer.residency != d.category.requiredResidency) "category"
      .residencyMismatch ++
    fiscalPartnerErrors d.content ++
    partialYearErrors d.category d.content.income ++
    duplicateErrors "deductions" repeatsDeduction d.content.deductions ++
    duplicateErrors "credits" repeatsCredit d.content.credits

/-- All violations of the declaration; it is valid when there are none. -/
def validate (d : Declaration) : List ValidationError := d.fieldErrors ++ d.crossErrors

end Declaration

end IncomeTax

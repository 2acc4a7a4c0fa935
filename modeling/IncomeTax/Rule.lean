/-!
# Rules a declaration can break

Each rule about a filer's data has a code, which is stable, and a wording. A violation is a rule
together with the path of the field that breaks it, such as `income[1].period`.

## Main definitions

* `Rule` — the rules, with `Rule.code`, `Rule.ofCode?` and `Rule.message`
* `ValidationError` — a rule broken at a field
-/

namespace IncomeTax

/-- A rule that a field of a declaration can break. -/
inductive Rule where
  | required
  | bsnFormat
  | bsnChecksum
  | bsnRepeatedDigits
  | ibanFormat
  | ibanChecksum
  | postalCodeFormat
  | foreignTaxIdFormat
  | negativeAmount
  | amountPrecision
  | amountOutOfRange
  | withholdingExceedsGross
  | periodReversed
  | periodOutsideTaxYear
  | dateOfBirthOutOfRange
  | taxYearOutOfRange
  | partnerIsTaxpayer
  | partnerProfileMismatch
  | residencyMismatch
  | partialYearDaysExceeded
  | duplicateClaim
  | claimTypeNotPermitted
  | creditNotEligible
  | sharingNotPermitted
  deriving DecidableEq

namespace Rule

/-- Every rule. -/
def all : List Rule :=
  [.required, .bsnFormat, .bsnChecksum, .bsnRepeatedDigits, .ibanFormat, .ibanChecksum,
    .postalCodeFormat, .foreignTaxIdFormat, .negativeAmount, .amountPrecision, .amountOutOfRange,
    .withholdingExceedsGross, .periodReversed, .periodOutsideTaxYear, .dateOfBirthOutOfRange,
    .taxYearOutOfRange, .partnerIsTaxpayer, .partnerProfileMismatch, .residencyMismatch,
    .partialYearDaysExceeded, .duplicateClaim, .claimTypeNotPermitted, .creditNotEligible,
    .sharingNotPermitted]

/-- The stable code of the rule. -/
def code : Rule → String
  | .required => "REQUIRED"
  | .bsnFormat => "BSN_FORMAT"
  | .bsnChecksum => "BSN_CHECKSUM"
  | .bsnRepeatedDigits => "BSN_REPEATED_DIGITS"
  | .ibanFormat => "IBAN_FORMAT"
  | .ibanChecksum => "IBAN_CHECKSUM"
  | .postalCodeFormat => "POSTAL_CODE_FORMAT"
  | .foreignTaxIdFormat => "FOREIGN_TAX_ID_FORMAT"
  | .negativeAmount => "NEGATIVE_AMOUNT"
  | .amountPrecision => "AMOUNT_PRECISION"
  | .amountOutOfRange => "AMOUNT_OUT_OF_RANGE"
  | .withholdingExceedsGross => "WITHHOLDING_EXCEEDS_GROSS"
  | .periodReversed => "PERIOD_REVERSED"
  | .periodOutsideTaxYear => "PERIOD_OUTSIDE_TAX_YEAR"
  | .dateOfBirthOutOfRange => "DATE_OF_BIRTH_OUT_OF_RANGE"
  | .taxYearOutOfRange => "TAX_YEAR_OUT_OF_RANGE"
  | .partnerIsTaxpayer => "PARTNER_IS_TAXPAYER"
  | .partnerProfileMismatch => "PARTNER_PROFILE_MISMATCH"
  | .residencyMismatch => "RESIDENCY_MISMATCH"
  | .partialYearDaysExceeded => "PARTIAL_YEAR_DAYS_EXCEEDED"
  | .duplicateClaim => "DUPLICATE_CLAIM"
  | .claimTypeNotPermitted => "CLAIM_TYPE_NOT_PERMITTED"
  | .creditNotEligible => "CREDIT_NOT_ELIGIBLE"
  | .sharingNotPermitted => "SHARING_NOT_PERMITTED"

/-- The rule with the given code. -/
def ofCode? (code : String) : Option Rule := all.find? (·.code == code)

/-- The wording of the rule. -/
def message : Rule → String
  | .required => "a value is required"
  | .bsnFormat => "BSN must be exactly 9 digits"
  | .bsnChecksum => "BSN fails the modulus-11 check"
  | .bsnRepeatedDigits => "BSN consists of repeated digits"
  | .ibanFormat => "IBAN is malformed"
  | .ibanChecksum => "IBAN check digits are wrong"
  | .postalCodeFormat => "postal code must look like '1234 AB'"
  | .foreignTaxIdFormat => "foreign tax identifier must be 1 to 20 letters or digits"
  | .negativeAmount => "amount may not be negative"
  | .amountPrecision => "amount has more than two decimals"
  | .amountOutOfRange => "amount is out of range"
  | .withholdingExceedsGross => "withholding exceeds the gross amount"
  | .periodReversed => "period ends before it starts"
  | .periodOutsideTaxYear => "period falls outside the tax year"
  | .dateOfBirthOutOfRange => "date of birth is out of range"
  | .taxYearOutOfRange => "tax year is not supported"
  | .partnerIsTaxpayer => "partner is the taxpayer"
  | .partnerProfileMismatch => "fiscal partner profile does not match the partner reference"
  | .residencyMismatch => "declaration category does not match the taxpayer's residency"
  | .partialYearDaysExceeded => "partial-year income periods exceed 366 days"
  | .duplicateClaim => "claim of this type already made for an overlapping period"
  | .claimTypeNotPermitted => "claim type is not permitted for this year and category"
  | .creditNotEligible => "taxpayer is not eligible for this credit"
  | .sharingNotPermitted => "claim may not be shared with a partner"

end Rule

/-- A rule broken at a field. -/
structure ValidationError where
  field : String
  rule : Rule
  deriving DecidableEq

/-- The field and the wording of the rule. -/
def ValidationError.message (e : ValidationError) : String := e.field ++ ": " ++ e.rule.message

end IncomeTax

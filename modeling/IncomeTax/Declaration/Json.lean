import IncomeTax.Assessment.Json
import IncomeTax.Declaration.Resolution

/-!
# Declarations in documents

A declaration and its parts are records. Values that are not there are left out when they are
written; when a declaration is read they may be missing or null. Lists that are missing are empty,
and missing withholding is zero. A partner reference is an object with one member.
-/

namespace IncomeTax

namespace PartnerReference

/-- The reference as an object of one member. -/
def toJson : PartnerReference → Json
  | .bsn number => .object [("bsn", .string number)]
  | .foreignTaxId id => .object [("foreign-tax-id", .string id)]

/-- The reference of an object of one member. -/
def ofJson? : Json → Option PartnerReference
  | .object [("bsn", .string number)] => some (.bsn number)
  | .object [("foreign-tax-id", .string id)] => some (.foreignTaxId id)
  | _ => none

end PartnerReference

namespace TaxpayerProfile

/-- The profile as a record. -/
def toJson (p : TaxpayerProfile) : Json :=
  .object ([("bsn", .string p.bsn), ("residency", .string p.residency.name),
      ("date_of_birth", p.dateOfBirth.toJson)] ++
    Json.optionalMember "partner" PartnerReference.toJson p.partner ++
    Json.optionalMember "postal_code" Json.string p.postalCode ++
    Json.optionalMember "foreign_tax_id" Json.string p.foreignTaxId)

/-- The profile of a record. -/
def ofJson? (j : Json) : Option TaxpayerProfile := do
  let r ← j.record?
    ["bsn", "residency", "date_of_birth", "partner", "postal_code", "foreign_tax_id"]
  let bsn ← r.required "bsn" Json.text?
  let residency ← r.required "residency" fun j => j.name?.bind Residency.ofName?
  let dateOfBirth ← r.required "date_of_birth" Date.ofJson?
  let partner ← r.optional "partner" PartnerReference.ofJson?
  let postalCode ← r.optional "postal_code" Json.text?
  let foreignTaxId ← r.optional "foreign_tax_id" Json.text?
  return ⟨bsn, residency, dateOfBirth, partner, postalCode, foreignTaxId⟩

end TaxpayerProfile

namespace Dependent

/-- The dependent as a record. -/
def toJson (d : Dependent) : Json := .object [("date_of_birth", d.dateOfBirth.toJson)]

/-- The dependent of a record. -/
def ofJson? (j : Json) : Option Dependent := do
  let r ← j.record? ["date_of_birth"]
  return ⟨← r.required "date_of_birth" Date.ofJson?⟩

end Dependent

namespace IncomeRecord

/-- The income as a record. -/
def toJson (i : IncomeRecord) : Json :=
  .object [("category", .string i.category.name), ("gross_amount", i.grossAmount.toJson),
    ("period", i.period.toJson), ("withholding", i.withholding.toJson)]

/-- The income of a record. -/
def ofJson? (j : Json) : Option IncomeRecord := do
  let r ← j.record? ["category", "gross_amount", "period", "withholding"]
  let category ← r.required "category" fun j => j.name?.bind IncomeCategory.ofName?
  let grossAmount ← r.required "gross_amount" Decimal.ofJson?
  let period ← r.required "period" Period.ofJson?
  let withholding ← r.defaulted "withholding" .zero Decimal.ofJson?
  return ⟨category, grossAmount, period, withholding⟩

end IncomeRecord

namespace DeductionClaim

/-- The claim as a record. -/
def toJson (c : DeductionClaim) : Json :=
  .object ([("deduction_type", .string c.deductionType.name), ("amount", c.amount.toJson),
      ("period", c.period.toJson)] ++
    Json.optionalMember "shared_with" PartnerReference.toJson c.sharedWith)

/-- The claim of a record. -/
def ofJson? (j : Json) : Option DeductionClaim := do
  let r ← j.record? ["deduction_type", "amount", "period", "shared_with"]
  let deductionType ← r.required "deduction_type" fun j => j.name?.bind DeductionType.ofName?
  let amount ← r.required "amount" Decimal.ofJson?
  let period ← r.required "period" Period.ofJson?
  let sharedWith ← r.optional "shared_with" PartnerReference.ofJson?
  return ⟨deductionType, amount, period, sharedWith⟩

end DeductionClaim

namespace CreditClaim

/-- The claim as a record. -/
def toJson (c : CreditClaim) : Json :=
  .object [("credit_type", .string c.creditType.name), ("amount", c.amount.toJson),
    ("period", c.period.toJson)]

/-- The claim of a record. -/
def ofJson? (j : Json) : Option CreditClaim := do
  let r ← j.record? ["credit_type", "amount", "period"]
  let creditType ← r.required "credit_type" fun j => j.name?.bind CreditType.ofName?
  let amount ← r.required "amount" Decimal.ofJson?
  let period ← r.required "period" Period.ofJson?
  return ⟨creditType, amount, period⟩

end CreditClaim

namespace DeclarationContent

/-- The contents as a record. -/
def toJson (c : DeclarationContent) : Json :=
  .object ([("taxpayer", c.taxpayer.toJson)] ++
    Json.optionalMember "fiscal_partner" TaxpayerProfile.toJson c.fiscalPartner ++
    [("dependents", Json.ofList Dependent.toJson c.dependents),
      ("income", Json.ofList IncomeRecord.toJson c.income),
      ("deductions", Json.ofList DeductionClaim.toJson c.deductions),
      ("credits", Json.ofList CreditClaim.toJson c.credits)] ++
    Json.optionalMember "refund_account" Json.string c.refundAccount)

/-- The contents of a record. -/
def ofJson? (j : Json) : Option DeclarationContent := do
  let r ← j.record?
    ["taxpayer", "fiscal_partner", "dependents", "income", "deductions", "credits",
      "refund_account"]
  let taxpayer ← r.required "taxpayer" TaxpayerProfile.ofJson?
  let fiscalPartner ← r.optional "fiscal_partner" TaxpayerProfile.ofJson?
  let dependents ← r.defaulted "dependents" [] (Json.items? Dependent.ofJson?)
  let income ← r.defaulted "income" [] (Json.items? IncomeRecord.ofJson?)
  let deductions ← r.defaulted "deductions" [] (Json.items? DeductionClaim.ofJson?)
  let credits ← r.defaulted "credits" [] (Json.items? CreditClaim.ofJson?)
  let refundAccount ← r.optional "refund_account" Json.text?
  return ⟨taxpayer, fiscalPartner, dependents, income, deductions, credits, refundAccount⟩

end DeclarationContent

namespace IdentityAssertion

/-- The assertion as a text. -/
def toJson (a : IdentityAssertion) : Json := .string a.text

/-- The assertion of a text. -/
def ofJson? (j : Json) : Option IdentityAssertion := j.text?.map IdentityAssertion.mk

end IdentityAssertion

namespace DeclarationId

/-- The number as a number. -/
def toJson (id : DeclarationId) : Json := Json.ofNat id.val

/-- The number of a number. -/
def ofJson? (j : Json) : Option DeclarationId := j.natural?.map DeclarationId.mk

end DeclarationId

namespace NewDeclaration

/-- The new declaration as a record. -/
def toJson (d : NewDeclaration) : Json :=
  .object ([("tax_year", d.taxYear.toJson), ("category", d.category.toJson)] ++
    Json.optionalMember "identity" IdentityAssertion.toJson d.identity ++
    [("content", d.content.toJson)])

/-- The new declaration of a record. -/
def ofJson? (j : Json) : Option NewDeclaration := do
  let r ← j.record? ["tax_year", "category", "identity", "content"]
  let taxYear ← r.required "tax_year" TaxYear.ofJson?
  let category ← r.required "category" DeclarationCategory.ofJson?
  let identity ← r.optional "identity" IdentityAssertion.ofJson?
  let content ← r.required "content" DeclarationContent.ofJson?
  return ⟨taxYear, category, identity, content⟩

end NewDeclaration

namespace DeclarationStatus

/-- The status as its name. -/
def toJson (s : DeclarationStatus) : Json := .string s.name

/-- The status of a name. -/
def ofJson? (j : Json) : Option DeclarationStatus := j.name?.bind ofName?

end DeclarationStatus

namespace Declaration

/-- The declaration as a record. -/
def toJson (d : Declaration) : Json :=
  .object ([("id", d.id.toJson), ("tax_year", d.taxYear.toJson),
      ("category", d.category.toJson)] ++
    Json.optionalMember "identity" IdentityAssertion.toJson d.identity ++
    [("content", d.content.toJson), ("status", d.status.toJson)] ++
    Json.optionalMember "calculation" CalculationResult.toJson d.calculation ++
    Json.optionalMember "amends" DeclarationId.toJson d.amends)

/-- The declaration of a record. -/
def ofJson? (j : Json) : Option Declaration := do
  let r ← j.record?
    ["id", "tax_year", "category", "identity", "content", "status", "calculation", "amends"]
  let id ← r.required "id" DeclarationId.ofJson?
  let taxYear ← r.required "tax_year" TaxYear.ofJson?
  let category ← r.required "category" DeclarationCategory.ofJson?
  let identity ← r.optional "identity" IdentityAssertion.ofJson?
  let content ← r.required "content" DeclarationContent.ofJson?
  let status ← r.required "status" DeclarationStatus.ofJson?
  let calculation ← r.optional "calculation" CalculationResult.ofJson?
  let amends ← r.optional "amends" DeclarationId.ofJson?
  return { id, taxYear, category, identity, content, status, calculation, amends }

end Declaration

namespace FilingKey

/-- The key as a record. -/
def toJson (k : FilingKey) : Json :=
  .object [("bsn", .string k.bsn), ("tax_year", k.taxYear.toJson),
    ("category", k.category.toJson)]

/-- The key of a record. -/
def ofJson? (j : Json) : Option FilingKey := do
  let r ← j.record? ["bsn", "tax_year", "category"]
  let bsn ← r.required "bsn" Json.text?
  let taxYear ← r.required "tax_year" TaxYear.ofJson?
  let category ← r.required "category" DeclarationCategory.ofJson?
  return ⟨bsn, taxYear, category⟩

end FilingKey

namespace Rule

/-- The rule as its code. -/
def toJson (rule : Rule) : Json := .string rule.code

/-- The rule of a code. -/
def ofJson? (j : Json) : Option Rule := j.name?.bind ofCode?

end Rule

namespace ValidationError

/-- The violation as a record. -/
def toJson (e : ValidationError) : Json :=
  .object [("field", .string e.field), ("rule", e.rule.toJson)]

/-- The violation of a record. -/
def ofJson? (j : Json) : Option ValidationError := do
  let r ← j.record? ["field", "rule"]
  let field ← r.required "field" Json.text?
  let rule ← r.required "rule" Rule.ofJson?
  return ⟨field, rule⟩

end ValidationError

namespace ResolvedDeduction

/-- The granted deduction as a record. -/
def toJson (d : ResolvedDeduction) : Json :=
  .object [("deduction_type", .string d.deductionType.name), ("claimed", d.claimed.toJson),
    ("allowed", d.allowed.toJson), ("capped", .bool d.capped)]

/-- The granted deduction of a record. -/
def ofJson? (j : Json) : Option ResolvedDeduction := do
  let r ← j.record? ["deduction_type", "claimed", "allowed", "capped"]
  let deductionType ← r.required "deduction_type" fun j => j.name?.bind DeductionType.ofName?
  let claimed ← r.required "claimed" Decimal.ofJson?
  let allowed ← r.required "allowed" Decimal.ofJson?
  let capped ← r.required "capped" Json.flag?
  return ⟨deductionType, claimed, allowed, capped⟩

end ResolvedDeduction

namespace ResolvedCredit

/-- The granted credit as a record. -/
def toJson (c : ResolvedCredit) : Json :=
  .object [("credit_type", .string c.creditType.name), ("base", c.base.toJson),
    ("amount", c.amount.toJson), ("automatic", .bool c.automatic)]

/-- The granted credit of a record. -/
def ofJson? (j : Json) : Option ResolvedCredit := do
  let r ← j.record? ["credit_type", "base", "amount", "automatic"]
  let creditType ← r.required "credit_type" fun j => j.name?.bind CreditType.ofName?
  let base ← r.required "base" Decimal.ofJson?
  let amount ← r.required "amount" Decimal.ofJson?
  let automatic ← r.required "automatic" Json.flag?
  return ⟨creditType, base, amount, automatic⟩

end ResolvedCredit

namespace Resolution

/-- The resolution as a record. -/
def toJson (r : Resolution) : Json :=
  .object [("deductions", Json.ofList ResolvedDeduction.toJson r.deductions),
    ("credits", Json.ofList ResolvedCredit.toJson r.credits),
    ("errors", Json.ofList ValidationError.toJson r.errors)]

/-- The resolution of a record. -/
def ofJson? (j : Json) : Option Resolution := do
  let r ← j.record? ["deductions", "credits", "errors"]
  let deductions ← r.required "deductions" (Json.items? ResolvedDeduction.ofJson?)
  let credits ← r.required "credits" (Json.items? ResolvedCredit.ofJson?)
  let errors ← r.required "errors" (Json.items? ValidationError.ofJson?)
  return ⟨deductions, credits, errors⟩

end Resolution

end IncomeTax

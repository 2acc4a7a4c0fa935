import IncomeTax.Json.Amount
import IncomeTax.RateTable.Basic

/-!
# Rate tables in documents

A definition is a record, with its thresholds, credits and deductions as objects. A missing
threshold, credit or deduction object stands for an empty one, and a rule may leave out everything
but a credit's maximum.
-/

namespace IncomeTax

namespace TaxYear

/-- The tax year as a number. -/
def toJson (y : TaxYear) : Json := Json.ofInt y.val

/-- The tax year of a number. -/
def ofJson? (j : Json) : Option TaxYear := j.whole?.bind ofInt?

end TaxYear

/-- The category as its name. -/
def DeclarationCategory.toJson (c : DeclarationCategory) : Json := .string c.name

/-- The category of a name. -/
def DeclarationCategory.ofJson? (j : Json) : Option DeclarationCategory := j.name?.bind ofName?

/-- The key as a record. -/
def RateTableKey.toJson (k : RateTableKey) : Json :=
  .object [("tax_year", k.taxYear.toJson), ("category", k.category.toJson)]

namespace BracketDefinition

/-- The bracket as a record. -/
def toJson (b : BracketDefinition) : Json :=
  .object [("lower_bound", b.lowerBound.toJson),
    ("upper_bound", Json.ofOption Decimal.toJson b.upperBound), ("rate", b.rate.toJson)]

/-- The bracket of a record. -/
def ofJson? (j : Json) : Option BracketDefinition := do
  let r ← j.record? ["lower_bound", "upper_bound", "rate"]
  let lowerBound ← r.required "lower_bound" Decimal.ofJson?
  let upperBound ← r.nullable "upper_bound" Decimal.ofJson?
  let rate ← r.required "rate" Decimal.ofJson?
  return ⟨lowerBound, upperBound, rate⟩

end BracketDefinition

/-- The bracket as a record. -/
def TaxBracket.toJson (b : TaxBracket) : Json :=
  .object [("lower_bound", b.lowerBound.toJson),
    ("upper_bound", Json.ofOption Decimal.toJson b.upperBound), ("rate", b.rate.toJson),
    ("base_tax", b.baseTax.toJson)]

namespace PhaseOut

/-- The phase-out as a record. -/
def toJson (p : PhaseOut) : Json :=
  .object [("threshold", p.threshold.toJson), ("rate", p.rate.toJson)]

/-- The phase-out of a record. -/
def ofJson? (j : Json) : Option PhaseOut := do
  let r ← j.record? ["threshold", "rate"]
  let threshold ← r.required "threshold" Decimal.ofJson?
  let rate ← r.required "rate" Decimal.ofJson?
  return ⟨threshold, rate⟩

end PhaseOut

/-- The requirement of a name. -/
def PartnerRequirement.ofJson? (j : Json) : Option PartnerRequirement := j.name?.bind ofName?

namespace CreditRule

/-- The rule as a record. -/
def toJson (c : CreditRule) : Json :=
  .object [("maximum", c.maximum.toJson), ("phase_out", Json.ofOption PhaseOut.toJson c.phaseOut),
    ("automatic", .bool c.automatic),
    ("minimum_age", Json.ofOption (fun age => Json.ofNat age.toNat) c.minimumAge),
    ("dependent_under_age", Json.ofOption (fun age => Json.ofNat age.toNat) c.dependentUnderAge),
    ("partner", .string c.partner.name)]

/-- The rule of a record. -/
def ofJson? (j : Json) : Option CreditRule := do
  let r ← j.record?
    ["maximum", "phase_out", "automatic", "minimum_age", "dependent_under_age", "partner"]
  let maximum ← r.required "maximum" Decimal.ofJson?
  let phaseOut ← r.optional "phase_out" PhaseOut.ofJson?
  let automatic ← r.defaulted "automatic" false Json.flag?
  let minimumAge ← r.optional "minimum_age" Json.word32?
  let dependentUnderAge ← r.optional "dependent_under_age" Json.word32?
  let partner ← r.defaulted "partner" .any PartnerRequirement.ofJson?
  return ⟨maximum, phaseOut, automatic, minimumAge, dependentUnderAge, partner⟩

end CreditRule

namespace DeductionRule

/-- The rule as a record. -/
def toJson (d : DeductionRule) : Json :=
  .object [("ceiling", Json.ofOption Decimal.toJson d.ceiling), ("shareable", .bool d.shareable)]

/-- The rule of a record. -/
def ofJson? (j : Json) : Option DeductionRule := do
  let r ← j.record? ["ceiling", "shareable"]
  let ceiling ← r.optional "ceiling" Decimal.ofJson?
  let shareable ← r.defaulted "shareable" false Json.flag?
  return ⟨ceiling, shareable⟩

end DeductionRule

/-- Named thresholds as an object. -/
def thresholdsToJson (thresholds : OrderedMap String Decimal) : Json :=
  thresholds.toJson id Decimal.toJson

/-- Credit rules as an object. -/
def creditsToJson (credits : OrderedMap CreditType CreditRule) : Json :=
  credits.toJson CreditType.name CreditRule.toJson

/-- Deduction rules as an object. -/
def deductionsToJson (deductions : OrderedMap DeductionType DeductionRule) : Json :=
  deductions.toJson DeductionType.name DeductionRule.toJson

namespace RateTableDefinition

/-- The definition as a record. -/
def toJson (d : RateTableDefinition) : Json :=
  .object [("tax_year", d.taxYear.toJson), ("category", d.category.toJson),
    ("version", .string d.version), ("brackets", Json.ofList BracketDefinition.toJson d.brackets),
    ("thresholds", thresholdsToJson d.thresholds), ("credits", creditsToJson d.credits),
    ("deductions", deductionsToJson d.deductions)]

/-- The definition of a record. -/
def ofJson? (j : Json) : Option RateTableDefinition := do
  let r ← j.record?
    ["tax_year", "category", "version", "brackets", "thresholds", "credits", "deductions"]
  let taxYear ← r.required "tax_year" TaxYear.ofJson?
  let category ← r.required "category" DeclarationCategory.ofJson?
  let version ← r.required "version" Json.text?
  let brackets ← r.required "brackets" (Json.items? BracketDefinition.ofJson?)
  let thresholds ← r.defaulted "thresholds" .empty (OrderedMap.ofJson? some Decimal.ofJson?)
  let credits ← r.defaulted "credits" .empty
    (OrderedMap.ofJson? CreditType.ofName? CreditRule.ofJson?)
  let deductions ← r.defaulted "deductions" .empty
    (OrderedMap.ofJson? DeductionType.ofName? DeductionRule.ofJson?)
  return ⟨taxYear, category, version, brackets, thresholds, credits, deductions⟩

end RateTableDefinition

/-- The table as a record. -/
def RateTable.toJson (t : RateTable) : Json :=
  .object [("key", t.key.toJson), ("version", .string t.version),
    ("brackets", Json.ofList TaxBracket.toJson t.brackets),
    ("thresholds", thresholdsToJson t.thresholds), ("credits", creditsToJson t.credits),
    ("deductions", deductionsToJson t.deductions)]

end IncomeTax

import IncomeTax.Declaration.Validation
import IncomeTax.RateTable.Basic

/-!
# Resolution of claims

The claims of a declaration are resolved against the rate table of its year and category. A claim
whose kind the table does not list, that is shared against the rule or for which the taxpayer is not
eligible is rejected. A deduction is capped at what is left of the ceiling of its kind, which all
claims of the kind share. A credit is capped at the maximum of its kind and then phased out with
income. Automatic credits that are not claimed are granted as well.

A claim shared with someone who is not part of the filing fails the resolution as a whole.

## Main definitions

* `creditAfterPhaseOut` — a credit reduced by income
* `Eligibility` — what credit rules ask about the taxpayer
* `Resolution`, `Declaration.resolve` — granted and rejected claims
-/

namespace IncomeTax

/-- A granted deduction, with the amount allowed of what was claimed. -/
structure ResolvedDeduction where
  deductionType : DeductionType
  claimed : Decimal
  allowed : Decimal
  capped : Bool
  deriving DecidableEq

/-- A granted credit, with its amount before and after phase-out. -/
structure ResolvedCredit where
  creditType : CreditType
  base : Decimal
  amount : Decimal
  automatic : Bool
  deriving DecidableEq

/-- The granted claims, and the errors of those that were rejected. -/
structure Resolution where
  deductions : List ResolvedDeduction
  credits : List ResolvedCredit
  errors : List ValidationError
  deriving DecidableEq

namespace Resolution

/-- The sum of the allowed deductions, none on overflow. -/
def totalDeductions? (r : Resolution) : Option Decimal :=
  Decimal.sum? (r.deductions.map (·.allowed))

/-- The sum of the credits, none on overflow. -/
def totalCredits? (r : Resolution) : Option Decimal := Decimal.sum? (r.credits.map (·.amount))

/-- Whether no claim was rejected. -/
def isClean (r : Resolution) : Bool := r.errors.isEmpty

end Resolution

/-- A credit less the phase-out rate times the income above the threshold, floored at zero.
Differences and products are held inside the range of amounts. -/
def creditAfterPhaseOut (base : Decimal) (phaseOut : Option PhaseOut) (totalIncome : Decimal) :
    Decimal :=
  match phaseOut with
  | none => base
  | some phaseOut =>
    let excess := (totalIncome.saturatingSub phaseOut.threshold).nonNegative
    (base.saturatingSub (phaseOut.rate.saturatingMul excess)).nonNegative

/-- What credit rules ask about the taxpayer, at the end of the tax year. -/
structure Eligibility where
  age : Option Nat
  youngestDependent : Option Nat
  hasPartner : Bool

/-- The taxpayer of a declaration at the end of its tax year. There are no ages when the year is not
on the calendar. -/
def Declaration.eligibility (d : Declaration) : Eligibility :=
  let yearEnd := (Period.calendarYear? d.taxYear.val).map (·.finish)
  { age := yearEnd.map d.content.taxpayer.dateOfBirth.wholeYearsUntil
    youngestDependent := yearEnd.bind fun day =>
      (d.content.dependents.map (·.dateOfBirth.wholeYearsUntil day)).min?
    hasPartner := d.content.taxpayer.partner.isSome }

/-- Whether the taxpayer meets the conditions of a credit rule. -/
def Eligibility.meets (e : Eligibility) (rule : CreditRule) : Bool :=
  let oldEnough := rule.minimumAge.all fun least => e.age.any fun age => least.toNat ≤ age
  let hasDependent := rule.dependentUnderAge.all fun limit =>
    e.youngestDependent.any fun age => age < limit.toNat
  let partner := match rule.partner with
    | .any => true
    | .withPartner => e.hasPartner
    | .withoutPartner => !e.hasPartner
  oldEnough && hasDependent && partner

namespace Resolution

open Validation (itemPath)

/-- The first deduction claim shared with someone other than the fiscal partner of the filing. -/
def crossReference? (content : DeclarationContent) : Option StateError :=
  content.deductions.zipIdx.findSome? fun (claim, index) =>
    claim.sharedWith.bind fun reference =>
      if content.fiscalPartner.any (reference.identifies ·) then none
      else
        some (.partnerCrossReference (itemPath "deductions" index ++ ".shared_with")
          reference.toText)

/-- The amount allowed of a deduction claim, given what earlier claims used of the ceiling. -/
def allowed (rule : DeductionRule) (used amount : Decimal) : Decimal :=
  match rule.ceiling with
  | some ceiling => amount.min (ceiling.saturatingSub used).nonNegative
  | none => amount

/-- Each deduction claim granted or rejected, in order; `used` says what earlier claims of each kind
were allowed. -/
def resolveDeductions (rule? : DeductionType → Option DeductionRule)
    (used : DeductionType → Decimal) (index : Nat) :
    List DeductionClaim → List (Except ValidationError ResolvedDeduction)
  | [] => []
  | claim :: rest =>
    let path := itemPath "deductions" index
    match rule? claim.deductionType with
    | none =>
      .error ⟨path ++ ".deduction_type", .claimTypeNotPermitted⟩ ::
        resolveDeductions rule? used (index + 1) rest
    | some rule =>
      if claim.sharedWith.isSome && !rule.shareable then
        .error ⟨path ++ ".shared_with", .sharingNotPermitted⟩ ::
          resolveDeductions rule? used (index + 1) rest
      else
        -- What is granted counts against the ceiling of later claims of the same kind.
        let granted := allowed rule (used claim.deductionType) claim.amount
        let total := (used claim.deductionType).saturatingAdd granted
        .ok ⟨claim.deductionType, claim.amount, granted, granted < claim.amount⟩ ::
          resolveDeductions rule?
            (fun type => if type = claim.deductionType then total else used type) (index + 1) rest

/-- One credit claim, granted or rejected. -/
def resolveCredit (rule? : CreditType → Option CreditRule) (eligibility : Eligibility)
    (totalIncome : Decimal) (index : Nat) (claim : CreditClaim) :
    Except ValidationError ResolvedCredit :=
  let path := itemPath "credits" index ++ ".credit_type"
  match rule? claim.creditType with
  | none => .error ⟨path, .claimTypeNotPermitted⟩
  | some rule =>
    if !eligibility.meets rule then .error ⟨path, .creditNotEligible⟩
    else
      let base := claim.amount.min rule.maximum
      .ok ⟨claim.creditType, base, creditAfterPhaseOut base rule.phaseOut totalIncome, false⟩

/-- The automatic credits the taxpayer is eligible for and does not claim, in the order of kinds. -/
def automaticCredits (rules : OrderedMap CreditType CreditRule) (eligibility : Eligibility)
    (totalIncome : Decimal) (claims : List CreditClaim) : List ResolvedCredit :=
  rules.entries.filterMap fun (type, rule) =>
    if !rule.automatic || (claims.map (·.creditType)).contains type || !eligibility.meets rule then
      none
    else some ⟨type, rule.maximum, creditAfterPhaseOut rule.maximum rule.phaseOut totalIncome, true⟩

/-- The granted ones among resolved claims. -/
def granted {α : Type} (outcomes : List (Except ValidationError α)) : List α :=
  outcomes.filterMap (·.toOption)

/-- The error of a rejected claim. -/
def error? {α : Type} : Except ValidationError α → Option ValidationError
  | .error e => some e
  | .ok _ => none

/-- The errors of the rejected ones among resolved claims. -/
def rejected {α : Type} (outcomes : List (Except ValidationError α)) : List ValidationError :=
  outcomes.filterMap error?

end Resolution

open Resolution

/-- The sum of all gross amounts, none on overflow. -/
def DeclarationContent.grossIncome? (content : DeclarationContent) : Option Decimal :=
  Decimal.sum? (content.income.map (·.grossAmount))

/-- Resolves all claims of a declaration against a table. When the gross amounts cannot be added up
no credit is resolved, and the income is reported as out of range. -/
def Declaration.resolve (d : Declaration) (table : RateTable) : Except StateError Resolution :=
  if d.rateTableKey ≠ table.key then .error (.tableMismatch d.rateTableKey table.key)
  else
    match crossReference? d.content with
    | some e => .error e
    | none =>
      let deductions := resolveDeductions table.deductionRule? (fun _ => .zero) 0
        d.content.deductions
      match d.content.grossIncome? with
      -- Credits phase out with the total income, so none is granted without it.
      | none =>
        .ok ⟨granted deductions, [], rejected deductions ++ [⟨"income", .amountOutOfRange⟩]⟩
      | some totalIncome =>
        let eligibility := d.eligibility
        let credits := d.content.credits.zipIdx.map fun (claim, index) =>
          resolveCredit table.creditRule? eligibility totalIncome index claim
        .ok ⟨granted deductions,
          granted credits ++
            automaticCredits table.credits eligibility totalIncome d.content.credits,
          rejected deductions ++ rejected credits⟩

end IncomeTax

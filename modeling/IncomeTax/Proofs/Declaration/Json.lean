import IncomeTax.Declaration.Json
import IncomeTax.Proofs.Assessment.Json
import IncomeTax.Proofs.Declaration.Validity

/-!
# Declarations read back

Declarations, new declarations and resolutions are read back with all they hold, whichever fields
have a value and however long their lists are. Together with rate table definitions and results they
are all that is kept or handed over as a document.

Every amount keeps its scale. A zero that carries a sign comes back without it, which makes it no
other number.

## Main definitions

* `Declaration.mapAmounts`, and for each part of a declaration — every amount changed
* `Declaration.Numbered` — the numbers of a declaration fit in 64 bits

## Main results

* `Declaration.readsBack`, `Resolution.readsBack` — what is read of the written documents
* `Json.documents_roundTrip` — all of them, as documents and as texts
-/

namespace IncomeTax

open Json (ReadsBack RoundTrips names_optionalMember)

/-! ### Names -/

theorem Residency.ofName?_name (r : Residency) : ofName? r.name = some r := by
  cases r <;> rfl

theorem DeclarationStatus.ofName?_name (s : DeclarationStatus) : ofName? s.name = some s := by
  cases s <;> rfl

theorem Rule.ofCode?_code (rule : Rule) : ofCode? rule.code = some rule := by
  cases rule <;> rfl

theorem DeclarationStatus.readsBack : ReadsBack toJson ofJson? id := .ofName ofName?_name

theorem Rule.readsBack : ReadsBack toJson ofJson? id := .ofName ofCode?_code

/-! ### People -/

namespace PartnerReference

@[simp] theorem plain_toJson (p : PartnerReference) : p.toJson.Plain := by
  cases p <;> simp [toJson]

theorem readsBack : ReadsBack toJson ofJson? id where
  present p := by cases p <;> nofun
  read_write p := by cases p <;> rfl

end PartnerReference

namespace TaxpayerProfile

@[simp] theorem plain_toJson (p : TaxpayerProfile) : p.toJson.Plain := by
  simp [toJson, or_imp, forall_and]

theorem readsBack : ReadsBack toJson ofJson? id where
  present _ := nofun
  read_write p := by
    rw [ofJson?, toJson, Json.bind_record?_object (by decide)]
    · simp [List.lookup_append, Json.text?, Json.name?, Residency.ofName?_name,
        Date.readsBack.read_write, PartnerReference.readsBack.optional, ReadsBack.text.optional]
    · simp only [List.map_append]
      exact .append (.append (.append (.refl _) (names_optionalMember ..))
        (names_optionalMember ..)) (names_optionalMember ..)

end TaxpayerProfile

namespace Dependent

@[simp] theorem plain_toJson (d : Dependent) : d.toJson.Plain := by simp [toJson]

theorem readsBack : ReadsBack toJson ofJson? id where
  present _ := nofun
  read_write d := by
    rw [ofJson?, toJson, Json.bind_record?_object (by decide)]
    · simp [Date.readsBack.read_write]
    · exact .refl _

end Dependent

/-! ### Income and claims -/

namespace IncomeRecord

/-- The income with its amounts changed. -/
def mapAmounts (f : Decimal → Decimal) (i : IncomeRecord) : IncomeRecord :=
  { i with grossAmount := f i.grossAmount, withholding := f i.withholding }

@[simp] theorem plain_toJson (i : IncomeRecord) : i.toJson.Plain := by simp [toJson]

theorem readsBack : ReadsBack toJson ofJson? (mapAmounts Decimal.unsignedZero) where
  present _ := nofun
  read_write i := by
    rw [ofJson?, toJson, Json.bind_record?_object (by decide)]
    · simp [Json.name?, IncomeCategory.ofName?_name, Decimal.readsBack.read_write,
        Period.readsBack.read_write, mapAmounts]
    · exact .refl _

end IncomeRecord

namespace DeductionClaim

/-- The claim with its amount changed. -/
def mapAmounts (f : Decimal → Decimal) (c : DeductionClaim) : DeductionClaim :=
  { c with amount := f c.amount }

@[simp] theorem plain_toJson (c : DeductionClaim) : c.toJson.Plain := by
  simp [toJson, or_imp, forall_and]

theorem readsBack : ReadsBack toJson ofJson? (mapAmounts Decimal.unsignedZero) where
  present _ := nofun
  read_write c := by
    rw [ofJson?, toJson, Json.bind_record?_object (by decide)]
    · simp [Json.name?, DeductionType.ofName?_name, Decimal.readsBack.read_write,
        Period.readsBack.read_write, PartnerReference.readsBack.optional, mapAmounts]
    · simp only [List.map_append]
      exact .append (.refl _) (names_optionalMember ..)

end DeductionClaim

namespace CreditClaim

/-- The claim with its amount changed. -/
def mapAmounts (f : Decimal → Decimal) (c : CreditClaim) : CreditClaim :=
  { c with amount := f c.amount }

@[simp] theorem plain_toJson (c : CreditClaim) : c.toJson.Plain := by simp [toJson]

theorem readsBack : ReadsBack toJson ofJson? (mapAmounts Decimal.unsignedZero) where
  present _ := nofun
  read_write c := by
    rw [ofJson?, toJson, Json.bind_record?_object (by decide)]
    · simp [Json.name?, CreditType.ofName?_name, Decimal.readsBack.read_write,
        Period.readsBack.read_write, mapAmounts]
    · exact .refl _

end CreditClaim

/-! ### Declarations -/

namespace DeclarationContent

/-- The contents with every amount changed. -/
def mapAmounts (f : Decimal → Decimal) (c : DeclarationContent) : DeclarationContent :=
  { c with
    income := c.income.map (·.mapAmounts f)
    deductions := c.deductions.map (·.mapAmounts f)
    credits := c.credits.map (·.mapAmounts f) }

@[simp] theorem plain_toJson (c : DeclarationContent) : c.toJson.Plain := by
  simp [toJson, or_imp, forall_and]

theorem readsBack : ReadsBack toJson ofJson? (mapAmounts Decimal.unsignedZero) where
  present _ := nofun
  read_write c := by
    rw [ofJson?, toJson, Json.bind_record?_object (by decide)]
    · simp [List.lookup_append, TaxpayerProfile.readsBack.read_write,
        TaxpayerProfile.readsBack.optional, Dependent.readsBack.list.read_write,
        IncomeRecord.readsBack.list.read_write, DeductionClaim.readsBack.list.read_write,
        CreditClaim.readsBack.list.read_write, ReadsBack.text.optional, mapAmounts]
    · simp only [List.map_append]
      exact .append (.append (.append (.refl _) (names_optionalMember ..)) (.refl _))
        (names_optionalMember ..)

end DeclarationContent

namespace IdentityAssertion

@[simp] theorem plain_toJson (a : IdentityAssertion) : a.toJson.Plain := Json.plain_string _

theorem readsBack : ReadsBack toJson ofJson? id where
  present _ := nofun
  read_write _ := rfl

end IdentityAssertion

theorem DeclarationId.readsBack : ReadsBack toJson ofJson? id where
  present _ := nofun
  read_write _ := rfl

namespace NewDeclaration

/-- The new declaration with every amount changed. -/
def mapAmounts (f : Decimal → Decimal) (d : NewDeclaration) : NewDeclaration :=
  { d with content := d.content.mapAmounts f }

theorem plain_toJson (d : NewDeclaration) : d.toJson.Plain := by
  simp [toJson, or_imp, forall_and]

/-- A new declaration is read back. -/
theorem readsBack : ReadsBack toJson ofJson? (mapAmounts Decimal.unsignedZero) where
  present _ := nofun
  read_write d := by
    rw [ofJson?, toJson, Json.bind_record?_object (by decide)]
    · simp [List.lookup_append, TaxYear.readsBack.read_write,
        DeclarationCategory.readsBack.read_write, IdentityAssertion.readsBack.optional,
        DeclarationContent.readsBack.read_write, mapAmounts]
    · simp only [List.map_append]
      exact .append (.append (.refl _) (names_optionalMember ..)) (.refl _)

end NewDeclaration

namespace Declaration

/-- The declaration with every amount changed. -/
def mapAmounts (f : Decimal → Decimal) (d : Declaration) : Declaration :=
  { d with
    content := d.content.mapAmounts f
    calculation := d.calculation.map (·.mapAmounts f) }

/-- The number of the declaration, and that of the one it amends, have at most 64 bits. -/
structure Numbered (d : Declaration) : Prop where
  id_lt : d.id.val < 2 ^ 64
  amends_lt : ∀ id ∈ d.amends, id.val < 2 ^ 64

theorem Numbered.plain_toJson {d : Declaration} (numbered : d.Numbered) : d.toJson.Plain := by
  have own : d.id.toJson.Plain := Json.plain_ofNat numbered.id_lt
  have amended : ∀ id, d.amends = some id → id.toJson.Plain := fun id known =>
    Json.plain_ofNat (numbered.amends_lt id known)
  have status : d.status.toJson.Plain := Json.plain_string _
  simpa [toJson, or_imp, forall_and, own, status] using amended

/-- A declaration is read back. -/
theorem readsBack : ReadsBack toJson ofJson? (mapAmounts Decimal.unsignedZero) where
  present _ := nofun
  read_write d := by
    rw [ofJson?, toJson, Json.bind_record?_object (by decide)]
    · simp [List.lookup_append, DeclarationId.readsBack.read_write, TaxYear.readsBack.read_write,
        DeclarationCategory.readsBack.read_write, IdentityAssertion.readsBack.optional,
        DeclarationContent.readsBack.read_write, DeclarationStatus.readsBack.read_write,
        CalculationResult.readsBack.optional, DeclarationId.readsBack.optional, mapAmounts]
    · simp only [List.map_append]
      exact .append (.append (.append (.append (.refl _) (names_optionalMember ..)) (.refl _))
        (names_optionalMember ..)) (names_optionalMember ..)

end Declaration

/-! ### Resolutions -/

namespace ValidationError

@[simp] theorem plain_toJson (e : ValidationError) : e.toJson.Plain := by
  simp [toJson, Rule.toJson]

theorem readsBack : ReadsBack toJson ofJson? id where
  present _ := nofun
  read_write e := by
    rw [ofJson?, toJson, Json.bind_record?_object (by decide)]
    · simp [Json.text?, Rule.readsBack.read_write]
    · exact .refl _

end ValidationError

namespace ResolvedDeduction

/-- The granted deduction with its amounts changed. -/
def mapAmounts (f : Decimal → Decimal) (d : ResolvedDeduction) : ResolvedDeduction :=
  { d with claimed := f d.claimed, allowed := f d.allowed }

@[simp] theorem plain_toJson (d : ResolvedDeduction) : d.toJson.Plain := by simp [toJson]

theorem readsBack : ReadsBack toJson ofJson? (mapAmounts Decimal.unsignedZero) where
  present _ := nofun
  read_write d := by
    rw [ofJson?, toJson, Json.bind_record?_object (by decide)]
    · simp [Json.name?, DeductionType.ofName?_name, Decimal.readsBack.read_write, Json.flag?,
        mapAmounts]
    · exact .refl _

end ResolvedDeduction

namespace ResolvedCredit

/-- The granted credit with its amounts changed. -/
def mapAmounts (f : Decimal → Decimal) (c : ResolvedCredit) : ResolvedCredit :=
  { c with base := f c.base, amount := f c.amount }

@[simp] theorem plain_toJson (c : ResolvedCredit) : c.toJson.Plain := by simp [toJson]

theorem readsBack : ReadsBack toJson ofJson? (mapAmounts Decimal.unsignedZero) where
  present _ := nofun
  read_write c := by
    rw [ofJson?, toJson, Json.bind_record?_object (by decide)]
    · simp [Json.name?, CreditType.ofName?_name, Decimal.readsBack.read_write, Json.flag?,
        mapAmounts]
    · exact .refl _

end ResolvedCredit

namespace Resolution

/-- The resolution with every amount changed. -/
def mapAmounts (f : Decimal → Decimal) (r : Resolution) : Resolution :=
  { r with
    deductions := r.deductions.map (·.mapAmounts f)
    credits := r.credits.map (·.mapAmounts f) }

theorem plain_toJson (r : Resolution) : r.toJson.Plain := by simp [toJson]

/-- A resolution is read back. -/
theorem readsBack : ReadsBack toJson ofJson? (mapAmounts Decimal.unsignedZero) where
  present _ := nofun
  read_write r := by
    rw [ofJson?, toJson, Json.bind_record?_object (by decide)]
    · simp [ResolvedDeduction.readsBack.list.read_write, ResolvedCredit.readsBack.list.read_write,
        ValidationError.readsBack.list.read_write, mapAmounts]
    · exact .refl _

end Resolution

/-! ### All documents -/

/-- Declarations, new declarations, rate table definitions, resolutions and results are read back
from their documents and from both texts of these. Every amount comes back as the same number at the
same scale, and as the very same amount unless it is a zero with a sign. -/
theorem Json.documents_roundTrip :
    (∀ a : Decimal, a.unsignedZero.units = a.units ∧ a.unsignedZero.scale = a.scale ∧
      ((a.negative = true → a.coefficient ≠ 0) → a.unsignedZero = a)) ∧
    (∀ d : Declaration, d.Numbered →
      RoundTrips Declaration.toJson Declaration.ofJson? d (d.mapAmounts Decimal.unsignedZero)) ∧
    (∀ d : NewDeclaration, RoundTrips NewDeclaration.toJson NewDeclaration.ofJson? d
      (d.mapAmounts Decimal.unsignedZero)) ∧
    (∀ d : RateTableDefinition, RoundTrips RateTableDefinition.toJson RateTableDefinition.ofJson? d
      (d.mapAmounts Decimal.unsignedZero)) ∧
    (∀ r : Resolution, RoundTrips Resolution.toJson Resolution.ofJson? r
      (r.mapAmounts Decimal.unsignedZero)) ∧
    (∀ c : CalculationResult, RoundTrips CalculationResult.toJson CalculationResult.ofJson? c
      (c.mapAmounts Decimal.unsignedZero)) := by
  refine ⟨fun a => ?_, fun d numbered => ?_, fun d => ?_, fun d => ?_, fun r => ?_, fun c => ?_⟩
  · exact ⟨a.units_unsignedZero, rfl, Decimal.unsignedZero_eq_self⟩
  · exact .of_plain numbered.plain_toJson (Declaration.readsBack.read_write d)
  · exact .of_plain d.plain_toJson (NewDeclaration.readsBack.read_write d)
  · exact .of_plain d.plain_toJson (RateTableDefinition.readsBack.read_write d)
  · exact .of_plain r.plain_toJson (Resolution.readsBack.read_write r)
  · exact .of_plain c.plain_toJson (CalculationResult.readsBack.read_write c)

/-- An amendment without signed zeros is read back as it is. -/
theorem Json.documents_roundTrip_of_sample2024 :
    let d : Declaration := { Declaration.draft ⟨2⟩ .sample2024 with amends := some ⟨1⟩ }
    d.Numbered ∧ RoundTrips Declaration.toJson Declaration.ofJson? d d := by
  intro d
  have numbered : d.Numbered := ⟨by decide, by decide⟩
  have same : d.mapAmounts Decimal.unsignedZero = d := by decide +kernel
  have read := Json.documents_roundTrip.2.1 d numbered
  rw [same] at read
  exact ⟨numbered, read⟩

end IncomeTax

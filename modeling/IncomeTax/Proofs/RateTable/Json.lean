import IncomeTax.Proofs.Json.Amount
import IncomeTax.RateTable.Json

/-!
# Rate tables read back

A definition is read back with all its rules and thresholds, each amount with its scale.

## Main definitions

* `RateTableDefinition.mapAmounts`, and for each part of a definition — every amount changed

## Main results

* `RateTableDefinition.readsBack` — what is read of a written definition
-/

namespace IncomeTax

open Json (ReadsBack)

/-! ### Keys and names -/

theorem DeclarationCategory.ofName?_name (c : DeclarationCategory) : ofName? c.name = some c := by
  cases c <;> rfl

theorem CreditType.ofName?_name (c : CreditType) : ofName? c.name = some c := by
  cases c <;> rfl

theorem DeductionType.ofName?_name (d : DeductionType) : ofName? d.name = some d := by
  cases d <;> rfl

theorem PartnerRequirement.ofName?_name (p : PartnerRequirement) : ofName? p.name = some p := by
  cases p <;> rfl

@[simp] theorem DeclarationCategory.plain_toJson (c : DeclarationCategory) : c.toJson.Plain :=
  Json.plain_string _

theorem DeclarationCategory.readsBack : ReadsBack toJson ofJson? id := .ofName ofName?_name

theorem PartnerRequirement.readsBack : ReadsBack (fun p => .string p.name) ofJson? id :=
  .ofName ofName?_name

@[simp] theorem TaxYear.plain_toJson (y : TaxYear) : y.toJson.Plain := by
  obtain ⟨low, high⟩ := y.val_mem
  simp only [Nat.pow_eq, Nat.cast_pow, Nat.cast_ofNat] at low high
  apply Json.Plain.whole <;> omega

theorem TaxYear.readsBack : ReadsBack toJson ofJson? id where
  present _ := nofun
  read_write y := dif_pos y.val_mem

/-! ### Rules and brackets -/

namespace BracketDefinition

/-- The bracket with its bounds and its rate changed. -/
def mapAmounts (f : Decimal → Decimal) (b : BracketDefinition) : BracketDefinition where
  lowerBound := f b.lowerBound
  upperBound := b.upperBound.map f
  rate := f b.rate

@[simp] theorem plain_toJson (b : BracketDefinition) : b.toJson.Plain := by simp [toJson]

theorem readsBack : ReadsBack toJson ofJson? (mapAmounts Decimal.unsignedZero) where
  present _ := nofun
  read_write b := by
    rw [ofJson?, toJson, Json.bind_record?_object (by decide)]
    · simp [Decimal.readsBack.read_write, Decimal.readsBack.orNull?_ofOption, mapAmounts]
    · exact .refl _

end BracketDefinition

namespace PhaseOut

/-- The phase-out with its threshold and its rate changed. -/
def mapAmounts (f : Decimal → Decimal) (p : PhaseOut) : PhaseOut where
  threshold := f p.threshold
  rate := f p.rate

@[simp] theorem plain_toJson (p : PhaseOut) : p.toJson.Plain := by simp [toJson]

theorem readsBack : ReadsBack toJson ofJson? (mapAmounts Decimal.unsignedZero) where
  present _ := nofun
  read_write p := by
    rw [ofJson?, toJson, Json.bind_record?_object (by decide)]
    · simp [Decimal.readsBack.read_write, mapAmounts]
    · exact .refl _

end PhaseOut

namespace CreditRule

/-- The rule with its maximum and its phase-out changed. -/
def mapAmounts (f : Decimal → Decimal) (c : CreditRule) : CreditRule where
  maximum := f c.maximum
  phaseOut := c.phaseOut.map (·.mapAmounts f)
  automatic := c.automatic
  minimumAge := c.minimumAge
  dependentUnderAge := c.dependentUnderAge
  partner := c.partner

@[simp] theorem plain_toJson (c : CreditRule) : c.toJson.Plain := by simp [toJson]

theorem readsBack : ReadsBack toJson ofJson? (mapAmounts Decimal.unsignedZero) where
  present _ := nofun
  read_write c := by
    have partner := PartnerRequirement.readsBack.read_write c.partner
    rw [ofJson?, toJson, Json.bind_record?_object (by decide)]
    · simp [Decimal.readsBack.read_write, PhaseOut.readsBack.orNull?_ofOption,
        Json.readsBack_word32.orNull?_ofOption, partner, Json.flag?, mapAmounts]
    · exact .refl _

end CreditRule

namespace DeductionRule

/-- The rule with its ceiling changed. -/
def mapAmounts (f : Decimal → Decimal) (d : DeductionRule) : DeductionRule :=
  { d with ceiling := d.ceiling.map f }

@[simp] theorem plain_toJson (d : DeductionRule) : d.toJson.Plain := by simp [toJson]

theorem readsBack : ReadsBack toJson ofJson? (mapAmounts Decimal.unsignedZero) where
  present _ := nofun
  read_write d := by
    rw [ofJson?, toJson, Json.bind_record?_object (by decide)]
    · simp [Decimal.readsBack.orNull?_ofOption, Json.flag?, mapAmounts]
    · exact .refl _

end DeductionRule

/-! ### Definitions -/

namespace RateTableDefinition

/-- The definition with every amount changed. -/
def mapAmounts (f : Decimal → Decimal) (d : RateTableDefinition) : RateTableDefinition :=
  { d with
    brackets := d.brackets.map (·.mapAmounts f)
    thresholds := d.thresholds.mapValues f
    credits := d.credits.mapValues (·.mapAmounts f)
    deductions := d.deductions.mapValues (·.mapAmounts f) }

@[simp] theorem plain_toJson (d : RateTableDefinition) : d.toJson.Plain := by
  simp [toJson, thresholdsToJson, creditsToJson, deductionsToJson]

/-- A definition is read back. -/
theorem readsBack : ReadsBack toJson ofJson? (mapAmounts Decimal.unsignedZero) where
  present _ := nofun
  read_write d := by
    have named : ∀ s : String, some (id s) = some s := fun _ => rfl
    have thresholds := (OrderedMap.readsBack named Decimal.readsBack).read_write d.thresholds
    have credits := (OrderedMap.readsBack CreditType.ofName?_name
      CreditRule.readsBack).read_write d.credits
    have deductions := (OrderedMap.readsBack DeductionType.ofName?_name
      DeductionRule.readsBack).read_write d.deductions
    rw [ofJson?, toJson, Json.bind_record?_object (by decide)]
    · simp [TaxYear.readsBack.read_write, DeclarationCategory.readsBack.read_write, Json.text?,
        BracketDefinition.readsBack.list.read_write, thresholdsToJson, creditsToJson,
        deductionsToJson, thresholds, credits, deductions, mapAmounts]
    · exact .refl _

end RateTableDefinition

end IncomeTax

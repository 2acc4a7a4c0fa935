import IncomeTax.Proofs.Declaration.Validity
import IncomeTax.Proofs.Identifier.Bsn

/-!
# The number of a taxpayer

The check of a profile lets the citizen-service number be missing when there is a foreign tax
identifier. A partner abroad may have no number, but the same check is made for the taxpayer. So the
taxpayer of a valid declaration has a citizen-service number exactly when the number is not left
blank, and a taxpayer with a foreign tax identifier may leave it blank. Their filing then has a key
with an empty number.

## Main results

* `TaxpayerProfile.Accepted.violation_eq_none_iff` — the number of a profile that passes its check
* `Declaration.taxpayer_number_of_validate` — the number of the taxpayer of a valid declaration
* `Declaration.taxpayer_without_number` — a valid declaration without one
-/

namespace IncomeTax

open Validation

namespace TaxpayerProfile.Accepted

variable {profile : TaxpayerProfile} {year : Period}

/-- A profile that passes its check has a citizen-service number unless it is blank. -/
theorem violation_eq_none_iff (accepted : profile.Accepted year) :
    Bsn.violation (Text.trim profile.bsn) = none ↔ Text.trim profile.bsn ≠ "" := by
  constructor
  · intro good empty
    -- The exemption and the check exclude each other, since no number is empty.
    have blank : Bsn.violation "" ≠ none := by decide
    rw [empty] at good
    exact blank good
  · intro filled
    exact accepted.number.resolve_left fun missing => filled missing.1

/-- A profile that passes its check without a number has a foreign tax identifier. -/
theorem exists_foreignTaxId (accepted : profile.Accepted year)
    (blank : Text.trim profile.bsn = "") :
    ∃ id, profile.foreignTaxId = some id ∧ isForeignId id = true := by
  rcases accepted.number with ⟨-, found⟩ | good
  · obtain ⟨id, found⟩ := Option.isSome_iff_exists.1 found
    exact ⟨id, found, accepted.foreign id found⟩
  · exact absurd blank (accepted.violation_eq_none_iff.1 good)

end TaxpayerProfile.Accepted

namespace Declaration

variable {d : Declaration}

/-- The taxpayer of a valid declaration has a citizen-service number, which the key of the filing then
names, exactly when the number is not left blank. When it is, there is a foreign tax identifier. -/
theorem taxpayer_number_of_validate (valid : d.validate = []) :
    (Bsn.violation (Text.trim d.content.taxpayer.bsn) = none ↔
      Text.trim d.content.taxpayer.bsn ≠ "") ∧
    (Bsn.IsNumber d.filingKey.bsn ↔ Text.trim d.content.taxpayer.bsn ≠ "") ∧
    (Text.trim d.content.taxpayer.bsn = "" →
      ∃ id, d.content.taxpayer.foreignTaxId = some id ∧ isForeignId id = true) := by
  obtain ⟨year, -, accepted⟩ := validate_eq_nil_iff.1 valid
  have number := accepted.taxpayer.violation_eq_none_iff
  refine ⟨number, ?_, accepted.taxpayer.exists_foreignTaxId⟩
  rw [← number, Bsn.violation_eq_none_iff]
  rfl

/-- The taxpayer of the sample declaration has a citizen-service number. -/
theorem taxpayer_number_of_sample2024 :
    (draft ⟨1⟩ .sample2024).validate = [] ∧
    Bsn.IsNumber (draft ⟨1⟩ .sample2024).filingKey.bsn := by
  have valid : (draft ⟨1⟩ .sample2024).validate = [] := by decide +kernel
  exact ⟨valid, (taxpayer_number_of_validate valid).2.1.2 (by decide +kernel)⟩

/-- The sample declaration of a taxpayer who has a foreign tax identifier and no citizen-service
number. -/
def foreignTaxpayer : Declaration :=
  let d := draft ⟨1⟩ .sample2024
  { d with
    content := { d.content with
      taxpayer := { d.content.taxpayer with bsn := "", foreignTaxId := some "DE12345" } } }

/-- A valid declaration need not have the number of its taxpayer. -/
theorem taxpayer_without_number :
    foreignTaxpayer.validate = [] ∧
    Bsn.violation (Text.trim foreignTaxpayer.content.taxpayer.bsn) = some .bsnFormat ∧
    foreignTaxpayer.filingKey.bsn = "" ∧ ¬ Bsn.IsNumber foreignTaxpayer.filingKey.bsn := by
  have missing : Bsn.violation foreignTaxpayer.filingKey.bsn = some .bsnFormat := by decide +kernel
  refine ⟨by decide +kernel, missing, by decide +kernel, fun number => ?_⟩
  rw [Bsn.violation_eq_none_iff.2 number] at missing
  cases missing

end Declaration

end IncomeTax

import IncomeTax.Proofs.Declaration.Profile

/-!
# The number of the fiscal partner

The profile of a fiscal partner must be that of the partner the taxpayer refers to. A reference by
citizen-service number is compared with the taxpayer's own number, so a partner who is referred to
by number is never the taxpayer. A partner who is referred to by a foreign tax identifier may have a
citizen-service number too. The check of the profile only looks at its form, and nothing compares it
with the number of the taxpayer. So it may be any number, the taxpayer's own among them.

## Main definitions

* `Declaration.withPartnerNumber` — the declaration with another number for the fiscal partner

## Main results

* `Declaration.partner_number_of_validate` — what validation says of the partner's number, by the
  kind of the reference
* `Declaration.partner_with_own_number` — a valid declaration whose fiscal partner has the number of
  the taxpayer
-/

namespace IncomeTax.Declaration

open Validation

variable {d : Declaration} {partner : TaxpayerProfile} {number id : String} {year : Period}

/-- The declaration with another citizen-service number on the profile of the fiscal partner. -/
def withPartnerNumber (d : Declaration) (number : String) : Declaration :=
  { d with
    content := { d.content with
      fiscalPartner := d.content.fiscalPartner.map fun partner => { partner with bsn := number } } }

theorem fiscalPartner_withPartnerNumber (along : d.content.fiscalPartner = some partner)
    (number : String) :
    (d.withPartnerNumber number).content.fiscalPartner = some { partner with bsn := number } := by
  rw [withPartnerNumber, along, Option.map_some]

/-- A reference of the taxpayer is to the fiscal partner. -/
theorem Accepted.identifies (accepted : d.Accepted year)
    (along : d.content.fiscalPartner = some partner) {reference : PartnerReference}
    (referred : d.content.taxpayer.partner = some reference) :
    reference.identifies partner = true := by
  obtain ⟨other, found, identified⟩ := accepted.matching partner along
  rwa [Option.some.inj (referred.symm.trans found)]

/-- A fiscal partner who is referred to by number has that number, which is not the taxpayer's. -/
theorem number_of_bsn_reference (valid : d.validate = [])
    (along : d.content.fiscalPartner = some partner)
    (referred : d.content.taxpayer.partner = some (.bsn number)) :
    Bsn.IsNumber (Text.trim partner.bsn) ∧
      Text.trim partner.bsn ≠ Text.trim d.content.taxpayer.bsn := by
  obtain ⟨year, -, accepted⟩ := validate_eq_nil_iff.1 valid
  obtain ⟨good, different⟩ := accepted.partner (.bsn number) referred
  -- The profile has the number of the reference, and that one was checked.
  have same : Text.trim partner.bsn = Text.trim number :=
    eq_of_beq (accepted.identifies along referred)
  rw [same]
  exact ⟨Bsn.violation_eq_none_iff.1 good, different⟩

/-- A fiscal partner who is referred to by a foreign tax identifier may have any number or none. -/
theorem validate_withPartnerNumber_iff (valid : d.validate = [])
    (along : d.content.fiscalPartner = some partner)
    (referred : d.content.taxpayer.partner = some (.foreignTaxId id)) (number : String) :
    (d.withPartnerNumber number).validate = [] ↔
      Text.trim number = "" ∨ Bsn.IsNumber (Text.trim number) := by
  obtain ⟨year, supported, accepted⟩ := validate_eq_nil_iff.1 valid
  have identified := accepted.identifies along referred
  have checked := accepted.fiscalPartner partner along
  have foreign : partner.foreignTaxId.isSome = true := by
    obtain ⟨own, given, -⟩ := (Option.any_eq_true _ _).1 identified
    exact Option.isSome_of_eq_some given
  have along' := fiscalPartner_withPartnerNumber along number
  rw [← Bsn.violation_eq_none_iff]
  constructor
  · intro valid'
    obtain ⟨year', -, accepted'⟩ := validate_eq_nil_iff.1 valid'
    exact (accepted'.fiscalPartner _ along').number.imp_left And.left
  · intro good
    have renumbered : ({ partner with bsn := number } : TaxpayerProfile).Accepted year :=
      { checked with number := good.imp_left fun blank => ⟨blank, foreign⟩ }
    refine validate_eq_nil_iff.2 ⟨year, supported,
      { accepted with fiscalPartner := ?_, matching := ?_ }⟩
    · intro profile present
      obtain rfl := Option.some.inj (along'.symm.trans present)
      exact renumbered
    · intro profile present
      obtain rfl := Option.some.inj (along'.symm.trans present)
      exact ⟨_, referred, identified⟩

/-- A fiscal partner who is referred to by number has a number that is not the taxpayer's. One who
is referred to by a foreign tax identifier may have any number or none. So the partner may have the
taxpayer's own number exactly when the reference is by a foreign tax identifier. -/
theorem partner_number_of_validate (valid : d.validate = [])
    (along : d.content.fiscalPartner = some partner) :
    (∀ number, d.content.taxpayer.partner = some (.bsn number) →
      Bsn.IsNumber (Text.trim partner.bsn) ∧
        Text.trim partner.bsn ≠ Text.trim d.content.taxpayer.bsn) ∧
    (∀ id, d.content.taxpayer.partner = some (.foreignTaxId id) →
      ∀ number, (d.withPartnerNumber number).validate = [] ↔
        Text.trim number = "" ∨ Bsn.IsNumber (Text.trim number)) ∧
    ((d.withPartnerNumber d.content.taxpayer.bsn).validate = [] ↔
      ∃ id, d.content.taxpayer.partner = some (.foreignTaxId id)) := by
  refine ⟨fun number => number_of_bsn_reference valid along,
    fun id => validate_withPartnerNumber_iff valid along, ?_⟩
  constructor
  · intro valid'
    obtain ⟨year, -, accepted⟩ := validate_eq_nil_iff.1 valid
    obtain ⟨reference, found, -⟩ := accepted.matching partner along
    cases reference with
    | bsn number =>
      have along' := fiscalPartner_withPartnerNumber along d.content.taxpayer.bsn
      exact absurd rfl (number_of_bsn_reference valid' along' found).2
    | foreignTaxId id => exact ⟨id, found⟩
  · rintro ⟨id, referred⟩
    obtain ⟨year, -, accepted⟩ := validate_eq_nil_iff.1 valid
    rw [validate_withPartnerNumber_iff valid along referred, ← Bsn.violation_eq_none_iff]
    exact accepted.taxpayer.number.imp_left And.left

/-- The profile of a partner from abroad who has a citizen-service number as well. -/
def partnerFromAbroad : TaxpayerProfile where
  bsn := "123456782"
  residency := .nonResident
  dateOfBirth := ⟨1979, 2, 3, by decide, by decide⟩
  partner := none
  postalCode := none
  foreignTaxId := some "DE12345"

/-- The sample declaration, filed along with a partner from abroad. -/
def filedAlong : Declaration :=
  let d := draft ⟨1⟩ .sample2024
  { d with
    content := { d.content with
      taxpayer := { d.content.taxpayer with partner := some (.foreignTaxId "DE12345") }
      fiscalPartner := some partnerFromAbroad } }

/-- The partner from abroad may have the number of the taxpayer. -/
theorem partner_number_of_filedAlong :
    filedAlong.validate = [] ∧ filedAlong.content.fiscalPartner = some partnerFromAbroad ∧
    (filedAlong.withPartnerNumber "111222333").validate = [] := by
  have valid : filedAlong.validate = [] := by decide +kernel
  refine ⟨valid, rfl, ?_⟩
  exact (partner_number_of_validate valid rfl).2.2.2 ⟨"DE12345", rfl⟩

/-- The fiscal partner of a valid declaration may have the number of its taxpayer. -/
theorem partner_with_own_number :
    (filedAlong.withPartnerNumber "111222333").validate = [] ∧
    ∃ partner, (filedAlong.withPartnerNumber "111222333").content.fiscalPartner = some partner ∧
      Text.trim partner.bsn =
        Text.trim (filedAlong.withPartnerNumber "111222333").content.taxpayer.bsn :=
  ⟨by decide +kernel, { partnerFromAbroad with bsn := "111222333" }, rfl, rfl⟩

end IncomeTax.Declaration

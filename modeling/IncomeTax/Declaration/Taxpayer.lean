import IncomeTax.Calendar.Period
import IncomeTax.Declaration.Category

/-!
# Taxpayers

A taxpayer is known by their citizen-service number. A fiscal partner is referred to either by that
number or, when they have none, by a foreign tax identifier. Identifiers compare without the blanks
around them.

## Main definitions

* `PartnerReference` — how a claim or a profile points at a partner
* `TaxpayerProfile`, `Dependent` — the people of a declaration
* `PartnerReference.identifies` — whether a reference points at a profile
-/

namespace IncomeTax

/-- A reference to a fiscal partner. -/
inductive PartnerReference where
  | bsn (number : String)
  | foreignTaxId (id : String)
  deriving DecidableEq

/-- What a declaration says about a taxpayer or their partner. The foreign identifier only serves to
identify a partner without a citizen-service number. -/
structure TaxpayerProfile where
  bsn : String
  residency : Residency
  dateOfBirth : Date
  partner : Option PartnerReference
  postalCode : Option String
  foreignTaxId : Option String
  deriving DecidableEq

/-- A dependent of the taxpayer. -/
structure Dependent where
  dateOfBirth : Date
  deriving DecidableEq

namespace PartnerReference

/-- Whether the profile is the person referred to. -/
def identifies (reference : PartnerReference) (profile : TaxpayerProfile) : Bool :=
  match reference with
  | .bsn number => Text.trim profile.bsn == Text.trim number
  | .foreignTaxId id => profile.foreignTaxId.any fun own => Text.trim own == Text.trim id

/-- The reference as shown in messages. -/
def toText : PartnerReference → String
  | .bsn number => "bsn:" ++ number
  | .foreignTaxId id => "foreign:" ++ id

end PartnerReference

end IncomeTax

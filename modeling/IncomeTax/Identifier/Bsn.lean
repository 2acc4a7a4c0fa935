import IncomeTax.Rule
import IncomeTax.Text.Numeral

/-!
# Citizen-service numbers

A citizen-service number (BSN) has nine digits. The first eight are weighted 9 down to 2, the ninth
is subtracted, and the total must be divisible by 11. A number whose eight weighted digits are all
the same is never issued and is refused even when the arithmetic works out.

## Main definitions

* `Bsn.checksum` — the weighted sum
* `Bsn.violation` — the first rule a text breaks, if it is no valid number
-/

namespace IncomeTax.Bsn

/-- The weighted sum of the first eight digits, less the ninth. -/
def checksum (weighted : List Nat) (last : Nat) : Int :=
  ((weighted.zipWith (· * ·) [9, 8, 7, 6, 5, 4, 3, 2]).foldl (· + ·) 0 : Nat) - (last : Int)

/-- The first rule broken by nine digits. -/
def digitViolation (digits : List Nat) : Option Rule :=
  if digits.length ≠ 9 then some .bsnFormat
  else
    let weighted := digits.take 8
    if weighted.all (some · == digits.head?) then some .bsnRepeatedDigits
    else if checksum weighted (digits.getD 8 0) % 11 ≠ 0 then some .bsnChecksum
    else none

/-- The first rule the characters break as a citizen-service number. -/
def charsViolation (cs : List Char) : Option Rule :=
  match cs.mapM Text.digit? with
  | none => some .bsnFormat
  | some digits => digitViolation digits

/-- The first rule the text breaks as a citizen-service number; it is not trimmed. -/
def violation (s : String) : Option Rule := charsViolation s.toList

example : violation "123456782" = none := by decide +kernel

example : violation "123456781" = some .bsnChecksum := by decide +kernel

end IncomeTax.Bsn

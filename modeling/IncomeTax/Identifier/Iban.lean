import IncomeTax.Rule
import IncomeTax.Text.Blank
import IncomeTax.Text.Numeral

/-!
# Bank account numbers

A bank account number (IBAN) is compared without blanks and in capitals. It has 15 to 34 letters and
digits, of which the first two are the country's letters and the next two the check digits. Move
those four to the end and write each letter as a number from 10 to 35: the resulting number must
leave remainder 1 when divided by 97. A Dutch account number has 18 characters, four letters after
the check digits and then ten digits.

## Main definitions

* `Iban.normalize` — the form that is compared
* `Iban.remainder` — the remainder, taken character by character
* `Iban.violation` — the first rule a text breaks, if it is no valid number
-/

namespace IncomeTax.Iban

/-- Whether the character is a letter of ASCII. -/
def isLetter (c : Char) : Bool :=
  (65 ≤ c.toNat && c.toNat ≤ 90) || (97 ≤ c.toNat && c.toNat ≤ 122)

/-- The ASCII capital of the character. -/
def capital (c : Char) : Char :=
  if 97 ≤ c.toNat && c.toNat ≤ 122 then Char.ofNat (c.toNat - 32) else c

/-- The characters without blanks and in capitals. -/
def normalizeChars (cs : List Char) : List Char := (cs.filter (!Text.isBlank ·)).map capital

/-- The text without blanks and in capitals. -/
def normalize (s : String) : String := String.ofList (normalizeChars s.toList)

/-- Whether capitals and digits have the shape of an account number. -/
def hasShape (cs : List Char) : Bool :=
  15 ≤ cs.length && cs.length ≤ 34 && cs.all (fun c => isLetter c || Text.isDigit c) &&
    (cs.take 2).all isLetter && ((cs.drop 2).take 2).all Text.isDigit

/-- Whether the characters have the Dutch shape, if the country is Dutch. -/
def hasCountryShape (cs : List Char) : Bool :=
  cs.take 2 != ['N', 'L'] ||
    (cs.length == 18 && ((cs.drop 4).take 4).all isLetter && (cs.drop 8).all Text.isDigit)

/-- The number a capital or digit stands for. -/
def value (c : Char) : Nat :=
  match Text.digit? c with
  | some d => d
  | none => c.toNat - 55

/-- Continues a remainder modulo 97 with the one or two digits of a character. -/
def step (rem : Nat) (c : Char) : Nat :=
  -- A letter stands for two digits, so it moves the others two places up.
  if value c < 10 then (rem * 10 + value c) % 97 else (rem * 100 + value c) % 97

/-- The remainder modulo 97, with the first four characters moved to the end. -/
def remainder (cs : List Char) : Nat := (cs.drop 4 ++ cs.take 4).foldl step 0

/-- The first rule broken by characters in their compared form. -/
def normalViolation (cs : List Char) : Option Rule :=
  if !hasShape cs || !hasCountryShape cs then some .ibanFormat
  else if remainder cs ≠ 1 then some .ibanChecksum
  else none

/-- The first rule the characters break as an account number. -/
def charsViolation (cs : List Char) : Option Rule := normalViolation (normalizeChars cs)

/-- The first rule the text breaks as an account number. -/
def violation (s : String) : Option Rule := charsViolation s.toList

example : violation "nl91 abna 0417 1643 00" = none := by decide +kernel

example : violation "NL92ABNA0417164300" = some .ibanChecksum := by decide +kernel

end IncomeTax.Iban

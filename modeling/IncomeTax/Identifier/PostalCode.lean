import IncomeTax.Identifier.Iban

/-!
# Postal codes

A Dutch postal code is four digits, the first of them not zero, and two letters, with at most one
space between them. The letter pairs SA, SD and SS are never issued.
-/

namespace IncomeTax.PostalCode

/-- Whether the digits and the capitals make up an issued code. -/
def isIssued (digits letters : List Char) : Bool :=
  digits.length == 4 && digits.all Text.isDigit && digits.head? != some '0' &&
    letters.length == 2 && letters.all (fun c => 65 ≤ c.toNat && c.toNat ≤ 90) &&
    letters != ['S', 'A'] && letters != ['S', 'D'] && letters != ['S', 'S']

/-- The rule the text breaks as a postal code, blanks at its ends and the case of letters apart. -/
def violation (s : String) : Option Rule :=
  let cs := (Text.trimBoth s.toList).map Iban.capital
  let letters := match cs.drop 4 with
    | ' ' :: rest => rest
    | rest => rest
  if isIssued (cs.take 4) letters then none else some .postalCodeFormat

example : violation "1234 ab" = none := by decide +kernel

example : violation "1234 SS" = some .postalCodeFormat := by decide +kernel

end IncomeTax.PostalCode

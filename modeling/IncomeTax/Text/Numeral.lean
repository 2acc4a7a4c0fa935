/-!
# Decimal numerals

Digits are those of ASCII. A numeral is read from the left, each digit adding itself to ten times
the value so far.

## Main definitions

`Text.digit?` gives the value of a digit, `Text.natural?` that of a numeral, `Text.numeral` writes a
number without leading zeros and `Text.padded` with a fixed number of digits.
-/

namespace IncomeTax.Text

/-- The value of a decimal digit. -/
def digit? (c : Char) : Option Nat :=
  if 48 ≤ c.toNat ∧ c.toNat ≤ 57 then some (c.toNat - 48) else none

/-- Whether the character is a decimal digit. -/
def isDigit (c : Char) : Bool := (digit? c).isSome

/-- The digit of a value below ten. -/
def digitChar (n : Nat) : Char := Char.ofNat (48 + n % 10)

/-- The value of a numeral that continues one of value `start`. -/
def digitsFrom? (start : Nat) (cs : List Char) : Option Nat :=
  cs.foldlM (fun n c => (digit? c).map fun d => 10 * n + d) start

/-- The value of a numeral of at least one digit. -/
def natural? (cs : List Char) : Option Nat :=
  if cs.isEmpty then none else digitsFrom? 0 cs

/-- The number in decimal, without leading zeros. -/
def numeral (n : Nat) : List Char := Nat.toDigits 10 n

/-- The last `count` decimal digits of a number, leading zeros included. -/
def padded : (count : Nat) → Nat → List Char
  | 0, _ => []
  | count + 1, n => padded count (n / 10) ++ [digitChar n]

/-- The number in decimal, with leading zeros up to the given width. -/
def atLeast (width n : Nat) : List Char :=
  List.replicate (width - (numeral n).length) '0' ++ numeral n

/-- The value of a hexadecimal digit, in either case. -/
def hexDigit? (c : Char) : Option Nat :=
  if 48 ≤ c.toNat ∧ c.toNat ≤ 57 then some (c.toNat - 48)
  else if 97 ≤ c.toNat ∧ c.toNat ≤ 102 then some (c.toNat - 87)
  else if 65 ≤ c.toNat ∧ c.toNat ≤ 70 then some (c.toNat - 55)
  else none

/-- The value of a hexadecimal numeral of at least one digit. -/
def hexadecimal? (cs : List Char) : Option Nat :=
  if cs.isEmpty then none
  else cs.foldlM (fun n c => (hexDigit? c).map fun d => 16 * n + d) 0

/-- The number in lower-case hexadecimal, without leading zeros. -/
def hexNumeral (n : Nat) : List Char := Nat.toDigits 16 n

end IncomeTax.Text

import IncomeTax.Decimal.Arithmetic
import IncomeTax.Text.Numeral

/-!
# Amounts as text

An amount is written in plain notation with all its decimals. It is read from digits with at most
one point, an optional sign in front and separators `_` after the first digit; decimals that do not
fit are dropped, rounding up when the first dropped digit is at least five. Separators are passed
over, but one that follows the last possible decimal of a short number counts as a dropped zero.

A text that is no plain number but holds an `e` is read as a base and a power of ten of at most 28.
A zero read as plain digits has no sign; a negative number that a power of ten takes below the
smallest amount is a zero that keeps its sign.

## Main definitions

`Decimal.toText` writes an amount, `Decimal.ofPlain` reads plain notation, `Decimal.ofText` either
notation, and `Decimal.TextError` lists the reasons for refusing a text.
-/

namespace IncomeTax.Decimal

/-- Why a text is no amount. -/
inductive TextError where
  | empty
  | unknownCharacter
  | twoPoints
  | noDigits
  | leadingSeparator
  | wholePartTooLarge
  | roundedTooLarge
  | exponentTooLarge (exponent : Nat)
  | tooLarge
  | badExponent
  deriving DecidableEq

/-- The wording of a refusal. -/
def TextError.message : TextError → String
  | .empty => "Invalid decimal: empty"
  | .unknownCharacter => "Invalid decimal: unknown character"
  | .twoPoints => "Invalid decimal: two decimal points"
  | .noDigits => "Invalid decimal: no digits found"
  | .leadingSeparator => "Invalid decimal: must start lead with a number"
  | .wholePartTooLarge => "Invalid decimal: overflow from too many digits"
  | .roundedTooLarge => "Invalid decimal: overflow from mantissa after rounding"
  | .exponentTooLarge exponent =>
    s!"Scale exceeds the maximum precision allowed: {exponent} > 28"
  | .tooLarge => "Number exceeds maximum value that can be represented."
  | .badExponent => "Failed to parse"

/-- The characters of an amount in plain notation: a minus sign if it has one, the whole part, and
after a point as many digits as its scale says. -/
def toChars (a : Decimal) : List Char :=
  (if a.negative then ['-'] else []) ++ Text.numeral (a.coefficient / Nat.pow 10 a.scale) ++
    (if a.scale = 0 then [] else '.' :: Text.padded a.scale (a.coefficient % Nat.pow 10 a.scale))

/-- The amount in plain notation, with its exact scale. -/
def toText (a : Decimal) : String := String.ofList a.toChars

/-- Accepts what follows the first dropped digit: digits and separators only. -/
def checkDropped : List Char → Except TextError Unit
  | [] => .ok ()
  | c :: cs =>
    if Text.isDigit c || c == '_' then checkDropped cs
    else if c == '.' then .error .twoPoints
    else .error .unknownCharacter

/-- Ends the reading at the first digit that is dropped, which decides the rounding. A coefficient
that rounds out of range loses its last digit, if that is a decimal; a whole number that rounds out
of range is refused before the rest of the text is looked at. -/
def roundDropped (negative : Bool) (coefficient scale dropped : Nat) (rest : List Char) :
    Except TextError Decimal :=
  let rounded := if 5 ≤ dropped then coefficient + 1 else coefficient
  let amount :=
    if rounded < coefficientLimit then ofParts? negative rounded scale
    else
      match scale with
      | 0 => none
      -- The coefficient ends in six here, so this rounds it up.
      | scale + 1 => ofParts? negative ((rounded + 4) / 10) scale
  match amount with
  | none => .error .roundedTooLarge
  | some a => (checkDropped rest).map fun _ => a

/-- The coefficients below this one are short: ten times the number, and a digit, fit in 64 bits
with room to spare. -/
def shortLimit : Nat := 1844674407370954906

/-- Reads digits into a coefficient and a scale, as long as they fit. -/
def readDigits (negative pointSeen digitSeen : Bool) (coefficient scale : Nat) :
    List Char → Except TextError Decimal
  | [] =>
    if digitSeen then
      match ofParts? negative coefficient scale with
      | some a => .ok a
      | none => .error .wholePartTooLarge
    else .error .noDigits
  | c :: cs =>
    match Text.digit? c with
    | some d =>
      -- Decimals are dropped when the scale or the coefficient is full; digits of the whole part
      -- never are.
      if pointSeen && scale == maxScale then roundDropped negative coefficient scale d cs
      else if 10 * coefficient + d < coefficientLimit then
        readDigits negative pointSeen true (10 * coefficient + d)
          (if pointSeen then scale + 1 else scale) cs
      else if pointSeen then roundDropped negative coefficient scale d cs
      else .error .wholePartTooLarge
    | none =>
      if c == '.' then
        if pointSeen then .error .twoPoints
        else readDigits negative true digitSeen coefficient scale cs
      else if c == '_' then
        if !digitSeen then .error .leadingSeparator
        else if pointSeen && scale == maxScale && coefficient / 10 < shortLimit then
          roundDropped negative coefficient scale 0 cs
        else readDigits negative pointSeen digitSeen coefficient scale cs
      else .error .unknownCharacter

/-- Reads plain notation. -/
def ofPlain : List Char → Except TextError Decimal
  | [] => .error .empty
  | '-' :: cs => readDigits true false false 0 0 cs
  | '+' :: cs => readDigits false false false 0 0 cs
  | cs => readDigits false false false 0 0 cs

/-- An unsigned whole number of at most 32 bits, with an optional plus sign. -/
def readExponent? (cs : List Char) : Option Nat :=
  let digits := match cs with
    | '+' :: rest => rest
    | _ => cs
  (Text.natural? digits).filter (· < Nat.pow 2 32)

/-- The amount divided by a power of ten of at most 28: its scale grows, and decimals beyond the
greatest scale are first rounded off, a half away from zero. The sign stays, also when nothing else
is left of the amount. -/
def divideByPower (a : Decimal) (exponent : Nat) : Decimal :=
  if fits : a.scale + exponent ≤ 28 then { a with scale := a.scale + exponent, scale_le := fits }
  else
    let dropped := a.scale + exponent - 28
    { negative := a.negative
      coefficient := RoundedQuotient.halfUp a.coefficient (Nat.pow 10 dropped)
      scale := 28
      coefficient_lt := by
        refine Nat.lt_of_le_of_lt (RoundedQuotient.halfUp_le _ ?_) a.coefficient_lt
        calc 2 ≤ Nat.pow 10 1 := by decide
          _ ≤ Nat.pow 10 dropped := Nat.pow_le_pow_right (by decide) (by omega)
      scale_le := by decide }

/-- The amount times a power of ten: its scale shrinks, down to a whole number. -/
def multiplyByPower (a : Decimal) (exponent : Nat) : Option Decimal :=
  if exponent ≤ a.scale then ofParts? a.negative a.coefficient (a.scale - exponent)
  else ofParts? a.negative (a.coefficient * Nat.pow 10 (exponent - a.scale)) 0

/-- Reads a base, `e` and a power of ten. -/
def ofScientific (cs : List Char) : Except TextError Decimal := do
  let isMark (c : Char) : Bool := c == 'e' || c == 'E'
  let base ← ofPlain (cs.takeWhile (!isMark ·))
  let (divide, digits) := match (cs.dropWhile (!isMark ·)).drop 1 with
    | '-' :: rest => (true, rest)
    | rest => (false, rest)
  match readExponent? digits with
  | none => .error .badExponent
  | some exponent =>
    if maxScale < exponent then .error (.exponentTooLarge exponent)
    else if divide then .ok (base.divideByPower exponent)
    else
      match base.multiplyByPower exponent with
      | some a => .ok a
      | none => .error .tooLarge

/-- Reads an amount in plain notation or, when that fails and the text has an `e`, as a base and a
power of ten. -/
def ofChars (cs : List Char) : Except TextError Decimal :=
  match ofPlain cs with
  | .ok a => .ok a
  | .error e => if cs.any (fun c => c == 'e' || c == 'E') then ofScientific cs else .error e

/-- Reads an amount in either notation. -/
def ofText (s : String) : Except TextError Decimal := ofChars s.toList

/-- The amount a text stands for, if any. -/
def ofText? (s : String) : Option Decimal := (ofText s).toOption

example : (ofText? "12.50").map toText = some "12.50" := by decide +kernel

example : (ofText? "1.5e2").map toText = some "150" := by decide +kernel

example : (ofText? "0.00000000000000000000000000015").map toText =
    some "0.0000000000000000000000000002" := by decide +kernel

example : (ofText? "1.2345678901234567890123456784_5").map toText =
    some "1.2345678901234567890123456785" := by decide +kernel

example : (ofText? "-0.4e-28").map toText = some "-0.0000000000000000000000000000" := by
  decide +kernel

example : ofText? "1,5" = none := by decide +kernel

end IncomeTax.Decimal

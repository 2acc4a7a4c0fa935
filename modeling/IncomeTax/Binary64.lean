import IncomeTax.RoundedQuotient
import IncomeTax.Text.Numeral

/-!
# Double-precision numbers

A finite number is `± significand * 2 ^ exponent` with a significand of at most 53 bits and an
exponent of at least `-1074`; beside those stand the two infinities and the value that is no number.
Every operation rounds the exact result to the nearest number, a half to the even significand, and
works on natural numbers throughout.

A finite number is written positionally, with the fewest digits that read back as the number and,
of those, the ones nearest to it.

## Main definitions

`Binary64.round` rounds a quotient, `Binary64.ofText?` reads a decimal numeral, `Binary64.scaled?`
rounds a whole number times a power of ten in two steps, `Binary64.shortest` picks the digits and
`Binary64.toText` writes them.
-/

namespace IncomeTax

/-- A number in the double-precision format. -/
inductive Binary64 where
  | finite (negative : Bool) (significand : Nat) (exponent : Int)
  | infinite (negative : Bool)
  | nan
  deriving DecidableEq

namespace Binary64

/-- The least exponent. -/
def leastExponent : Int := -1074

/-- The greatest exponent of a finite number. -/
def greatestExponent : Int := 971

/-- Zero with the given sign. -/
def zero (negative : Bool) : Binary64 := .finite negative 0 leastExponent

/-- Whether the number is zero. -/
def isZero : Binary64 → Bool
  | .finite _ significand _ => significand == 0
  | _ => false

/-- Two to the power, as a numerator and a denominator. -/
def powerOfTwo (exponent : Int) : Nat × Nat :=
  (Nat.pow 2 exponent.toNat, Nat.pow 2 (-exponent).toNat)

/-- The exponent of the greatest power of two that does not exceed `n / d`. -/
def floorLog2 (n d : Nat) : Int :=
  let guess : Int := (Nat.log2 n : Int) - Nat.log2 d
  let (up, down) := powerOfTwo guess
  if d * up ≤ n * down then guess else guess - 1

/-- The number nearest to `± n / d`, a half to the even significand. -/
def round (negative : Bool) (n d : Nat) : Binary64 :=
  if n = 0 then zero negative
  else
    let exponent := Max.max (floorLog2 n d - 52) leastExponent
    let (up, down) := powerOfTwo exponent
    let rounded := RoundedQuotient.halfEven (n * down) (d * up)
    -- Rounding up can give one bit too many; the last bit is then zero.
    let (significand, exponent) :=
      if rounded = Nat.pow 2 53 then (Nat.pow 2 52, exponent + 1) else (rounded, exponent)
    if greatestExponent < exponent then .infinite negative
    else .finite negative significand exponent

/-- The number nearest to a natural number. -/
def ofNat (n : Nat) : Binary64 := round false n 1

/-- The number nearest to a power of ten. -/
def powerOfTen (k : Nat) : Binary64 := ofNat (Nat.pow 10 k)

/-- The number with the opposite sign. -/
def neg : Binary64 → Binary64
  | .finite negative significand exponent => .finite (!negative) significand exponent
  | .infinite negative => .infinite (!negative)
  | .nan => .nan

/-- The product of two finite numbers. -/
def mul : Binary64 → Binary64 → Binary64
  | .finite s m e, .finite t n f =>
    let (up, down) := powerOfTwo (e + f)
    round (s != t) (m * n * up) down
  | _, _ => .nan

/-- The quotient of two finite numbers, the divisor not zero. -/
def div : Binary64 → Binary64 → Binary64
  | .finite s m e, .finite t n f =>
    let (up, down) := powerOfTwo (e - f)
    round (s != t) (m * up) (n * down)
  | _, _ => .nan

/-- The whole number times a power of ten: both factors are rounded first, and then the result;
`none` when it is out of range. A divisor beyond `10 ^ 308` is applied in two steps. -/
def scaled? (n : Nat) (exponent : Int) : Option Binary64 :=
  let base := ofNat n
  if n = 0 then some (zero false)
  else if 0 ≤ exponent then
    if 308 < exponent then none
    else
      match base.mul (powerOfTen exponent.toNat) with
      | .finite s m e => some (.finite s m e)
      | _ => none
  else if -308 ≤ exponent then some (base.div (powerOfTen (-exponent).toNat))
  else if -616 ≤ exponent then
    some ((base.div (powerOfTen 308)).div (powerOfTen (-exponent - 308).toNat))
  else some (zero false)

/-- The number nearest to `± n * 10 ^ exponent`. -/
def ofDecimal (negative : Bool) (n : Nat) (exponent : Int) : Binary64 :=
  let magnitude : Int := (Text.numeral n).length + exponent
  -- Far out of range the result is known, and the powers of ten need not be computed.
  if n = 0 then zero negative
  else if 310 < magnitude then .infinite negative
  else if magnitude < -330 then zero negative
  else round negative (n * Nat.pow 10 exponent.toNat) (Nat.pow 10 (-exponent).toNat)

/-- Whether the text is the word, in any mixture of cases. -/
def isWord (word : String) (cs : List Char) : Bool := cs.map Char.toLower == word.toList

/-- Reads an exponent with an optional sign. -/
def readPower? : List Char → Option Int
  | '-' :: cs => (Text.natural? cs).map fun n => -(n : Int)
  | '+' :: cs => (Text.natural? cs).map Int.ofNat
  | cs => (Text.natural? cs).map Int.ofNat

/-- Reads digits with at most one point and an optional power of ten, or the name of a value that
is not finite. -/
def readMagnitude? (negative : Bool) (cs : List Char) : Option Binary64 :=
  if isWord "inf" cs || isWord "infinity" cs then some (.infinite negative)
  else if isWord "nan" cs then some .nan
  else do
    let whole := cs.takeWhile Text.isDigit
    let rest := cs.dropWhile Text.isDigit
    let (fraction, rest) := match rest with
      | '.' :: rest => (rest.takeWhile Text.isDigit, rest.dropWhile Text.isDigit)
      | _ => ([], rest)
    let n ← Text.natural? (whole ++ fraction)
    let power ← match rest with
      | [] => some 0
      | c :: digits => if c == 'e' || c == 'E' then readPower? digits else none
    return ofDecimal negative n (power - fraction.length)

/-- Reads a decimal numeral, rounding it correctly. -/
def ofText? (s : String) : Option Binary64 :=
  match s.toList with
  | '-' :: cs => readMagnitude? true cs
  | '+' :: cs => readMagnitude? false cs
  | cs => readMagnitude? false cs

/-- The digits `c` and the power `p` of the shortest decimal `c * 10 ^ p` that rounds to
`m * 2 ^ e`. Powers are tried from the largest; at each the two multiples around the number are the
only candidates, and of two that fit the nearer is taken. -/
def shortestFrom (m : Nat) (e : Int) : (fuel : Nat) → (p : Int) → Nat × Int
  | 0, p => (m, p)
  | fuel + 1, p =>
    -- In units of `2 ^ (e - 2)` the number is `4 * m`, and its neighbours are four away, except for
    -- the one below a power of two, which is two away. What lies nearer reads back as the number.
    let (twoUp, twoDown) := powerOfTwo (e - 2)
    let a := twoUp * Nat.pow 10 (-p).toNat
    let b := twoDown * Nat.pow 10 p.toNat
    let low := if m = Nat.pow 2 52 && leastExponent < e then 4 * m - 1 else 4 * m - 2
    let fits (c : Nat) : Bool :=
      c != 0 && if m % 2 = 0 then low * a ≤ c * b && c * b ≤ (4 * m + 2) * a
        else low * a < c * b && c * b < (4 * m + 2) * a
    let c := 4 * m * a / b
    if fits c && (!fits (c + 1) || 2 * (4 * m * a) < (2 * c + 1) * b) then (c, p)
    else if fits (c + 1) then (c + 1, p)
    else shortestFrom m e fuel (p - 1)

/-- The fewest decimal digits that read back as `m * 2 ^ e`, with their power of ten. -/
def shortest (m : Nat) (e : Int) : Nat × Int :=
  shortestFrom m e 25 ((e + Nat.log2 m + 1) * 30103 / 100000 + 1)

/-- The digits `c * 10 ^ p` in plain notation. -/
def positional (c : Nat) (p : Int) : List Char :=
  let places := (-p).toNat
  Text.numeral (c * Nat.pow 10 p.toNat / Nat.pow 10 places) ++
    if places = 0 then [] else '.' :: Text.padded places (c % Nat.pow 10 places)

/-- The number in plain notation, with the fewest digits that read back. -/
def toText : Binary64 → String
  | .finite negative significand exponent =>
    let digits :=
      if significand = 0 then ['0']
      else
        let (c, p) := shortest significand exponent
        positional c p
    String.ofList (if negative then '-' :: digits else digits)
  | .infinite negative => if negative then "-inf" else "inf"
  | .nan => "NaN"

example : (ofText? "0.1").map toText = some "0.1" := by decide +kernel

example : (ofText? "1e23").map toText = some "100000000000000000000000" := by decide +kernel

example : (ofText? "-2.50").map toText = some "-2.5" := by decide +kernel

end Binary64

end IncomeTax

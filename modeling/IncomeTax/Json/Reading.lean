import IncomeTax.Json.Basic

/-!
# Reading documents from text

Blanks between tokens are spaces, tabs, line feeds and carriage returns. Texts hold any character
but the ASCII controls, and characters outside the basic plane may be escaped as surrogate pairs.

A number takes as many digits of its whole part, and then of its fraction, as fit in 64 bits; the
others only count for the power of ten. Without fraction and power it is a whole number if it fits
in 64 bits; minus zero is a double-precision number.

## Main definitions

`Json.parse?` reads a whole text. `Json.readValue`, `Json.readItems` and `Json.readMembers` read a
value from the front of a text and answer what is left; their first argument bounds the number of
calls, and twice the length of the text is always enough.
-/

namespace IncomeTax.Json

/-- Whether the character may stand between tokens. -/
def isSpace (c : Char) : Bool := c == ' ' || c == '\t' || c == '\n' || c == '\r'

/-- The text after the blanks in front. -/
def skipSpace (cs : List Char) : List Char := cs.dropWhile isSpace

/-- The largest whole number kept exactly. -/
def greatestWhole : Nat := Nat.pow 2 64 - 1

/-- Continues a number with digits while it fits in 64 bits; answers the number and how many digits
it took. -/
def absorbDigits (n : Nat) : List Char → Nat × Nat
  | [] => (n, 0)
  | c :: cs =>
    match Text.digit? c with
    | none => (n, 0)
    | some d =>
      if 10 * n + d ≤ greatestWhole then
        let (n, taken) := absorbDigits (10 * n + d) cs
        (n, taken + 1)
      else (n, 0)

/-- The number with the given whole part, fraction and power of ten. -/
def numberOf (negative : Bool) (whole : List Char) (fraction : Option (List Char))
    (power : Option Int) : Json :=
  let (n, taken) := absorbDigits 0 whole
  let signed (x : Binary64) : Json := .number (.real (if negative then x.neg else x))
  if fraction.isNone && power.isNone && taken == whole.length then
    if !negative then ofNat n
    -- Minus zero has no place among whole numbers.
    else if n != 0 && n ≤ Nat.pow 2 63 then ofInt (-(n : Int))
    else signed (Binary64.ofNat n)
  else
    -- Digits dropped from the whole part raise the power of ten, decimals that are kept lower it.
    let (n, decimals) := absorbDigits n (fraction.getD [])
    let exponent : Int := power.getD 0 + (whole.length - taken : Nat) - (decimals : Nat)
    match Binary64.scaled? n exponent with
    | some x => signed x
    | none => .unreadable

/-- Splits the digits off the front. -/
def spanDigits (cs : List Char) : List Char × List Char :=
  (cs.takeWhile Text.isDigit, cs.dropWhile Text.isDigit)

/-- Reads a point and at least one digit, if there is a point. -/
def readFraction (cs : List Char) : Option (Option (List Char) × List Char) :=
  match cs with
  | '.' :: rest =>
    let (digits, rest) := spanDigits rest
    if digits.isEmpty then none else some (some digits, rest)
  | _ => some (none, cs)

/-- Reads the mark, sign and digits of a power of ten, if there is a mark. -/
def readPower (cs : List Char) : Option (Option Int × List Char) :=
  match cs with
  | c :: rest =>
    if c == 'e' || c == 'E' then
      let (negative, rest) := match rest with
        | '-' :: rest => (true, rest)
        | '+' :: rest => (false, rest)
        | _ => (false, rest)
      let (digits, rest) := spanDigits rest
      (Text.natural? digits).map fun n => (some (if negative then -(n : Int) else n), rest)
    else some (none, cs)
  | [] => some (none, cs)

/-- Reads a number whose sign is already known. -/
def readNumber (negative : Bool) (cs : List Char) : Option (Json × List Char) := do
  let (whole, rest) := spanDigits cs
  if whole.isEmpty || (whole.head? == some '0' && whole.length != 1) then none
  else
    let (fraction, rest) ← readFraction rest
    let (power, rest) ← readPower rest
    return (numberOf negative whole fraction power, rest)

/-- A piece of a text: a character, or one half of a surrogate pair. -/
inductive Piece where
  | char (c : Char)
  | half (unit : Nat)

/-- The piece of a 16-bit unit. -/
def Piece.ofUnit (unit : Nat) : Piece :=
  if 0xD800 ≤ unit && unit ≤ 0xDFFF then .half unit else .char (Char.ofNat unit)

/-- The character of a pair of halves, if they are a high and a low one. -/
def pairedChar? (high low : Nat) : Option Char :=
  if high ≤ 0xDBFF && 0xDC00 ≤ low then
    some (Char.ofNat (0x10000 + (high - 0xD800) * 0x400 + (low - 0xDC00)))
  else none

/-- The characters of the pieces, if every half has its other half. -/
def joinPieces : List Piece → Option (List Char)
  | [] => some []
  | .char c :: rest => (joinPieces rest).map (c :: ·)
  | .half high :: .half low :: rest => do
    let c ← pairedChar? high low
    (joinPieces rest).map (c :: ·)
  | .half _ :: _ => none

/-- The character named by a letter after a backslash. -/
def escaped? : Char → Option Char
  | '"' => some '"'
  | '\\' => some '\\'
  | '/' => some '/'
  | 'b' => some '\x08'
  | 'f' => some '\x0c'
  | 'n' => some '\n'
  | 'r' => some '\r'
  | 't' => some '\t'
  | _ => none

/-- Reads the pieces of a text up to the closing quote. -/
def readPieces : List Char → Option (List Piece × List Char)
  | [] => none
  | '"' :: rest => some ([], rest)
  | '\\' :: 'u' :: a :: b :: c :: d :: rest => do
    let unit ← Text.hexadecimal? [a, b, c, d]
    let (pieces, rest) ← readPieces rest
    return (Piece.ofUnit unit :: pieces, rest)
  | '\\' :: c :: rest => do
    let c ← escaped? c
    let (pieces, rest) ← readPieces rest
    return (.char c :: pieces, rest)
  | c :: rest =>
    if c.toNat < 0x20 || c == '\\' then none
    else do
      let (pieces, rest) ← readPieces rest
      return (.char c :: pieces, rest)

/-- Reads a text after its opening quote; the text is missing when a surrogate half stands alone. -/
def readText (cs : List Char) : Option (Option String × List Char) := do
  let (pieces, rest) ← readPieces cs
  return ((joinPieces pieces).map String.ofList, rest)

/-- The members of an object, unless one of the names is missing. -/
def objectOf (members : List (Option String × Json)) : Json :=
  match members.mapM fun (name, value) => name.map fun n => (n, value) with
  | some members => .object members
  | none => .unreadable

mutual

/-- Reads one value from the front of a text. -/
def readValue : (fuel : Nat) → List Char → Option (Json × List Char)
  | 0, _ => none
  | fuel + 1, cs =>
    match skipSpace cs with
    | 'n' :: 'u' :: 'l' :: 'l' :: rest => some (.null, rest)
    | 't' :: 'r' :: 'u' :: 'e' :: rest => some (.bool true, rest)
    | 'f' :: 'a' :: 'l' :: 's' :: 'e' :: rest => some (.bool false, rest)
    | '"' :: rest => (readText rest).map fun (s, rest) =>
      ((s.map Json.string).getD .unreadable, rest)
    | '[' :: rest =>
      match skipSpace rest with
      | ']' :: rest => some (.array [], rest)
      | rest => (readItems fuel rest).map fun (items, rest) => (.array items, rest)
    | '{' :: rest =>
      match skipSpace rest with
      | '}' :: rest => some (.object [], rest)
      | rest => (readMembers fuel rest).map fun (members, rest) => (objectOf members, rest)
    | '-' :: rest => readNumber true rest
    | rest => readNumber false rest

/-- Reads the items of a list up to its closing bracket. -/
def readItems : (fuel : Nat) → List Char → Option (List Json × List Char)
  | 0, _ => none
  | fuel + 1, cs => do
    let (item, rest) ← readValue fuel cs
    match skipSpace rest with
    | ',' :: rest => (readItems fuel rest).map fun (items, rest) => (item :: items, rest)
    | ']' :: rest => some ([item], rest)
    | _ => none

/-- Reads the members of an object up to its closing brace. -/
def readMembers : (fuel : Nat) → List Char → Option (List (Option String × Json) × List Char)
  | 0, _ => none
  | fuel + 1, cs =>
    match skipSpace cs with
    | '"' :: rest => do
      let (name, rest) ← readText rest
      match skipSpace rest with
      | ':' :: rest =>
        let (value, rest) ← readValue fuel rest
        match skipSpace rest with
        | ',' :: rest =>
          (readMembers fuel rest).map fun (members, rest) => ((name, value) :: members, rest)
        | '}' :: rest => some ([(name, value)], rest)
        | _ => none
      | _ => none
    | _ => none

end

/-- Reads a text that holds one document and nothing else but blanks. -/
def parse? (s : String) : Option Json :=
  let cs := s.toList
  match readValue (2 * cs.length + 2) cs with
  | some (j, rest) => if (skipSpace rest).isEmpty then some j else none
  | none => none

example : (parse? "1.0 2").isNone = true := by decide +kernel

example : (parse? "[1, \x7b\"a\": null\x7d]").isSome = true := by decide +kernel

end IncomeTax.Json

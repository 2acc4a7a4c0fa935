import IncomeTax.Binary64
import IncomeTax.Csv.Rows
import IncomeTax.Decimal.Text
import IncomeTax.Text.Blank
import IncomeTax.Text.Quoted
import IncomeTax.Text.Utf8

/-!
# Cells of comma-separated files

A cell holds a whole number, a text, an amount, an amount that may be missing, or a flag. An amount
that must be there is first tried as a truth value, a whole number and a double-precision number,
and only then as text; an amount that may be missing is always read as text, so it keeps its scale.

## Main definitions

* `Csv.CellError` — why a cell or a row cannot be read, with its wording
* `Csv.readInteger`, `readAmount`, `readOptionalAmount`, `readFlag` — the kinds of cells
-/

namespace IncomeTax.Csv

/-- Why a text is no whole number of a given range. -/
inductive IntegerError where
  | empty
  | invalidDigit
  | tooLarge
  | tooSmall
  deriving DecidableEq

/-- The wording of the error. -/
def IntegerError.message : IntegerError → String
  | .empty => "cannot parse integer from empty string"
  | .invalidDigit => "invalid digit found in string"
  | .tooLarge => "number too large to fit in target type"
  | .tooSmall => "number too small to fit in target type"

/-- Why the cells of a row cannot be read. -/
inductive CellError where
  | integer (column : Nat) (e : IntegerError)
  | booleanAmount (b : Bool)
  | wideAmount (n : Int)
  | realAmount (text : String)
  | textAmount (text : String)
  | optionalAmount (e : Decimal.TextError)
  | flag (text : String)
  | missingColumn (name : String)
  | duplicateColumn (name : String)
  | shortRow (cells : Nat) (expected : String)
  deriving DecidableEq

/-- What stands in a cell for an amount. -/
def amountDescription : String := "a Decimal type representing a fixed-point number"

/-- The wording of the error. -/
def CellError.message : CellError → String
  | .integer column e => "field " ++ toString column ++ ": " ++ e.message
  | .booleanAmount b =>
    "invalid type: boolean `" ++ (if b then "true" else "false") ++ "`, expected " ++
      amountDescription
  | .wideAmount n =>
    "invalid type: integer `" ++ toString n ++ "` as " ++ (if n < 0 then "i128" else "u128") ++
      ", expected " ++ amountDescription
  | .realAmount text =>
    "invalid value: floating point `" ++ text ++ "`, expected " ++ amountDescription
  | .textAmount text =>
    "invalid value: string " ++ Text.quoted text ++ ", expected " ++ amountDescription
  | .optionalAmount e => e.message
  | .flag text => "invalid flag '" ++ text ++ "'"
  | .missingColumn name => "missing field `" ++ name ++ "`"
  | .duplicateColumn name => "duplicate field `" ++ name ++ "`"
  | .shortRow cells expected =>
    "invalid length " ++ toString cells ++ ", expected " ++ expected

/-- Continues a number digit by digit while it stays in range. -/
def readDigits (radix : Nat) (negative : Bool) (least greatest : Int) (n : Int) :
    List Char → Except IntegerError Int
  | [] => .ok n
  | c :: cs =>
    match (Text.hexDigit? c).filter (· < radix) with
    | none => .error .invalidDigit
    | some d =>
      let n : Int := if negative then radix * n - d else radix * n + d
      if n < least then .error .tooSmall
      else if greatest < n then .error .tooLarge
      else readDigits radix negative least greatest n cs

/-- Reads a sign and digits. A minus sign is only allowed when the range has negative numbers. -/
def readSigned (radix : Nat) (least greatest : Int) : List Char → Except IntegerError Int
  | [] => .error .empty
  | '+' :: cs =>
    if cs.isEmpty then .error .invalidDigit else readDigits radix false least greatest 0 cs
  | '-' :: cs =>
    if cs.isEmpty || 0 ≤ least then .error .invalidDigit
    else readDigits radix true least greatest 0 cs
  | cs => readDigits radix false least greatest 0 cs

/-- Reads a whole number of a range, in decimal or, after `0x`, in hexadecimal. -/
def readInteger (least greatest : Int) (s : String) : Except IntegerError Int :=
  match s.toList with
  | '0' :: 'x' :: cs => readSigned 16 least greatest cs
  | cs => readSigned 10 least greatest cs

/-- A double-precision number as shown in an error: with a point, unless it is not finite. -/
def realText (x : Binary64) : String :=
  match x with
  | .finite .. => if x.toText.toList.contains '.' then x.toText else x.toText ++ ".0"
  | _ => x.toText

/-- Reads an amount that must be there. -/
def readAmount (s : String) : Except CellError Decimal :=
  let decimal (least greatest : Int) : Option Int :=
    (readSigned 10 least greatest s.toList).toOption
  if s == "true" then .error (.booleanAmount true)
  else if s == "false" then .error (.booleanAmount false)
  else
    match (decimal 0 (Nat.pow 2 64 - 1)).or (decimal (-Nat.pow 2 63) (Nat.pow 2 63 - 1)) with
    | some n =>
      match Decimal.ofInt? n with
      | some a => .ok a
      | none => .error (.wideAmount n)
    | none =>
      match (decimal 0 (Nat.pow 2 128 - 1)).or (decimal (-Nat.pow 2 127) (Nat.pow 2 127 - 1)) with
      | some n => .error (.wideAmount n)
      | none =>
        -- A fraction is taken as a double-precision number, so zeros at its end are lost.
        match Binary64.ofText? s with
        | some x =>
          match Decimal.ofText? x.toText with
          | some a => .ok a
          | none => .error (.realAmount (realText x))
        | none =>
          match Decimal.ofText? s with
          | some a => .ok a
          | none => .error (.textAmount s)

/-- Reads an amount that may be missing. -/
def readOptionalAmount (s : String) : Except CellError (Option Decimal) :=
  let s := Text.trim s
  if s.isEmpty then .ok none
  else
    match Decimal.ofText s with
    | .ok a => .ok (some a)
    | .error e => .error (.optionalAmount e)

/-- Reads a flag: a word for true or false, where an empty cell is false. -/
def readFlag (s : String) : Except CellError Bool :=
  let s := Text.trim s
  if s == "" || s == "false" || s == "no" then .ok false
  else if s == "true" || s == "yes" then .ok true
  else .error (.flag s)

end IncomeTax.Csv

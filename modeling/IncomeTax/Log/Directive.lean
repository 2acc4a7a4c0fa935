import IncomeTax.Binary64
import IncomeTax.Log.Event
import IncomeTax.Text.Blank
import IncomeTax.Text.Letter
import IncomeTax.Text.Pattern

/-!
# Log directives

A directive is a level, or a target and perhaps a span in brackets with a field in braces, and a
level after an equals sign. Without a level it asks for everything. A field can have a value, which
is a truth value, a number or a pattern.

Blanks around a directive mean nothing for its form. But positions are counted from the first
character that is not blank, and the parts are cut out at these positions of the whole text, so with
blanks in front each part begins and ends that many bytes too early. A cut that falls inside a
character cannot be made.

## Main definitions

* `LogDirective` — a directive
* `LogFilterError` — why a text is none
* `LogDirective.ofText` — the directive of a text
-/

namespace IncomeTax

/-- Why a text is no directive or no filter: it does not have the form of one, or a part of it would
begin or end inside a character. -/
inductive LogFilterError where
  | malformed
  | splitCharacter
  deriving DecidableEq

/-- A field with a name, and whether its value matters too. -/
structure LogField where
  name : String
  hasValue : Bool
  deriving DecidableEq

/-- What is logged, and where. -/
structure LogDirective where
  target : Option String
  span : Option String
  field : Option LogField
  level : LogLevel
  deriving DecidableEq

namespace LogDirective

/-- The directive that asks for everything. -/
def everything : LogDirective := ⟨none, none, none, .trace⟩

/-! ### Parts of a text -/

/-- The text without its first bytes, unless that splits a character. -/
def dropBytes? : (count : Nat) → List Char → Option (List Char)
  | 0, cs => some cs
  | _ + 1, [] => none
  | count + 1, c :: cs =>
    if c.utf8Size ≤ count + 1 then dropBytes? (count + 1 - c.utf8Size) cs else none

/-- The first bytes of the text, unless that splits a character. -/
def takeBytes? : (count : Nat) → List Char → Option (List Char)
  | 0, _ => some []
  | _ + 1, [] => none
  | count + 1, c :: cs =>
    if c.utf8Size ≤ count + 1 then (takeBytes? (count + 1 - c.utf8Size) cs).map (c :: ·) else none

/-- The part of a text from one position in bytes up to another one. -/
def cut (text : List Char) (first last : Nat) : Except LogFilterError (List Char) :=
  match (dropBytes? first text).bind (takeBytes? (last - first)) with
  | some part => .ok part
  | none => .error .splitCharacter

/-- The part of a text from a position in bytes on. -/
def cutFrom (text : List Char) (first : Nat) : Except LogFilterError (List Char) :=
  match dropBytes? first text with
  | some part => .ok part
  | none => .error .splitCharacter

/-! ### Levels and fields -/

/-- The level after an equals sign; nothing there asks for everything. -/
def readLevel (cs : List Char) : Except LogFilterError LogLevel :=
  if cs.isEmpty then .ok .trace
  else
    match LogLevel.ofChars? cs with
    | some level => .ok level
    | none => .error .malformed

/-- The directive of a text without brackets and equals signs: a level, or else a target. -/
def ofWord (cs : List Char) : LogDirective :=
  match LogLevel.ofChars? cs with
  | some level => { everything with level }
  | none => { everything with target := some (String.ofList cs) }

/-- Whether the text can be the value of a field. -/
def isValue (cs : List Char) : Bool :=
  let s := String.ofList cs
  s == "true" || s == "false" || (Binary64.ofText? s).isSome || Text.Pattern.isPattern cs

/-- Reads a field: a name and perhaps a value after an equals sign, up to the next one. -/
def readField (cs : List Char) : Except LogFilterError LogField :=
  let isOther (c : Char) : Bool := c != '='
  let name := String.ofList (cs.takeWhile isOther)
  if cs.isEmpty then .error .malformed
  else
    match cs.dropWhile isOther with
    | [] => .ok ⟨name, false⟩
    | _ :: rest => if isValue (rest.takeWhile isOther) then .ok ⟨name, true⟩ else .error .malformed

/-! ### Reading -/

/-- Where in a directive the next character stands, with the position at which the part begins. -/
inductive Place where
  | start
  | word (first : Nat)
  | span (first : Nat)
  | field (first : Nat)
  | afterField
  | afterSpan
  | level (first : Nat)
  deriving DecidableEq

/-- Whether a directive can start with the character, a bracket apart. -/
def isFirst (c : Char) : Bool := c == '-' || c == ':' || c == '_' || Text.isLetterOrNumeral c

/-- Takes in the character at a position. -/
def step (text : List Char) (d : LogDirective) (place : Place) (position : Nat) (c : Char) :
    Except LogFilterError (LogDirective × Place) :=
  match place with
  | .start =>
    if c == '[' then .ok (d, .span (position + 1))
    else if isFirst c then .ok (d, .word position)
    else .error .malformed
  | .word first =>
    if c == '=' || c == '[' then do
      let target ← cut text first position
      return ({ d with target := some (String.ofList target) },
        if c == '=' then .level (position + 1) else .span (position + 1))
    else .ok (d, place)
  | .span first =>
    if c == ']' then do
      let span ← cut text first position
      return ({ d with span := some (String.ofList span) }, .afterSpan)
    else if c == '\x7b' then do
      let span ← cut text first position
      return ({ d with span := if span.isEmpty then none else some (String.ofList span) },
        .field (position + 1))
    else .ok (d, place)
  | .field first =>
    if c == '\x7d' then do
      let field ← readField (← cut text first position)
      return ({ d with field := some field }, .afterField)
    else .ok (d, place)
  | .afterField => if c == ']' then .ok (d, .afterSpan) else .error .malformed
  | .afterSpan => if c == '=' then .ok (d, .level (position + 1)) else .error .malformed
  | .level _ => .ok (d, place)

/-- Takes in the characters from a position on. -/
def steps (text : List Char) (d : LogDirective) (place : Place) (position : Nat) :
    List Char → Except LogFilterError (LogDirective × Place)
  | [] => .ok (d, place)
  | c :: cs => do
    let (d, place) ← step text d place position c
    steps text d place (position + c.utf8Size) cs

/-- Ends a directive. -/
def finish (text : List Char) (d : LogDirective) : Place → Except LogFilterError LogDirective
  | .word first => do return ofWord (← cutFrom text first)
  | .level first => do return { d with level := ← readLevel (← cutFrom text first) }
  | .afterSpan => .ok d
  | _ => .error .malformed

/-- The directive of a text. -/
def ofText (text : List Char) : Except LogFilterError LogDirective := do
  let (d, place) ← steps text everything .start 0 (Text.trimBoth text)
  finish text d place

end LogDirective

end IncomeTax

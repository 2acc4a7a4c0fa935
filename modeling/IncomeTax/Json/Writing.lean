import IncomeTax.Json.Basic

/-!
# Writing documents as text

A document is written either on one line without blanks, or over several lines with two more blanks
of indentation at each level. In both forms an empty list or object is just its brackets. Texts are
written as they are, except for quotes, backslashes and the ASCII controls.

## Main definitions

`Json.compact` writes one line and `Json.pretty` several.
-/

namespace IncomeTax.Json

/-- How a character stands in a text. -/
def escapeChar (c : Char) : List Char :=
  if c == '"' then ['\\', '"']
  else if c == '\\' then ['\\', '\\']
  else if c == '\n' then ['\\', 'n']
  else if c == '\r' then ['\\', 'r']
  else if c == '\t' then ['\\', 't']
  else if c == '\x08' then ['\\', 'b']
  else if c == '\x0c' then ['\\', 'f']
  else if c.toNat < 0x20 then
    ['\\', 'u', '0', '0', Nat.digitChar (c.toNat / 16), Nat.digitChar (c.toNat % 16)]
  else [c]

/-- A text with its quotes. -/
def quoted (s : String) : List Char := '"' :: s.toList.flatMap escapeChar ++ ['"']

/-- A number in decimal. -/
def numberChars : Number → List Char
  | .whole n => (if n < 0 then ['-'] else []) ++ Text.numeral n.natAbs
  | .real x => x.toText.toList

mutual

/-- The document on one line. -/
def compactChars : Json → List Char
  | .null => "null".toList
  | .bool true => "true".toList
  | .bool false => "false".toList
  | .number n => numberChars n
  | .string s => quoted s
  | .array [] => ['[', ']']
  | .array (item :: items) => '[' :: compactChars item ++ compactItems items
  | .object [] => ['{', '}']
  | .object ((name, value) :: members) =>
    '{' :: quoted name ++ ':' :: compactChars value ++ compactMembers members
  | .unreadable => []

/-- The items after the first one, and the closing bracket. -/
def compactItems : List Json → List Char
  | [] => [']']
  | item :: items => ',' :: compactChars item ++ compactItems items

/-- The members after the first one, and the closing brace. -/
def compactMembers : List (String × Json) → List Char
  | [] => ['}']
  | (name, value) :: members =>
    ',' :: quoted name ++ ':' :: compactChars value ++ compactMembers members

end

/-- The document on one line. -/
def compact (j : Json) : String := String.ofList j.compactChars

/-- A new line, indented. -/
def newLine (level : Nat) : List Char := '\n' :: List.replicate (2 * level) ' '

mutual

/-- The document over several lines, its contents indented by one level more than itself. -/
def prettyChars (level : Nat) : Json → List Char
  | .null => "null".toList
  | .bool true => "true".toList
  | .bool false => "false".toList
  | .number n => numberChars n
  | .string s => quoted s
  | .array [] => ['[', ']']
  | .array (item :: items) =>
    '[' :: newLine (level + 1) ++ prettyChars (level + 1) item ++ prettyItems level items
  | .object [] => ['{', '}']
  | .object ((name, value) :: members) =>
    '{' :: newLine (level + 1) ++ quoted name ++ ':' :: ' ' :: prettyChars (level + 1) value ++
      prettyMembers level members
  | .unreadable => []

/-- The items after the first one, and the closing bracket on its own line. -/
def prettyItems (level : Nat) : List Json → List Char
  | [] => newLine level ++ [']']
  | item :: items =>
    ',' :: newLine (level + 1) ++ prettyChars (level + 1) item ++ prettyItems level items

/-- The members after the first one, and the closing brace on its own line. -/
def prettyMembers (level : Nat) : List (String × Json) → List Char
  | [] => newLine level ++ ['}']
  | (name, value) :: members =>
    ',' :: newLine (level + 1) ++ quoted name ++ ':' :: ' ' :: prettyChars (level + 1) value ++
      prettyMembers level members

end

/-- The document over several lines. -/
def pretty (j : Json) : String := String.ofList (j.prettyChars 0)

example : compact (.array [.null, .string "a\"b", ofInt (-2)]) = "[null,\"a\\\"b\",-2]" := by
  decide +kernel

example : pretty (.array [.object []]) = "[\n  \x7b\x7d\n]" := by decide +kernel

end IncomeTax.Json

import IncomeTax.Text.Numeral
import IncomeTax.Text.Unprintable

/-!
# Quoted text in messages

A text is shown in a message between quotes. Quotes and backslashes get a backslash in front, tabs
and line ends their letter, and any other character that has no visible form of its own its code
point in hexadecimal. Such are the control, format, private and unassigned characters, blanks other
than the space, and marks that combine with the character before them.
-/

namespace IncomeTax.Text

/-- How a character is shown between quotes. -/
def quotedChar (c : Char) : List Char :=
  if c == '"' then ['\\', '"']
  else if c == '\\' then ['\\', '\\']
  else if c == '\x00' then ['\\', '0']
  else if c == '\t' then ['\\', 't']
  else if c == '\r' then ['\\', 'r']
  else if c == '\n' then ['\\', 'n']
  else if isUnprintable c then ['\\', 'u', '\x7b'] ++ hexNumeral c.toNat ++ ['\x7d']
  else [c]

/-- The text between quotes. -/
def quoted (s : String) : String := String.ofList ('"' :: s.toList.flatMap quotedChar ++ ['"'])

example : quoted "a\"b\n" = "\"a\\\"b\\n\"" := by decide +kernel

end IncomeTax.Text

/-!
# Blank characters

A character is blank when Unicode gives it the property `White_Space`. These are 25 characters: the
ASCII blanks, the next-line control, and the spaces and separators beyond ASCII. Trimming drops
blanks at both ends of a text.

## Main definitions

`Text.isBlank` decides the property, `Text.trim` trims a string and `Text.isBlankText` says that
nothing is left after trimming.
-/

namespace IncomeTax.Text

/-- The code points with the property `White_Space`. -/
def blankCodes : List Nat :=
  [0x09, 0x0A, 0x0B, 0x0C, 0x0D, 0x20, 0x85, 0xA0, 0x1680,
   0x2000, 0x2001, 0x2002, 0x2003, 0x2004, 0x2005, 0x2006, 0x2007, 0x2008, 0x2009, 0x200A,
   0x2028, 0x2029, 0x202F, 0x205F, 0x3000]

/-- Whether Unicode counts the character as white space. -/
def isBlank (c : Char) : Bool := blankCodes.contains c.toNat

example : blankCodes.length = 25 := rfl

/-- What is left of a text once the blanks at both ends are dropped. -/
def trimBoth (cs : List Char) : List Char :=
  ((cs.dropWhile isBlank).reverse.dropWhile isBlank).reverse

/-- The text without the blanks at both ends. -/
def trim (s : String) : String := String.ofList (trimBoth s.toList)

/-- Whether the text holds nothing but blanks. -/
def isBlankText (s : String) : Bool := s.toList.all isBlank

end IncomeTax.Text

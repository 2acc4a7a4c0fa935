import IncomeTax.Text.Blank
import IncomeTax.Text.Letter
import IncomeTax.Text.Numeral

/-!
# Patterns

A pattern is a regular expression over characters: alternatives, sequences, repetitions, groups,
bracketed classes with ranges and set operations, escapes, anchors and flags. Only its form matters
here. A pattern must be one that an automaton without memory can match in well-formed text, so there
are no references to groups, no conditions on what surrounds a match, and no word boundaries outside
ASCII. Nesting has a limit.

Constructs in braces, such as counted repetitions and named classes, are no part of these patterns:
an opening brace is only allowed as a member of a class and after a backslash.

## Main definitions

* `Pattern.Mode` — the flags that change how a pattern is read
* `Pattern.readEscape`, `readClass`, `readGroup` — the parts of a pattern
* `Pattern.isPattern` — whether a text is a pattern
-/

namespace IncomeTax.Text.Pattern

/-- The flags that change how a pattern is read: whether blanks and comments mean nothing, and
whether classes and boundaries are those of Unicode or of ASCII. -/
structure Mode where
  verbose : Bool
  unicode : Bool
  deriving DecidableEq

/-- How a pattern is read before any flag is set. -/
def Mode.plain : Mode := ⟨false, true⟩

/-- Drops blanks, and comments from a number sign to the end of the line. -/
def dropIgnored (inComment : Bool) : List Char → List Char
  | [] => []
  | c :: cs =>
    if inComment then dropIgnored (c != '\n') cs
    else if isBlank c then dropIgnored false cs
    else if c == '#' then dropIgnored true cs
    else c :: cs

/-- What is left of the text once all that means nothing in front is dropped. -/
def Mode.skip (mode : Mode) (cs : List Char) : List Char :=
  if mode.verbose then dropIgnored false cs else cs

/-- The character that decides whether a hyphen in a class stands for itself. -/
def Mode.peek? (mode : Mode) (cs : List Char) : Option Char :=
  if mode.verbose then
    match cs.dropWhile isBlank with
    | '#' :: rest => (rest.dropWhile isBlank).head?
    | rest => rest.head?
  else cs.head?

/-! ### Escapes -/

/-- What one character or escape stands for: itself, or a class of characters, or a place. -/
inductive Atom where
  | char (c : Char)
  | charClass
  | place
  deriving DecidableEq

/-- Reads hexadecimal digits, between which a verbose pattern can have blanks. -/
def readHex (mode : Mode) (n : Nat) : (count : Nat) → List Char → Option (Nat × List Char)
  | 0, cs => some (n, cs)
  | _ + 1, [] => none
  | count + 1, c :: cs =>
    match hexDigit? c with
    | some d => readHex mode (16 * n + d) count (mode.skip cs)
    | none => none

/-- Reads the code point of an escape. In ASCII mode two digits stand for a byte, which must be
ASCII. -/
def readCodePoint (mode : Mode) (digits : Nat) (cs : List Char) : Option (Atom × List Char) := do
  let (n, rest) ← readHex mode 0 digits (mode.skip cs)
  if digits = 2 && !mode.unicode && 0x80 ≤ n then none
  else if n.isValidChar then some (.char (Char.ofNat n), rest)
  else none

/-- The characters that stand for themselves after a backslash: all of ASCII but letters, digits and
angle brackets. -/
def isEscapable (c : Char) : Bool := c.toNat < 0x80 && !c.isAlphanum && c != '<' && c != '>'

/-- The first letters of the general categories of Unicode, in either case. -/
def categoryLetters : List Char := ['c', 'l', 'm', 'n', 'p', 's', 'z']

/-- Reads what follows a backslash. -/
def readEscape (mode : Mode) : List Char → Option (Atom × List Char)
  | [] => none
  | c :: cs =>
    match c with
    | 'x' => readCodePoint mode 2 cs
    | 'u' => readCodePoint mode 4 cs
    | 'U' => readCodePoint mode 8 cs
    | 'p' | 'P' =>
      match mode.skip cs with
      | [] => none
      | letter :: rest =>
        if mode.unicode && categoryLetters.contains letter.toLower then
          some (.charClass, mode.skip rest)
        else none
    | 'd' | 's' | 'w' => some (.charClass, cs)
    -- The complement of an ASCII class has bytes that are no text.
    | 'D' | 'S' | 'W' => if mode.unicode then some (.charClass, cs) else none
    | 'a' => some (.char '\x07', cs)
    | 'f' => some (.char '\x0c', cs)
    | 't' => some (.char '\t', cs)
    | 'n' => some (.char '\n', cs)
    | 'r' => some (.char '\r', cs)
    | 'v' => some (.char '\x0b', cs)
    | 'A' | 'z' => some (.place, cs)
    -- A boundary of words in Unicode needs more memory than an automaton has.
    | 'b' | 'B' | '<' | '>' => if mode.unicode then none else some (.place, cs)
    | _ => if isEscapable c then some (.char c, cs) else none

/-! ### Bracketed classes -/

/-- How deeply an expression is nested that holds others, of the given depths: a single one counts
as itself. -/
def depthOf : List Nat → Nat
  | [] => 0
  | [depth] => depth
  | depths => 1 + depths.foldl max 0

/-- A bracket that is open: the depths of the members before it in the bracket around it, and the
depth of what stands before the last set operation there. -/
structure ClassFrame where
  members : List Nat
  left : Option Nat
  deriving DecidableEq

/-- The depth of the members read so far, as the right side of the last set operation. -/
def ClassFrame.depth (frame : ClassFrame) : Nat :=
  match frame.left with
  | none => depthOf frame.members
  | some left => 1 + max left (depthOf frame.members)

/-- The frame with one more member. -/
def ClassFrame.add (frame : ClassFrame) (depth : Nat) : ClassFrame :=
  { frame with members := depth :: frame.members }

/-- Reads hyphens at the start of a class, where they stand for themselves. -/
def readHyphens (mode : Mode) (frame : ClassFrame) : (fuel : Nat) → List Char →
    ClassFrame × List Char
  | fuel + 1, '-' :: cs => readHyphens mode (frame.add 0) fuel (mode.skip cs)
  | _, cs => (frame, cs)

/-- Reads the start of a class after its opening bracket: a caret, hyphens, and a closing bracket as
the first member. In ASCII mode there are no complements. -/
def openClass (mode : Mode) (cs : List Char) : Option (ClassFrame × List Char) :=
  let (negated, cs) := match mode.skip cs with
    | '^' :: rest => (true, mode.skip rest)
    | rest => (false, rest)
  if negated && !mode.unicode then none
  else
    let (frame, cs) := readHyphens mode ⟨[], none⟩ cs.length cs
    match cs with
    | ']' :: rest =>
      if frame.members.isEmpty then some (frame.add 0, mode.skip rest) else some (frame, cs)
    | _ => some (frame, cs)

/-- The names of the classes of ASCII. -/
def asciiClassNames : List String :=
  ["alnum", "alpha", "ascii", "blank", "cntrl", "digit", "graph", "lower", "print", "punct",
    "space", "upper", "word", "xdigit"]

/-- Reads a named class of ASCII after its opening bracket, such as `:alpha:]`: whether it is a
complement, and what follows. -/
def readNamedClass? : List Char → Option (Bool × List Char)
  | ':' :: cs =>
    let (negated, cs) := match cs with
      | '^' :: rest => (true, rest)
      | _ => (false, cs)
    match cs.dropWhile (· != ':') with
    | ':' :: ']' :: rest =>
      if asciiClassNames.contains (String.ofList (cs.takeWhile (· != ':'))) then
        some (negated, rest)
      else none
    | _ => none
  | _ => none

/-- Whether what an escape stands for can be a member of a class. A place cannot, and in ASCII mode
all members are ASCII. -/
def Atom.isMember (mode : Mode) : Atom → Bool
  | .char c => mode.unicode || c.toNat < 0x80
  | .charClass => true
  | .place => false

/-- Reads one member of a class. -/
def readMember (mode : Mode) (cs : List Char) : Option (Atom × List Char) :=
  let read := match cs with
    | [] => none
    | '\\' :: rest => readEscape mode rest
    | c :: rest => some (.char c, rest)
  read.filter (·.1.isMember mode)

/-- Reads a member of a class, or a range of characters in ascending order. -/
def readRange (mode : Mode) (cs : List Char) : Option (List Char) := do
  let (first, cs) ← readMember mode cs
  match mode.skip cs with
  | [] => none
  | '-' :: rest =>
    if mode.peek? rest == some ']' || mode.peek? rest == some '-' then some ('-' :: rest)
    else
      let (last, rest) ← readMember mode (mode.skip rest)
      match first, last with
      | .char a, .char b => if a.toNat ≤ b.toNat then some rest else none
      | _, _ => none
  | rest => some rest

/-- Reads a class from inside its outermost bracket to the end of it, with the brackets around the
present one; answers how deeply it is nested. -/
def readMembers (mode : Mode) (frame : ClassFrame) (around : List ClassFrame) :
    (fuel : Nat) → List Char → Option (Nat × List Char)
  | 0, _ => none
  | fuel + 1, cs =>
    match mode.skip cs with
    | [] => none
    | '[' :: rest =>
      match readNamedClass? rest with
      | some (negated, rest) =>
        if negated && !mode.unicode then none
        else readMembers mode (frame.add 0) around fuel rest
      | none =>
        match openClass mode rest with
        | some (inner, rest) => readMembers mode inner (frame :: around) fuel rest
        | none => none
    | ']' :: rest =>
      match around with
      | [] => some (1 + frame.depth, rest)
      | outer :: around => readMembers mode (outer.add (1 + frame.depth)) around fuel rest
    | '&' :: '&' :: rest | '-' :: '-' :: rest | '~' :: '~' :: rest =>
      readMembers mode ⟨[], some frame.depth⟩ around fuel rest
    | rest =>
      match readRange mode rest with
      | some rest => readMembers mode (frame.add 0) around fuel rest
      | none => none

/-- Reads a class after its opening bracket. -/
def readClass (mode : Mode) (cs : List Char) : Option (Nat × List Char) :=
  match openClass mode cs with
  | some (frame, rest) => readMembers mode frame [] (rest.length + 1) rest
  | none => none

/-! ### Groups -/

/-- The flags of a pattern. -/
def flagLetters : List Char := ['i', 'm', 's', 'U', 'u', 'R', 'x']

/-- The mode after a flag is set or cleared. -/
def Mode.set (mode : Mode) (flag : Char) (value : Bool) : Mode :=
  if flag == 'x' then { mode with verbose := value }
  else if flag == 'u' then { mode with unicode := value }
  else mode

/-- Reads flags up to the colon or closing parenthesis that ends them. Flags after a hyphen are
cleared; none is given twice, and the hyphen is not the last of them. -/
def readFlags (mode : Mode) (seen : List Char) : List Char → Option (Mode × List Char × List Char)
  | [] => none
  | c :: cs =>
    if c == ':' || c == ')' then
      if seen.head? == some '-' then none else some (mode, seen, c :: cs)
    else if seen.contains c then none
    else if c == '-' then readFlags mode (c :: seen) cs
    else if flagLetters.contains c then
      readFlags (mode.set c (!seen.contains '-')) (c :: seen) cs
    else none

/-- Reads the name of a group up to the angle bracket that closes it. -/
def readName (name : List Char) : List Char → Option (List Char × List Char)
  | [] => none
  | c :: cs =>
    if c == '>' then if name.isEmpty then none else some (name, cs)
    else if c == '_' || (if name.isEmpty then isLetter c
        else isLetterOrNumeral c || c == '.' || c == '[' || c == ']') then
      readName (c :: name) cs
    else none

/-- What an opening parenthesis begins: a group, with its mode and its name, or a change of mode for
the rest of the group around it. -/
inductive Opening where
  | group (mode : Mode) (name : Option (List Char))
  | flags (mode : Mode)
  deriving DecidableEq

/-- Reads what follows an opening parenthesis. -/
def readGroup (mode : Mode) (cs : List Char) : Option (Opening × List Char) :=
  let named (rest : List Char) := (readName [] rest).map fun (name, rest) =>
    (Opening.group mode (some name), rest)
  match mode.skip cs with
  | '?' :: 'P' :: '<' :: rest => named rest
  | '?' :: '<' :: c :: rest => if c == '=' || c == '!' then none else named (c :: rest)
  | '?' :: rest =>
    match readFlags mode [] rest with
    | some (inner, seen, ')' :: rest) => if seen.isEmpty then none else some (.flags inner, rest)
    | some (inner, _, _ :: rest) => some (.group inner none, rest)
    | _ => none
  | rest => some (.group mode none, rest)

/-! ### Sequences and alternatives -/

/-- A part of a sequence: an expression with the depth of its nesting, or a change of mode. -/
inductive Part where
  | expression (depth : Nat)
  | flags
  deriving DecidableEq

/-- The depth of a part. -/
def Part.depth : Part → Nat
  | .expression depth => depth
  | .flags => 0

/-- A group that is open: the mode around it, the depths of its finished alternatives, and the parts
of the present one, the last first. -/
structure Frame where
  outer : Mode
  alternatives : List Nat
  parts : List Part
  deriving DecidableEq

/-- The frame with one more part. -/
def Frame.add (frame : Frame) (part : Part) : Frame := { frame with parts := part :: frame.parts }

/-- The frame at the start of its next alternative. -/
def Frame.next (frame : Frame) : Frame :=
  { frame with
    alternatives := depthOf (frame.parts.map Part.depth) :: frame.alternatives
    parts := [] }

/-- The depth of all alternatives. -/
def Frame.depth (frame : Frame) : Nat := depthOf frame.next.alternatives

/-- The frame with its last expression repeated; a change of mode cannot be. -/
def Frame.repeatLast? (frame : Frame) : Option Frame :=
  match frame.parts with
  | .expression depth :: parts => some { frame with parts := .expression (depth + 1) :: parts }
  | _ => none

/-- The greatest depth. -/
def maxDepth : Nat := 250

/-- Reads the rest of a pattern, in the present group and with the groups around it; answers how
deeply it is nested. No two groups have one name. -/
def readParts (mode : Mode) (names : List (List Char)) (frame : Frame) (around : List Frame) :
    (fuel : Nat) → List Char → Option Nat
  | 0, _ => none
  | fuel + 1, cs =>
    let goOn (frame : Frame) (rest : List Char) := readParts mode names frame around fuel rest
    match mode.skip cs with
    | [] => if around.isEmpty then some frame.depth else none
    | '(' :: rest =>
      match readGroup mode rest with
      | some (.flags inner, rest) => readParts inner names (frame.add .flags) around fuel rest
      | some (.group inner name, rest) =>
        if name.any names.contains then none
        else readParts inner (name.toList ++ names) ⟨mode, [], []⟩ (frame :: around) fuel rest
      | none => none
    | ')' :: rest =>
      match around with
      | [] => none
      | outer :: around =>
        readParts frame.outer names (outer.add (.expression (1 + frame.depth))) around fuel rest
    | '|' :: rest => goOn frame.next rest
    | '[' :: rest =>
      match readClass mode rest with
      | some (depth, rest) => goOn (frame.add (.expression depth)) rest
      | none => none
    | '\\' :: rest =>
      match readEscape mode rest with
      | some (_, rest) => goOn (frame.add (.expression 0)) rest
      | none => none
    | c :: rest =>
      if c == '?' || c == '*' || c == '+' then
        match frame.repeatLast? with
        | some frame => goOn frame (match rest with
          | '?' :: rest => rest
          | _ => rest)
        | none => none
      -- In ASCII mode the point would stand for bytes that are no text.
      else if c == '\x7b' || (c == '.' && !mode.unicode) then none
      else goOn (frame.add (.expression 0)) rest

/-- Whether the text is a pattern. -/
def isPattern (cs : List Char) : Bool :=
  (readParts .plain [] ⟨.plain, [], []⟩ [] (cs.length + 1) cs).any (· ≤ maxDepth)

example : isPattern "(?i)[a-z_]+(\\d|é)*?$".toList = true := by decide +kernel

example : isPattern "a|*".toList = false ∧ isPattern "(a".toList = false := by decide +kernel

example : isPattern "[z-a]".toList = false ∧ isPattern "(a)\\1".toList = false := by decide +kernel

end IncomeTax.Text.Pattern

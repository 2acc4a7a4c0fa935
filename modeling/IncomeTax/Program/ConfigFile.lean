import IncomeTax.Text.Numeral

/-!
# Configuration files

A configuration file is a TOML document of at most one setting for each of five keys; any other key,
and a value of another type than the key asks for, makes the file invalid. Values are truth values
and the four kinds of strings: basic ones with escapes and literal ones without, each on one line
or, between three quotes, on several.

## Main definitions

* `ConfigValue` — a truth value or a string
* `ConfigFile` — the five settings
* `ConfigFile.parse?` — the settings of a text
-/

namespace IncomeTax

/-- A value in a configuration file. -/
inductive ConfigValue where
  | flag (b : Bool)
  | text (s : String)
  deriving DecidableEq

namespace ConfigValue

/-- Whether the character may stand in a comment or, apart from quotes, in a string of one line. -/
def isPlain (c : Char) : Bool := c == '\t' || (0x20 ≤ c.toNat && c.toNat != 0x7F)

/-- Whether the character is a blank within a line. -/
def isSpace (c : Char) : Bool := c == ' ' || c == '\t'

/-- The rest of a text after the end of a line, if it starts with one. -/
def lineEnd? : List Char → Option (List Char)
  | '\n' :: rest => some rest
  | '\r' :: '\n' :: rest => some rest
  | _ => none

/-- The character of a code point written in hexadecimal. -/
def codePoint? (digits : List Char) : Option Char := do
  let n ← Text.hexadecimal? digits
  if n.isValidChar then some (Char.ofNat n) else none

/-- The character named by a letter after a backslash. -/
def escaped? : Char → Option Char
  | 'b' => some '\x08'
  | 't' => some '\t'
  | 'n' => some '\n'
  | 'f' => some '\x0c'
  | 'r' => some '\r'
  | '"' => some '"'
  | '\\' => some '\\'
  | _ => none

/-- Reads what follows a backslash: a letter, or four or eight hexadecimal digits. -/
def readEscape : List Char → Option (Char × List Char)
  | 'u' :: rest =>
    if rest.length < 4 then none else (codePoint? (rest.take 4)).map fun c => (c, rest.drop 4)
  | 'U' :: rest =>
    if rest.length < 8 then none else (codePoint? (rest.take 8)).map fun c => (c, rest.drop 8)
  | c :: rest => (escaped? c).map fun c => (c, rest)
  | [] => none

/-- Reads a string of one line up to its closing quote. -/
def readLine (quote : Char) (escapes : Bool) :
    (fuel : Nat) → List Char → Option (List Char × List Char)
  | 0, _ => none
  | _, [] => none
  | fuel + 1, c :: cs =>
    if c == quote then some ([], cs)
    else if escapes && c == '\\' then do
      let (c, rest) ← readEscape cs
      (readLine quote escapes fuel rest).map fun (s, rest) => (c :: s, rest)
    else if isPlain c then (readLine quote escapes fuel cs).map fun (s, rest) => (c :: s, rest)
    else none

/-- Drops blanks and line ends. -/
def skipLines : (fuel : Nat) → List Char → List Char
  | 0, cs => cs
  | fuel + 1, cs =>
    match lineEnd? cs, cs with
    | some rest, _ => skipLines fuel rest
    | none, c :: rest => if isSpace c then skipLines fuel rest else cs
    | none, [] => []

/-- Reads a string of several lines up to its three closing quotes, before which one or two more may
stand. A backslash at the end of a line drops all blanks and line ends after it. -/
def readLines (quote : Char) (escapes : Bool) :
    (fuel : Nat) → List Char → Option (List Char × List Char)
  | 0, _ => none
  | _, [] => none
  | fuel + 1, c :: cs =>
    if c == quote && cs.take 2 == [quote, quote] then
      -- Up to two quotes may stand right before the closing ones and belong to the string.
      let more := ((cs.drop 2).take 2).takeWhile (· == quote)
      some (more, cs.drop (2 + more.length))
    else if escapes && c == '\\' then
      match lineEnd? (cs.dropWhile isSpace) with
      | some rest => readLines quote escapes fuel (skipLines rest.length rest)
      | none => do
        let (c, rest) ← readEscape cs
        (readLines quote escapes fuel rest).map fun (s, rest) => (c :: s, rest)
    else
      match lineEnd? (c :: cs) with
      | some rest => (readLines quote escapes fuel rest).map fun (s, rest) => ('\n' :: s, rest)
      | none =>
        if isPlain c then (readLines quote escapes fuel cs).map fun (s, rest) => (c :: s, rest)
        else none

/-- Reads a string that starts with the given quote. -/
def readString (quote : Char) (escapes : Bool) (cs : List Char) :
    Option (String × List Char) := do
  let (s, rest) ←
    if cs.take 2 == [quote, quote] then
      let contents := cs.drop 2
      readLines quote escapes (contents.length + 1) ((lineEnd? contents).getD contents)
    else readLine quote escapes (cs.length + 1) cs
  return (String.ofList s, rest)

/-- Reads a value. -/
def read? : List Char → Option (ConfigValue × List Char)
  | 't' :: 'r' :: 'u' :: 'e' :: rest => some (.flag true, rest)
  | 'f' :: 'a' :: 'l' :: 's' :: 'e' :: rest => some (.flag false, rest)
  | '"' :: rest => (readString '"' true rest).map fun (s, rest) => (.text s, rest)
  | '\x27' :: rest => (readString '\x27' false rest).map fun (s, rest) => (.text s, rest)
  | _ => none

/-- Whether the character may stand in a key without quotes. -/
def isKeyChar (c : Char) : Bool := c.isAlphanum || c == '_' || c == '-'

/-- Reads a key, which may be quoted. -/
def readKey? : List Char → Option (String × List Char)
  | '"' :: rest => (readLine '"' true (rest.length + 1) rest).map fun (s, rest) =>
    (String.ofList s, rest)
  | '\x27' :: rest => (readLine '\x27' false (rest.length + 1) rest).map fun (s, rest) =>
    (String.ofList s, rest)
  | cs =>
    let key := cs.takeWhile isKeyChar
    if key.isEmpty then none else some (String.ofList key, cs.drop key.length)

/-- Reads the rest of a line: blanks and a comment, up to its end or that of the text. -/
def readRest? (cs : List Char) : Option (List Char) :=
  let cs := cs.dropWhile isSpace
  let cs := match cs with
    | '#' :: rest => rest.dropWhile isPlain
    | _ => cs
  if cs.isEmpty then some [] else lineEnd? cs

/-- Reads the keys and values of all lines. -/
def readAll? : (fuel : Nat) → List Char → Option (List (String × ConfigValue))
  | 0, _ => none
  | fuel + 1, cs =>
    let cs := cs.dropWhile isSpace
    if cs.isEmpty then some []
    else
      match readRest? cs with
      | some rest => readAll? fuel rest
      | none => do
        let (key, rest) ← readKey? cs
        match rest.dropWhile isSpace with
        | '=' :: rest =>
          let (value, rest) ← read? (rest.dropWhile isSpace)
          let rest ← readRest? rest
          return (key, value) :: (← readAll? fuel rest)
        | _ => none

end ConfigValue

/-- The settings of a configuration file. -/
structure ConfigFile where
  rateTables : Option String
  sourceBackend : Option String
  quarantine : Option Bool
  logLevel : Option String
  logFile : Option String
  deriving DecidableEq

namespace ConfigFile

/-- The file without settings. -/
def empty : ConfigFile := ⟨none, none, none, none, none⟩

/-- Adds a setting, unless the key is unknown, already set, or asks for a value of another type. -/
def add? (file : ConfigFile) (entry : String × ConfigValue) : Option ConfigFile :=
  match entry with
  | ("rate_tables", .text s) =>
    if file.rateTables.isSome then none else some { file with rateTables := some s }
  | ("source_backend", .text s) =>
    if file.sourceBackend.isSome then none else some { file with sourceBackend := some s }
  | ("quarantine", .flag b) =>
    if file.quarantine.isSome then none else some { file with quarantine := some b }
  | ("log_level", .text s) =>
    if file.logLevel.isSome then none else some { file with logLevel := some s }
  | ("log_file", .text s) =>
    if file.logFile.isSome then none else some { file with logFile := some s }
  | _ => none

/-- The settings of a text, if it is a valid configuration file. -/
def parse? (s : String) : Option ConfigFile := do
  -- A byte order mark at the start is no part of the file.
  let cs := match s.toList with
    | '\uFEFF' :: rest => rest
    | cs => cs
  let entries ← ConfigValue.readAll? (cs.length + 1) cs
  entries.foldlM add? empty

example : parse? "quarantine = true # both" = some { empty with quarantine := some true } := by
  decide +kernel

example : parse? "rate_tables = 5" = none := by decide +kernel

end ConfigFile

end IncomeTax

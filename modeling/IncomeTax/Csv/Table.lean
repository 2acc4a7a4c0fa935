import IncomeTax.Csv.Cell

/-!
# Tables in comma-separated files

The first row of a file names its columns, in any order; columns with other names are ignored. Every
row has as many cells as the first. Blanks around names and cells do not count.

A table is described by its columns, each with its name, the effect of a cell on the row that is
being read, and whether the column may be missing. When the first row is no text, columns are found
by their place instead.

## Main definitions

* `Csv.Column`, `Csv.Layout` — the columns of a table
* `Csv.FileError` — why a file cannot be read, with its wording
* `Csv.Layout.read` — the rows of a file
-/

namespace IncomeTax.Csv

/-- A column of a table whose rows have type `ρ`. The cell's own place is needed for its errors. A
column can be missing from the names, and some can also be missing from the end of a row when
columns are found by their place. -/
structure Column (ρ : Type) where
  name : String
  mayBeUnnamed : Bool
  mayBeCutOff : Bool
  read : (column : Nat) → String → Except CellError (ρ → ρ)

/-- The columns of a table in order, a row that is still to be filled, and what a row is called in
errors. -/
structure Layout (ρ : Type) where
  columns : List (Column ρ)
  blank : ρ
  rowName : String

/-- Why a file cannot be read. -/
inductive FileError where
  | unequalLengths (position : Position) (found expected : Nat)
  | notText (position : Position) (column byte : Nat)
  | cells (position : Position) (e : CellError)
  deriving DecidableEq

/-- The wording of the error. -/
def FileError.message : FileError → String
  | .unequalLengths p found expected =>
    "CSV error: record " ++ toString p.record ++ " (line: " ++ toString p.line ++ ", byte: " ++
      toString p.byte ++ "): found record with " ++ toString found ++
      " fields, but the previous record has " ++ toString expected ++ " fields"
  | .notText p column byte =>
    "CSV parse error: record " ++ toString p.record ++ " (line " ++ toString p.line ++
      ", field: " ++ toString column ++ ", byte: " ++ toString p.byte ++
      "): invalid utf-8: invalid UTF-8 in field " ++ toString column ++ " near byte index " ++
      toString byte
  | .cells p e =>
    "CSV deserialize error: record " ++ toString p.record ++ " (line: " ++ toString p.line ++
      ", byte: " ++ toString p.byte ++ "): " ++ e.message

/-- Whether the byte is a blank of ASCII. -/
def isBlankByte (b : UInt8) : Bool := b == 32 || b == 9 || b == 10 || b == 12 || b == 13

/-- The bytes without the blanks of ASCII at both ends. -/
def trimBytes (bytes : List UInt8) : List UInt8 :=
  ((bytes.dropWhile isBlankByte).reverse.dropWhile isBlankByte).reverse

/-- The trimmed texts of cells; fails with the place of the first cell that is no text, and the
number of bytes before the fault in it. -/
def cellTexts (column : Nat) : List (List UInt8) → Except (Nat × Nat) (List String)
  | [] => .ok []
  | cell :: rest =>
    match Text.ofUtf8 (trimBytes cell) with
    | .error byte => .error (column, byte)
    | .ok s => (cellTexts (column + 1) rest).map (Text.trim s :: ·)

namespace Layout

variable {ρ : Type}

/-- Fills a row from named cells, from left to right; `seen` holds the names so far. -/
def fillNamed (layout : Layout ρ) (seen : List String) (column : Nat) (row : ρ) :
    List (String × String) → Except CellError (ρ × List String)
  | [] => .ok (row, seen)
  | (name, cell) :: rest =>
    match layout.columns.find? (·.name == name) with
    | none => layout.fillNamed seen (column + 1) row rest
    | some c =>
      -- The second column of a name is a fault even when its cell could be read.
      if seen.contains name then .error (.duplicateColumn name)
      else
        match c.read column cell with
        | .error e => .error e
        | .ok fill => layout.fillNamed (name :: seen) (column + 1) (fill row) rest

/-- Reads a row whose cells have names. -/
def readNamed (layout : Layout ρ) (names cells : List String) : Except CellError ρ := do
  let (row, seen) ← layout.fillNamed [] 0 layout.blank (names.zip cells)
  match layout.columns.find? fun c => !c.mayBeUnnamed && !seen.contains c.name with
  | some c => .error (.missingColumn c.name)
  | none => .ok row

/-- Fills a row from cells in the order of the columns. -/
def fillPlaced (layout : Layout ρ) (column : Nat) (row : ρ) :
    List (Column ρ) → List String → Except CellError ρ
  | [], _ => .ok row
  | c :: columns, [] =>
    if c.mayBeCutOff then layout.fillPlaced (column + 1) row columns []
    else
      .error (.shortRow column ("struct " ++ layout.rowName ++ " with " ++
        toString layout.columns.length ++ " elements"))
  | c :: columns, cell :: cells =>
    match c.read column cell with
    | .error e => .error e
    | .ok fill => layout.fillPlaced (column + 1) (fill row) columns cells

/-- Reads one row, given the names of the first row if it is a text and the number of its cells. -/
def readRow (layout : Layout ρ) (names : Option (List String)) (width : Nat) (row : Row) :
    Except FileError ρ :=
  if row.cells.length ≠ width then
    .error (.unequalLengths row.position row.cells.length width)
  else
    match cellTexts 0 row.cells with
    | .error (column, byte) => .error (.notText row.position column byte)
    | .ok cells =>
      (match names with
        | some names => layout.readNamed names cells
        | none => layout.fillPlaced 0 layout.blank layout.columns cells).mapError
          (FileError.cells row.position)

/-- Reads the rows of a file, up to the first one that cannot be read. -/
def read (layout : Layout ρ) (bytes : List UInt8) : Except FileError (List ρ) :=
  match rows bytes with
  | [] => .ok []
  | header :: rest =>
    rest.mapM (layout.readRow (cellTexts 0 header.cells).toOption header.cells.length)

end Layout

end IncomeTax.Csv

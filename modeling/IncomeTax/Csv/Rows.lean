/-!
# Rows of comma-separated files

A file is a sequence of rows, each a list of cells of bytes. Cells are separated by commas, and rows
end at a line feed or a carriage return; empty lines are no rows. A cell whose very first byte is a
quote runs to the next quote that is not doubled, whatever stands between. A quote that is never
closed runs to the end of the file. A byte order mark at the start of the file is skipped.

A row has a position: its number, counted from zero, the offset of the byte after the one that ended
the row before, and the line on which that byte stands.

## Main definitions

* `Csv.Row`, `Csv.Position` — the cells of a row, and where it starts
* `Csv.rows` — the rows of a file
-/

namespace IncomeTax.Csv

/-- Where a row starts. -/
structure Position where
  record : Nat
  line : Nat
  byte : Nat
  deriving DecidableEq

/-- A row, as bytes. -/
structure Row where
  position : Position
  cells : List (List UInt8)
  deriving DecidableEq

/-- Where in a row the next byte stands. -/
inductive Place where
  | beforeRow
  | cellStart
  | unquoted
  | quoted
  | afterQuote
  deriving DecidableEq

/-- What has been read of a file: the place of the next byte, the bytes of the current cell and the
cells of the current row before it, both backwards, the rows before it, also backwards, and the
position of the current and of the next byte. -/
structure Scan where
  place : Place
  cell : List UInt8
  cells : List (List UInt8)
  rows : List Row
  start : Position
  line : Nat
  byte : Nat

namespace Scan

/-- The scan at the offset where the contents of a file start. -/
def atStart (offset : Nat) : Scan :=
  ⟨.beforeRow, [], [], [], ⟨0, 1, 0⟩, 1, offset⟩

/-- Adds a byte to the current cell. -/
def take (s : Scan) (place : Place) (b : UInt8) : Scan :=
  { s with place, cell := b :: s.cell }

/-- Ends the current cell. -/
def endCell (s : Scan) : Scan :=
  { s with place := .cellStart, cell := [], cells := s.cell.reverse :: s.cells }

/-- Ends the current row, together with its last cell. -/
def endRow (s : Scan) : Scan :=
  { s with
    place := .beforeRow
    cell := []
    cells := []
    rows := ⟨s.start, (s.cell.reverse :: s.cells).reverse⟩ :: s.rows
    start := ⟨s.start.record + 1, s.line, s.byte⟩ }

/-- Reads a byte that is not kept as it is by a quote. -/
def plain (s : Scan) (b : UInt8) : Scan :=
  if b == 44 then s.endCell
  else if b == 10 || b == 13 then s.endRow
  else s.take .unquoted b

/-- Reads a byte at the start of a cell. -/
def opening (s : Scan) (b : UInt8) : Scan :=
  if b == 34 then { s with place := .quoted } else s.plain b

/-- Reads the next byte. -/
def step (s : Scan) (b : UInt8) : Scan :=
  let s := { s with line := if b == 10 then s.line + 1 else s.line, byte := s.byte + 1 }
  match s.place with
  -- Line ends before a row are empty lines, or the second half of one.
  | .beforeRow => if b == 10 || b == 13 then s else s.opening b
  | .cellStart => s.opening b
  | .unquoted => s.plain b
  | .quoted => if b == 34 then { s with place := .afterQuote } else s.take .quoted b
  -- A doubled quote stands for one; after a single one the cell goes on without quotes.
  | .afterQuote => if b == 34 then s.take .quoted b else s.plain b

/-- The rows once the file has ended. -/
def finish (s : Scan) : List Row :=
  (if s.place = .beforeRow then s.rows else s.endRow.rows).reverse

end Scan

/-- The rows of a file. -/
def rows (bytes : List UInt8) : List Row :=
  match bytes with
  | 0xEF :: 0xBB :: 0xBF :: rest => (rest.foldl Scan.step (Scan.atStart 3)).finish
  | _ => (bytes.foldl Scan.step (Scan.atStart 0)).finish

example : (rows "a,b\n\n1,\"x,\"\"y\"".toUTF8.toList).map (·.position) =
    [⟨0, 1, 0⟩, ⟨1, 2, 4⟩] := by decide +kernel

end IncomeTax.Csv

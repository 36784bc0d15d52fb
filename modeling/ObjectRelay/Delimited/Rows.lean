/-!
# Rows of cells

Cells are separated by one byte and rows by a line feed, a carriage return, or
both.  Lines without anything on them are passed over.  A cell that begins with a
quote lasts to the next quote that is not doubled and may hold anything; what
stands between that quote and the next separator is taken as it is, and so is a
quote inside a cell that does not begin with one.
-/
namespace ObjectRelay.Delimited

inductive RowPhase where
  | between
  /-- At the beginning of a cell that is not the first of its row. -/
  | cellStart
  /-- In a cell without quotes, or behind the closing quote. -/
  | bare
  | quoted
  /-- Behind a quote that closes the cell unless it is doubled. -/
  | quote
deriving DecidableEq, Repr

/-- The reader of rows: the bytes of the cell being read and the finished cells of the
row, all last first. -/
structure RowReader where
  phase : RowPhase := .between
  cell : List UInt8 := []
  cells : List (List UInt8) := []

/-- A row: the bytes of its cells. -/
abbrev Row := List (List UInt8)

def quoteByte : UInt8 := 0x22

def isLineEnd (b : UInt8) : Bool := b == 0x0A || b == 0x0D

namespace RowReader

def row (r : RowReader) : Row := (r.cell.reverse :: r.cells).reverse

/-- Goes on in `phase` with `b` as part of the cell. -/
def take (r : RowReader) (phase : RowPhase) (b : UInt8) : RowReader :=
  { r with phase, cell := b :: r.cell }

/-- Reads a byte that may end the cell. -/
def cellByte (separator : UInt8) (r : RowReader) (b : UInt8) : Option Row × RowReader :=
  if b == separator then
    (none, { phase := .cellStart, cell := [], cells := r.cell.reverse :: r.cells })
  else if isLineEnd b then (some r.row, {})
  else (none, r.take .bare b)

/-- Reads one byte; a row is given out with the byte that ends it. -/
def step (separator : UInt8) (r : RowReader) (b : UInt8) : Option Row × RowReader :=
  match r.phase with
  | .between =>
    if isLineEnd b then (none, r)
    else if b == quoteByte then (none, { r with phase := .quoted })
    else cellByte separator r b
  | .cellStart =>
    if b == quoteByte then (none, { r with phase := .quoted }) else cellByte separator r b
  | .bare => cellByte separator r b
  | .quoted =>
    if b == quoteByte then (none, { r with phase := .quote }) else (none, r.take .quoted b)
  | .quote => if b == quoteByte then (none, r.take .quoted b) else cellByte separator r b

/-- The row that the end of the bytes ends, if one has begun. -/
def finish (r : RowReader) : Option Row := match r.phase with
  | .between => none
  | _ => some r.row

end RowReader

end ObjectRelay.Delimited

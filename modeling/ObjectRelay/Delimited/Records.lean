import ObjectRelay.Delimited.Rows
import ObjectRelay.Record.Decoder
/-!
# Records from rows

A row becomes a record by giving its cells names: those of the first row, when
there is one, or a fixed list.  Empty cells are left out.  Below a header every row
must have as many cells as the header; a fixed list names as many as there are.
-/
namespace ObjectRelay.Delimited

def texts? (row : Row) : Option (List String) := row.mapM Utf8.decode?

/-- The record of a row: its cells that are not empty, under their names. -/
def recordOf (names cells : List String) : Record :=
  .objectOf (((names.zip cells).filter fun p => p.2 != "").map fun (n, c) => (n, .string c))

/-- The record of a row of at most `names`, or the fault of a row that is not text. -/
def record (names : List String) (row : Row) : Except DecodeError Record :=
  match texts? row with
  | some cells => .ok (recordOf names cells)
  | none => .error (.rows .notText)

/-- What a reader below a header knows of it. -/
inductive Header where
  | awaited
  | known (names : List String)

/-- What a finished row means below a header, or as one. -/
def underHeader (header : Header) (row : Row) : List Record × Except DecodeError Header :=
  match header with
  | .awaited => match texts? row with
    | some names => ([], .ok (.known names))
    | none => ([], .error (.rows .notText))
  | .known names =>
    if row.length != names.length then
      ([], .error (.rows (.unequalLengths names.length row.length)))
    else match record names row with
      | .ok r => ([r], .ok (.known names))
      | .error e => ([], .error e)

def headed (separator : UInt8) : RecordDecoder where
  State := Header × RowReader
  start := (.awaited, {})
  step := fun (header, rows) b =>
    match rows.step separator b with
    | (none, rows) => ([], .ok (header, rows))
    | (some row, rows) =>
      let (records, next) := underHeader header row
      (records, next.map fun header => (header, rows))
  finish := fun (header, rows) =>
    match (rows.finish.map (underHeader header)).getD ([], .ok header) with
    | (records, .error e) => { records, error := some e }
    | (records, .ok .awaited) => { records, error := some .missingHeader }
    | (records, .ok (.known _)) => { records }
  unreadable := .rows .unreadable

def positional (separator : UInt8) (names : List String) : RecordDecoder where
  State := RowReader
  start := {}
  step := fun rows b =>
    match rows.step separator b with
    | (none, rows) => ([], .ok rows)
    | (some row, rows) => match record names row with
      | .ok r => ([r], .ok rows)
      | .error e => ([], .error e)
  finish := fun rows => match rows.finish with
    | none => { records := [] }
    | some row => match record names row with
      | .ok r => { records := [r] }
      | .error e => { records := [], error := some e }
  unreadable := .rows .unreadable

/-- The pieces of an object without a byte order mark at their beginning.  The mark is
looked for in the first piece only. -/
def withoutMark (pieces : List (List UInt8)) : List (List UInt8) :=
  match pieces with
  | (0xEF :: 0xBB :: 0xBF :: rest) :: others => rest :: others
  | pieces => pieces

end ObjectRelay.Delimited

import ObjectRelay.Delimited.Records
import ObjectRelay.Proofs.Record.Lines
/-!
# Rows come before records

What is below a header is decoded row by row, so it depends on the rows that the bytes hold only: `rowsFrom` are those,
whatever the reader of rows has read before, and `decodeRows` is what a header makes of them (`runFrom_headed`).
-/
namespace ObjectRelay.Delimited

/-! ## Rows -/

namespace RowReader

variable {separator : UInt8} {r next : RowReader} {b : UInt8}

/-- The rows that bytes complete, and the one that their end does. -/
def rowsFrom (separator : UInt8) (r : RowReader) : List UInt8 → List Row
  | [] => r.finish.toList
  | b :: rest => match r.step separator b with
    | (none, next) => rowsFrom separator next rest
    | (some row, next) => row :: rowsFrom separator next rest

theorem rowsFrom_of_step (h : r.step separator b = (none, next)) (rest : List UInt8) :
    r.rowsFrom separator (b :: rest) = next.rowsFrom separator rest := by
  rw [rowsFrom, h]

theorem rowsFrom_of_row {row : Row} (h : r.step separator b = (some row, next)) (rest : List UInt8) :
    r.rowsFrom separator (b :: rest) = row :: next.rowsFrom separator rest := by
  rw [rowsFrom, h]

end RowReader

/-! ## Records below a header -/

/-- What rows decode to below a header, the first of them being one if it is awaited. -/
def decodeRows : Header → List Row → Decoded
  | .awaited, [] => { records := [], error := some .missingHeader }
  | .known _, [] => { records := [] }
  | header, row :: rows => match underHeader header row with
    | (records, .error e) => { records, error := some e }
    | (records, .ok next) => RecordDecoder.prepend records (decodeRows next rows)

section Header

variable {header next : Header} {row : Row} {records : List Record}

theorem decodeRows_cons (h : underHeader header row = (records, .ok next)) (rows : List Row) :
    decodeRows header (row :: rows) = RecordDecoder.prepend records (decodeRows next rows) := by
  rw [decodeRows, h]

/-- Below any row the header is known. -/
theorem exists_names_of_underHeader (h : underHeader header row = (records, .ok next)) :
    ∃ names, next = .known names := by
  unfold underHeader at h
  cases header with
  | awaited =>
    dsimp only at h
    split at h <;> cases h
    exact ⟨_, rfl⟩
  | known names =>
    dsimp only at h
    split at h
    · cases h
    · split at h <;> cases h
      exact ⟨names, rfl⟩

end Header

theorem finish_headed (separator : UInt8) (header : Header) (r : RowReader) :
    (headed separator).finish (header, r) = decodeRows header r.finish.toList := by
  rcases hfinish : r.finish with _ | row
  · cases header <;> simp [headed, hfinish, decodeRows]
  · rcases h : underHeader header row with ⟨records, e | next⟩
    · simp [headed, hfinish, decodeRows, h]
    · obtain ⟨names, rfl⟩ := exists_names_of_underHeader h
      simp [headed, hfinish, decodeRows, h, RecordDecoder.prepend]

/-- **What is below a header is decoded row by row.** -/
theorem runFrom_headed (separator : UInt8) : ∀ (bytes : List UInt8) (header : Header) (r : RowReader),
    (headed separator).runFrom .complete (header, r) bytes = decodeRows header (r.rowsFrom separator bytes)
  | [], header, r => finish_headed separator header r
  | b :: rest, header, r => by
    rcases hstep : r.step separator b with ⟨_ | row, r'⟩
    · have hheaded : (headed separator).step (header, r) b = ([], .ok (header, r')) := by
        simp only [headed, hstep]
      rw [RecordDecoder.runFrom_cons hheaded, RowReader.rowsFrom_of_step hstep, runFrom_headed separator rest header r']
      rfl
    · rw [RowReader.rowsFrom_of_row hstep]
      rcases hrow : underHeader header row with ⟨records, e | next⟩
      · have hheaded : (headed separator).step (header, r) b = (records, .error e) := by
          simp only [headed, hstep, hrow]
          rfl
        rw [RecordDecoder.runFrom_cons_error hheaded, decodeRows, hrow]
      · have hheaded : (headed separator).step (header, r) b = (records, .ok (next, r')) := by
          simp only [headed, hstep, hrow]
          rfl
        rw [RecordDecoder.runFrom_cons hheaded, decodeRows_cons hrow, runFrom_headed separator rest next r']

end ObjectRelay.Delimited

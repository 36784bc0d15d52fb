import ObjectRelay.Record.Format
import ObjectRelay.Proofs.Delimited.Rows
import Mathlib.Tactic.SplitIfs
/-!
# How tables are written

`TableWriting` says which texts write the rows of a table: cells stand between quotes, those inside of them doubled,
or, where nothing in them means anything else, as they are; delimiters separate them; and every row has an end, which
the last one can lack.  Whatever is chosen where, the reader of rows finds the cells again (`rowsFrom_writing`).
-/
namespace ObjectRelay

/-- The character between the cells of a row. -/
def Delimiter.char : Delimiter → Char
  | .comma => ','
  | .space => ' '
  | .tab => '\t'

namespace Delimited

open Utf8 (encodeChar encodeChars encodeChars_append encodeChars_singleton)

def quotedChar (c : Char) : List Char := if c = '"' then ['"', '"'] else [c]

def quoted (cs : List Char) : List Char := '"' :: (cs.flatMap quotedChar ++ ['"'])

/-- Whether no character of a text means anything but itself. -/
def IsPlain (d : Delimiter) (cs : List Char) : Prop := ∀ c ∈ cs, c ≠ '"' ∧ c ≠ d.char ∧ c ≠ '\n' ∧ c ≠ '\r'

-- Through the elements of the list: among the characters there are too many to go through.
instance (d : Delimiter) : DecidablePred (IsPlain d) := fun cs =>
  show Decidable (∀ c ∈ cs, _) from List.decidableBAll (fun c => c ≠ '"' ∧ c ≠ d.char ∧ c ≠ '\n' ∧ c ≠ '\r') cs

/-- **The texts that write a cell** of a table of so many columns. -/
inductive CellWriting (d : Delimiter) (columns : Nat) (cell : String) : List Char → Prop
  | quoted : CellWriting d columns cell (quoted cell.toList)
  /-- A line without anything on it is no row, so an empty cell cannot stand alone. -/
  | bare (hplain : IsPlain d cell.toList) (hne : columns = 1 → cell ≠ "") :
    CellWriting d columns cell cell.toList

/-- **The texts that write the cells of a row.** -/
inductive RowWriting (d : Delimiter) (columns : Nat) : List String → List Char → Prop
  | last {cell text} (h : CellWriting d columns cell text) : RowWriting d columns [cell] text
  | cons {cell text next cells rest} (h : CellWriting d columns cell text)
    (hrest : RowWriting d columns (next :: cells) rest) :
    RowWriting d columns (cell :: next :: cells) (text ++ d.char :: rest)

inductive RowEnd : List Char → Prop
  | lineFeed : RowEnd ['\n']
  | carriageReturn : RowEnd ['\r']
  | both : RowEnd ['\r', '\n']

/-- **The texts that write rows**, one below the other. -/
inductive TableWriting (d : Delimiter) (columns : Nat) : List (List String) → List Char → Prop
  | nil : TableWriting d columns [] []
  | unended {row text} (h : RowWriting d columns row text) : TableWriting d columns [row] text
  | cons {row text rowEnd rows rest} (h : RowWriting d columns row text) (hend : RowEnd rowEnd)
    (hrest : TableWriting d columns rows rest) : TableWriting d columns (row :: rows) (text ++ (rowEnd ++ rest))

/-- No row is written as a line without anything on it. -/
theorem RowWriting.ne_nil {d : Delimiter} {columns : Nat} {cells : List String} {text : List Char}
    (h : RowWriting d columns cells text) (hcolumns : cells.length = columns) : text ≠ [] := by
  cases h with
  | last hcell =>
    cases hcell with
    | quoted => exact List.cons_ne_nil _ _
    | bare _ hne => exact fun hnil => hne hcolumns.symm (String.toList_eq_nil_iff.1 hnil)
  | cons hcell hrest => exact List.append_ne_nil_of_right_ne_nil _ (List.cons_ne_nil _ _)

/-! ## Bytes -/

variable {d : Delimiter}

theorem encodeChars_ne_nil {cs : List Char} (h : cs ≠ []) : encodeChars cs ≠ [] := by
  obtain ⟨c, rest, rfl⟩ := List.exists_cons_of_ne_nil h
  have hchar : encodeChar c ≠ [] := by
    unfold encodeChar
    dsimp only
    split_ifs <;> exact List.cons_ne_nil _ _
  exact List.append_ne_nil_of_left_ne_nil hchar _

theorem encodeChar_char (d : Delimiter) : encodeChar d.char = [d.byte] := by
  cases d <;> rfl

/-- Whether a byte means nothing but itself. -/
structure IsPlainByte (d : Delimiter) (b : UInt8) : Prop where
  ne_quote : (b == quoteByte) = false
  ne_separator : (b == d.byte) = false
  not_isLineEnd : isLineEnd b = false

theorem isPlainByte_of_mem {cs : List Char} (h : IsPlain d cs) : ∀ b ∈ encodeChars cs, IsPlainByte d b := by
  intro b hb
  have hne : ∀ c : Char, c.toNat < 0x80 → (∀ c' ∈ cs, c' ≠ c) → b ≠ c.toNat.toUInt8 := by
    rintro c hc hcs rfl
    exact hcs c ((Utf8.mem_encodeChars_ascii hc).1 hb) rfl
  have hquote := hne '"' (by decide) fun c hc => (h c hc).1
  have hseparator := hne d.char (by cases d <;> decide) fun c hc => (h c hc).2.1
  have hfeed := hne '\n' (by decide) fun c hc => (h c hc).2.2.1
  have hreturn := hne '\r' (by decide) fun c hc => (h c hc).2.2.2
  have hbyte : d.char.toNat.toUInt8 = d.byte := by cases d <;> rfl
  rw [hbyte] at hseparator
  refine ⟨beq_eq_false_iff_ne.2 hquote, beq_eq_false_iff_ne.2 hseparator, ?_⟩
  exact Bool.or_eq_false_iff.2 ⟨beq_eq_false_iff_ne.2 hfeed, beq_eq_false_iff_ne.2 hreturn⟩

theorem separator_ne_quote (d : Delimiter) : (d.byte == quoteByte) = false := by
  cases d <;> rfl

theorem separator_not_isLineEnd (d : Delimiter) : isLineEnd d.byte = false := by
  cases d <;> rfl

namespace RowReader

variable {r next : RowReader} {b : UInt8}

/-! ## Steps -/

/-- Outside of quotes a byte can end the cell; between rows a line end is none. -/
theorem step_eq_cellByte (hphase : r.phase ≠ .quoted) (hquote : (b == quoteByte) = false)
    (hbetween : r.phase = .between → isLineEnd b = false) : r.step d.byte b = cellByte d.byte r b := by
  unfold step
  cases h : r.phase with
  | between => simp only [hbetween h, hquote, if_neg Bool.false_ne_true]
  | quoted => exact absurd h hphase
  | _ => simp only [hquote, if_neg Bool.false_ne_true]

theorem step_plain (h : IsPlainByte d b) (hphase : r.phase ≠ .quoted) : r.step d.byte b = (none, r.take .bare b) := by
  rw [step_eq_cellByte hphase h.ne_quote fun _ => h.not_isLineEnd, cellByte, h.ne_separator, h.not_isLineEnd]
  rfl

theorem step_separator (hphase : r.phase ≠ .quoted) :
    r.step d.byte d.byte = (none, ⟨.cellStart, [], r.cell.reverse :: r.cells⟩) := by
  rw [step_eq_cellByte hphase (separator_ne_quote d) fun _ => separator_not_isLineEnd d, cellByte,
    if_pos (beq_self_eq_true _)]

theorem step_lineEnd (hb : isLineEnd b = true) (hphase : r.phase ≠ .quoted) (hbetween : r.phase ≠ .between) :
    r.step d.byte b = (some r.row, {}) := by
  have hquote : (b == quoteByte) = false := by
    rcases Bool.or_eq_true_iff.1 hb with h | h <;> rw [eq_of_beq h] <;> rfl
  have hseparator : ¬(b == d.byte) = true := by
    intro h
    rw [eq_of_beq h, separator_not_isLineEnd] at hb
    cases hb
  rw [step_eq_cellByte hphase hquote fun h => absurd h hbetween, cellByte, if_neg hseparator, if_pos hb]

/-! ## Cells -/

structure IsBefore (r : RowReader) : Prop where
  cell_eq : r.cell = []
  phase_eq : r.phase = .between ∨ r.phase = .cellStart

/-- The reader goes on within a row, up to a place where the row can end.  It stays between rows only if there is
nothing to read. -/
structure Reads (separator : UInt8) (r : RowReader) (bytes : List UInt8) (next : RowReader) : Prop where
  rows_eq : ∀ rest, r.rowsFrom separator (bytes ++ rest) = next.rowsFrom separator rest
  ne_quoted : next.phase ≠ .quoted
  eq_nil : next.phase = .between → bytes = [] ∧ r.phase = .between

theorem IsBefore.ne_quoted (h : r.IsBefore) : r.phase ≠ .quoted := by
  rcases h.phase_eq with hphase | hphase <;> rw [hphase] <;> decide

theorem reads_plain : ∀ {bytes : List UInt8} {r : RowReader}, (∀ b ∈ bytes, IsPlainByte d b) → r.phase ≠ .quoted →
    ∃ phase, Reads d.byte r bytes ⟨phase, bytes.reverse ++ r.cell, r.cells⟩
  | [], r, _, hphase => ⟨r.phase, fun _ => rfl, hphase, fun h => ⟨rfl, h⟩⟩
  | b :: bytes, r, h, hphase => by
    obtain ⟨hb, hbytes⟩ := List.forall_mem_cons.1 h
    have hbare : (r.take .bare b).phase ≠ .quoted := fun h => nomatch h
    obtain ⟨phase, hreads⟩ := reads_plain hbytes hbare
    refine ⟨phase, fun rest => ?_, hreads.ne_quoted, fun hbetween => nomatch (hreads.eq_nil hbetween).2⟩
    rw [List.cons_append, rowsFrom_of_step (step_plain hb hphase), hreads.rows_eq, List.reverse_cons, List.append_assoc]
    rfl

section Quotes

variable {separator : UInt8} {cells : List (List UInt8)}

theorem rowsFrom_inQuotes (rest : List UInt8) : ∀ {bytes : List UInt8}, quoteByte ∉ bytes → ∀ cell : List UInt8,
    rowsFrom separator ⟨.quoted, cell, cells⟩ (bytes ++ rest) =
      rowsFrom separator ⟨.quoted, bytes.reverse ++ cell, cells⟩ rest
  | [], _, _ => rfl
  | b :: bytes, h, cell => by
    rw [List.mem_cons, not_or] at h
    have hstep : step separator ⟨.quoted, cell, cells⟩ b = (none, ⟨.quoted, b :: cell, cells⟩) :=
      if_neg fun heq => h.1 (eq_of_beq heq).symm
    rw [List.cons_append, rowsFrom_of_step hstep, rowsFrom_inQuotes rest h.2, List.reverse_cons, List.append_assoc]
    rfl

theorem rowsFrom_quotedChars (rest : List UInt8) : ∀ (cs : List Char) (cell : List UInt8),
    rowsFrom separator ⟨.quoted, cell, cells⟩ (encodeChars (cs.flatMap quotedChar) ++ rest) =
      rowsFrom separator ⟨.quoted, (encodeChars cs).reverse ++ cell, cells⟩ rest
  | [], _ => rfl
  | c :: cs, cell => by
    have hchar : encodeChars (c :: cs) = encodeChar c ++ encodeChars cs := rfl
    rw [List.flatMap_cons, encodeChars_append, List.append_assoc, hchar, List.reverse_append, List.append_assoc,
      ← rowsFrom_quotedChars rest cs]
    by_cases hc : c = '"'
    · -- the first quote could close the cell, and the second one takes that back
      rw [quotedChar, if_pos hc, hc]
      rfl
    · have hquote : quoteByte ∉ encodeChars [c] := fun h =>
        hc (List.mem_singleton.1 ((Utf8.mem_encodeChars_ascii (by decide : '"'.toNat < 0x80)).1 h)).symm
      rw [quotedChar, if_neg hc, rowsFrom_inQuotes _ hquote, encodeChars_singleton]

theorem reads_quoted (h : r.IsBefore) (cs : List Char) :
    Reads separator r (encodeChars (quoted cs)) ⟨.quote, (encodeChars cs).reverse, r.cells⟩ := by
  refine ⟨fun rest => ?_, (nomatch ·), (nomatch ·)⟩
  have hopen : r.step separator quoteByte = (none, ⟨.quoted, [], r.cells⟩) := by
    unfold step
    rcases h.phase_eq with hphase | hphase <;> simp [hphase, h.cell_eq, isLineEnd, quoteByte]
  have hbytes : encodeChars (quoted cs) = quoteByte :: (encodeChars (cs.flatMap quotedChar) ++ [quoteByte]) := by
    rw [quoted, ← List.singleton_append, encodeChars_append, encodeChars_append]
    rfl
  rw [hbytes, List.cons_append, rowsFrom_of_step hopen, List.append_assoc, rowsFrom_quotedChars, List.append_nil]
  rfl

end Quotes

theorem reads_cell {columns : Nat} {cell : String} {text : List Char} (h : CellWriting d columns cell text)
    (hr : r.IsBefore) : ∃ phase, Reads d.byte r (encodeChars text) ⟨phase, (Utf8.encode cell).reverse, r.cells⟩ := by
  cases h with
  | quoted => exact ⟨.quote, reads_quoted hr cell.toList⟩
  | bare hplain =>
    have hreads := reads_plain (isPlainByte_of_mem hplain) hr.ne_quoted
    rwa [hr.cell_eq, List.append_nil] at hreads

/-! ## Rows -/

theorem reads_row {columns : Nat} {cells : List String} {text : List Char} (h : RowWriting d columns cells text) :
    ∀ {r : RowReader}, r.IsBefore →
      ∃ next, Reads d.byte r (encodeChars text) next ∧ next.row = r.cells.reverse ++ cells.map Utf8.encode := by
  induction h with
  | last hcell =>
    intro r hr
    obtain ⟨phase, hreads⟩ := reads_cell hcell hr
    exact ⟨_, hreads, by simp [row]⟩
  | @cons cell text other cells rest hcell _ ih =>
    intro r hr
    obtain ⟨phase, hreads⟩ := reads_cell hcell hr
    -- the others are read behind the separator, which puts this cell away
    obtain ⟨next, hnext, hrow⟩ := ih (r := ⟨.cellStart, [], Utf8.encode cell :: r.cells⟩) ⟨rfl, .inr rfl⟩
    refine ⟨next, ⟨fun tail => ?_, hnext.ne_quoted, fun h => nomatch (hnext.eq_nil h).2⟩, ?_⟩
    · have hstep := step_separator (d := d) hreads.ne_quoted
      rw [List.reverse_reverse] at hstep
      have hbytes : encodeChars (text ++ d.char :: rest) = encodeChars text ++ d.byte :: encodeChars rest := by
        rw [← List.singleton_append, encodeChars_append, encodeChars_append, encodeChars_singleton, encodeChar_char,
          List.singleton_append]
      rw [hbytes, List.append_assoc, hreads.rows_eq, List.cons_append, rowsFrom_of_step hstep, hnext.rows_eq]
    · rw [hrow, List.reverse_cons, List.append_assoc]
      rfl

/-! ## Tables -/

theorem reads_whole_row {columns : Nat} {cells : List String} {text : List Char} (h : RowWriting d columns cells text)
    (hcolumns : cells.length = columns) :
    ∃ next, Reads d.byte {} (encodeChars text) next ∧ next.phase ≠ .between ∧ next.row = cells.map Utf8.encode := by
  obtain ⟨next, hreads, hrow⟩ := reads_row h (r := {}) ⟨rfl, .inl rfl⟩
  exact ⟨next, hreads, fun hphase => encodeChars_ne_nil (h.ne_nil hcolumns) (hreads.eq_nil hphase).1, hrow⟩

/-- A row that has been read so far ends with what ends it. -/
theorem rowsFrom_rowEnd {rowEnd : List Char} (h : RowEnd rowEnd) (hphase : r.phase ≠ .quoted)
    (hbetween : r.phase ≠ .between) (rest : List UInt8) :
    r.rowsFrom d.byte (encodeChars rowEnd ++ rest) = r.row :: rowsFrom d.byte {} rest := by
  cases h with
  | lineFeed => exact rowsFrom_of_row (step_lineEnd rfl hphase hbetween) rest
  | carriageReturn => exact rowsFrom_of_row (step_lineEnd rfl hphase hbetween) rest
  | both =>
    -- behind the row its second end is a line without anything on it
    have hsecond : step d.byte {} 0x0A = (none, {}) := rfl
    have hfirst := rowsFrom_of_row (step_lineEnd (d := d) (b := 0x0D) rfl hphase hbetween) (0x0A :: rest)
    rwa [rowsFrom_of_step hsecond] at hfirst

theorem finish_of_ne_between (h : r.phase ≠ .between) : r.finish = some r.row := by
  unfold finish
  split
  · rename_i hphase
    exact absurd hphase h
  · rfl

/-- **What is written as a table is read as its rows.** -/
theorem rowsFrom_writing {columns : Nat} {rows : List (List String)} {text : List Char}
    (h : TableWriting d columns rows text) (hcolumns : ∀ row ∈ rows, row.length = columns) :
    rowsFrom d.byte {} (encodeChars text) = rows.map (·.map Utf8.encode) := by
  induction h with
  | nil => rfl
  | unended hrow =>
    obtain ⟨next, hreads, hphase, hcells⟩ := reads_whole_row hrow (hcolumns _ List.mem_cons_self)
    have hrows := hreads.rows_eq []
    rw [List.append_nil, rowsFrom, finish_of_ne_between hphase, hcells] at hrows
    exact hrows
  | cons hrow hend _ ih =>
    obtain ⟨hfirst, hothers⟩ := List.forall_mem_cons.1 hcolumns
    obtain ⟨next, hreads, hphase, hcells⟩ := reads_whole_row hrow hfirst
    rw [encodeChars_append, encodeChars_append, hreads.rows_eq, rowsFrom_rowEnd hend hreads.ne_quoted hphase, hcells,
      ih hothers, List.map_cons]

end RowReader
end Delimited
end ObjectRelay

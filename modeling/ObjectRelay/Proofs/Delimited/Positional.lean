import ObjectRelay.Proofs.Delimited.Table
/-!
# Names by position and names in a row

A decoder with fixed names makes a record of every row, however many cells it has, and ends at the first row that is not
text (`exists_split_decodeNamed`).  On rows with a cell for each name it does what a decoder below a header does that
reads the names first (`run_headed_of_positional`), so an access log is a table that lacks its row of names
(`decode_accessLog`).
-/
namespace ObjectRelay.Delimited

variable {names : List String}

/-! ## Rows under fixed names -/

/-- What rows decode to under fixed names. -/
def decodeNamed (names : List String) : List Row → Decoded
  | [] => { records := [] }
  | row :: rows => match record names row with
    | .ok r => RecordDecoder.prepend [r] (decodeNamed names rows)
    | .error e => { records := [], error := some e }

/-- **Under fixed names the bytes are decoded row by row.** -/
theorem runFrom_positional (separator : UInt8) (names : List String) : ∀ (bytes : List UInt8) (r : RowReader),
    (positional separator names).runFrom .complete r bytes = decodeNamed names (r.rowsFrom separator bytes)
  | [], r => by
    rw [RowReader.rowsFrom]
    rcases hfinish : r.finish with _ | row
    · simp [RecordDecoder.runFrom, positional, hfinish, decodeNamed]
    · rcases hrow : record names row with e | record <;>
        simp [RecordDecoder.runFrom, positional, hfinish, decodeNamed, hrow, RecordDecoder.prepend]
  | b :: rest, r => by
    rcases hstep : r.step separator b with ⟨_ | row, next⟩
    · have hpositional : (positional separator names).step r b = ([], .ok next) := by
        simp only [positional, hstep]
      rw [RecordDecoder.runFrom_cons hpositional, RowReader.rowsFrom_of_step hstep, runFrom_positional separator names rest]
      rfl
    · rw [RowReader.rowsFrom_of_row hstep, decodeNamed]
      rcases hrow : record names row with e | record
      · have hpositional : (positional separator names).step r b = ([], .error e) := by
          simp only [positional, hstep, hrow]
        rw [RecordDecoder.runFrom_cons_error hpositional]
      · have hpositional : (positional separator names).step r b = ([record], .ok next) := by
          simp only [positional, hstep, hrow]
        rw [RecordDecoder.runFrom_cons hpositional, runFrom_positional separator names rest]

/-- There is a record for each row up to the first one that is not text. -/
theorem exists_split_decodeNamed (hnames : names.Nodup) : ∀ rows : List Row, ∃ read rest, rows = read ++ rest ∧
    List.Forall₂ (fun row record => ∃ cells, texts? row = some cells ∧ Tells names cells record) read
      (decodeNamed names rows).records ∧
    ((decodeNamed names rows).error = none ∧ rest = [] ∨
      (decodeNamed names rows).error = some (.rows .notText) ∧ ∃ row more, rest = row :: more ∧ texts? row = none)
  | [] => ⟨[], [], rfl, .nil, .inl ⟨rfl, rfl⟩⟩
  | row :: rows => by
    cases htexts : texts? row with
    | none =>
      have hrow : record names row = .error (.rows .notText) := by rw [record, htexts]
      refine ⟨[], row :: rows, rfl, ?_, .inr ⟨?_, row, rows, rfl, htexts⟩⟩ <;> rw [decodeNamed, hrow]
      exact .nil
    | some cells =>
      have hrow : record names row = .ok (recordOf names cells) := by rw [record, htexts]
      obtain ⟨read, rest, rfl, hrecords, hend⟩ := exists_split_decodeNamed hnames rows
      rw [decodeNamed, hrow]
      exact ⟨row :: read, rest, rfl, .cons ⟨cells, htexts, tells_recordOf hnames⟩ hrecords, hend⟩

/-! ## Rows below a row of names -/

theorem decodeRows_known_eq_decodeNamed : ∀ {rows : List Row}, (∀ row ∈ rows, row.length = names.length) →
    decodeRows (.known names) rows = decodeNamed names rows
  | [], _ => rfl
  | row :: rows, h => by
    obtain ⟨hlength, hrows⟩ := List.forall_mem_cons.1 h
    rw [decodeNamed]
    cases hrow : record names row with
    | ok r =>
      have hunder : underHeader (.known names) row = ([r], .ok (.known names)) := by simp [underHeader, hlength, hrow]
      rw [decodeRows_cons hunder, decodeRows_known_eq_decodeNamed hrows]
    | error e =>
      have hunder : underHeader (.known names) row = ([], .error e) := by simp [underHeader, hlength, hrow]
      rw [decodeRows, hunder]

/-- The names as a row, with a line feed behind it. -/
def namesLine (d : Delimiter) (names : List String) : List UInt8 :=
  Utf8.encode ((String.singleton d.char).intercalate names ++ "\n")

theorem exists_namesLine_eq (d : Delimiter) (first : String) (rest : List String) :
    ∃ more, namesLine d (first :: rest) = Utf8.encode first ++ more := by
  cases rest with
  | nil =>
    rw [namesLine, String.intercalate_singleton, Utf8.encode, String.toList_append, Utf8.encodeChars_append]
    exact ⟨_, rfl⟩
  | cons next rest =>
    rw [namesLine, String.intercalate_cons_cons, String.append_assoc, String.append_assoc, Utf8.encode,
      String.toList_append, Utf8.encodeChars_append]
    exact ⟨_, rfl⟩

variable {d : Delimiter}

theorem rowWriting_intercalate {columns : Nat} : ∀ {first : String} {rest : List String},
    (∀ name ∈ first :: rest, IsPlain d name.toList ∧ name ≠ "") →
      RowWriting d columns (first :: rest) ((String.singleton d.char).intercalate (first :: rest)).toList
  | first, [], h => by
    obtain ⟨hplain, hne⟩ := h first List.mem_cons_self
    rw [String.intercalate_singleton]
    exact .last (.bare hplain fun _ => hne)
  | first, next :: rest, h => by
    obtain ⟨⟨hplain, hne⟩, hrest⟩ := List.forall_mem_cons.1 h
    have htext : ((String.singleton d.char).intercalate (first :: next :: rest)).toList =
        first.toList ++ d.char :: ((String.singleton d.char).intercalate (next :: rest)).toList := by
      rw [String.intercalate_cons_cons]
      simp
    rw [htext]
    exact .cons (.bare hplain fun _ => hne) (rowWriting_intercalate hrest)

/-- **The row of names is read as the names**, and what is behind it as if nothing had been read. -/
theorem rowsFrom_namesLine (hnames : names ≠ []) (hplain : ∀ name ∈ names, IsPlain d name.toList ∧ name ≠ "")
    (body : List UInt8) : RowReader.rowsFrom d.byte {} (namesLine d names ++ body) =
      names.map Utf8.encode :: RowReader.rowsFrom d.byte {} body := by
  obtain ⟨first, rest, rfl⟩ := List.exists_cons_of_ne_nil hnames
  have hwriting : RowWriting d (first :: rest).length (first :: rest)
      ((String.singleton d.char).intercalate (first :: rest)).toList := rowWriting_intercalate hplain
  obtain ⟨next, hreads, hphase, hrow⟩ := RowReader.reads_whole_row hwriting rfl
  have hline : namesLine d (first :: rest) =
      Utf8.encodeChars ((String.singleton d.char).intercalate (first :: rest)).toList ++ Utf8.encodeChars ['\n'] := by
    rw [namesLine, Utf8.encode, String.toList_append, Utf8.encodeChars_append]
    rfl
  rw [hline, List.append_assoc, hreads.rows_eq, RowReader.rowsFrom_rowEnd .lineFeed hreads.ne_quoted hphase, hrow]

/-- **Below the row of names rows with a cell for each name are read as under fixed names.** -/
theorem run_headed_namesLine (hnames : names ≠ []) (hplain : ∀ name ∈ names, IsPlain d name.toList ∧ name ≠ "")
    {body : List UInt8} (hrows : ∀ row ∈ RowReader.rowsFrom d.byte {} body, row.length = names.length) :
    (headed d.byte).run .complete (namesLine d names ++ body) =
      decodeNamed names (RowReader.rowsFrom d.byte {} body) := by
  calc (headed d.byte).run .complete (namesLine d names ++ body)
    _ = decodeRows .awaited (RowReader.rowsFrom d.byte {} (namesLine d names ++ body)) := runFrom_headed d.byte _ _ _
    _ = decodeRows (.known names) (RowReader.rowsFrom d.byte {} body) := by
      rw [rowsFrom_namesLine hnames hplain, decodeRows_cons (underHeader_awaited names)]
      rfl
    _ = decodeNamed names (RowReader.rowsFrom d.byte {} body) := decodeRows_known_eq_decodeNamed hrows

/-! ## Access logs -/

/-- The rows that a body holds; a byte order mark at its beginning is in none of them. -/
def rowsOf (separator : UInt8) (body : List UInt8) : List Row :=
  RowReader.rowsFrom separator {} (withoutMark [body]).flatten

theorem rowsOf_of_not_marked (separator : UInt8) {body : List UInt8} (h : ¬mark <+: body) :
    rowsOf separator body = RowReader.rowsFrom separator {} body := by
  rw [rowsOf, withoutMark_of_not_seesMark (mt seesMark_singleton_iff.1 h), List.flatten_singleton]

theorem isPlain_accessLogNames : ∀ name ∈ accessLogNames, IsPlain .space name.toList ∧ name ≠ "" := by
  decide +kernel

theorem nodup_accessLogNames : accessLogNames.Nodup := by decide

theorem not_mark_prefix_namesLine (body : List UInt8) : ¬mark <+: namesLine .space accessLogNames ++ body := by
  -- only the first name is evaluated: the line as a whole would take long
  obtain ⟨more, hmore⟩ := exists_namesLine_eq .space "type" accessLogNames.tail
  have hname : Utf8.encode "type" = [0x74, 0x79, 0x70, 0x65] := by rfl
  have hline : namesLine .space accessLogNames = 0x74 :: (0x79 :: 0x70 :: 0x65 :: more) := by
    rw [hname] at hmore
    exact hmore
  rw [hline, List.cons_append, mark, List.cons_prefix_cons]
  exact fun h => absurd h.1 (by decide)

theorem decode_accessLog_eq (body : List UInt8) : Format.accessLog.decode (.ofBytes body) =
    decodeNamed accessLogNames (rowsOf Delimiter.space.byte body) := by
  rw [Source.ofBytes, Format.decode_eq, RecordDecoder.run]
  exact runFrom_positional Delimiter.space.byte accessLogNames (withoutMark [body]).flatten {}

theorem decode_delimited_namesLine {body : List UInt8}
    (hrows : ∀ row ∈ RowReader.rowsFrom Delimiter.space.byte {} body, row.length = accessLogNames.length) :
    (Format.delimited .space).decode (.ofBytes (namesLine .space accessLogNames ++ body)) =
      decodeNamed accessLogNames (RowReader.rowsFrom Delimiter.space.byte {} body) := by
  have hsees : ¬SeesMark [namesLine .space accessLogNames ++ body] :=
    mt seesMark_singleton_iff.1 (not_mark_prefix_namesLine body)
  rw [Source.ofBytes, Format.decode_eq, Format.seen_of_not_seesMark fun _ => hsees, List.flatten_singleton]
  exact run_headed_namesLine (List.cons_ne_nil _ _) isPlain_accessLogNames hrows

/-- **An access log is a table that lacks its row of names.**  Where each row has a cell for each name it decodes as the
table does that has the row of names in front of it.  In any case there is a record for each row up to the first one
that is not text, which says the cells that have a name and are not empty; so no row is too short or too long. -/
theorem decode_accessLog : ∃ positional headed : Decoding,
    Decoding.resolve none (some "application/x-aws-elasticloadbalancing") = .ok positional ∧
    Decoding.resolve none (some "text/csv; delimiter=space") = .ok headed ∧
    (∀ body : List UInt8, ¬mark <+: body →
      (∀ row ∈ rowsOf Delimiter.space.byte body, row.length = accessLogNames.length) →
      positional.decode body = headed.decode (namesLine .space accessLogNames ++ body)) ∧
    ∀ body : List UInt8, ∃ read rest, rowsOf Delimiter.space.byte body = read ++ rest ∧
      List.Forall₂ (fun row record => ∃ cells, texts? row = some cells ∧ Tells accessLogNames cells record) read
        (positional.decode body).records ∧
      ((positional.decode body).error = none ∧ rest = [] ∨
        (positional.decode body).error = some (.rows .notText) ∧ ∃ row more, rest = row :: more ∧ texts? row = none) := by
  refine ⟨⟨.identity, .accessLog⟩, ⟨.identity, .delimited .space⟩, by rfl, by rfl, fun body hmark hrows => ?_, fun body => ?_⟩
  · rw [rowsOf_of_not_marked _ hmark] at hrows
    rw [Decoding.decode, Decoding.decode]
    dsimp only [Encoding.source]
    rw [decode_accessLog_eq, rowsOf_of_not_marked _ hmark, decode_delimited_namesLine hrows]
  · rw [Decoding.decode]
    dsimp only [Encoding.source]
    rw [decode_accessLog_eq]
    exact exists_split_decodeNamed nodup_accessLogNames (rowsOf Delimiter.space.byte body)

/-- A line with a dash in each cell. -/
def dashes : List UInt8 := 0x2D :: (List.replicate 29 [0x20, 0x2D]).flatten

theorem decode_accessLog_dashes : ∃ positional headed : Decoding,
    Decoding.resolve none (some "application/x-aws-elasticloadbalancing") = .ok positional ∧
    Decoding.resolve none (some "text/csv; delimiter=space") = .ok headed ∧
    positional.decode dashes = headed.decode (namesLine .space accessLogNames ++ dashes) ∧
    ∃ record, (positional.decode [0x68, 0x32]).records = [record] ∧ record.member? "type" = some (.string "h2") := by
  obtain ⟨positional, headed, hpositional, hheaded, hagree, hall⟩ := decode_accessLog
  refine ⟨positional, headed, hpositional, hheaded, hagree dashes (by decide) (by decide), ?_⟩
  have hrows : rowsOf Delimiter.space.byte [0x68, 0x32] = [[[0x68, 0x32]]] := by rfl
  have htexts : texts? [[0x68, 0x32]] = some ["h2"] := by rfl
  obtain ⟨read, rest, hsplit, hrecords, hend⟩ := hall [0x68, 0x32]
  rw [hrows] at hsplit
  rcases hend with ⟨-, rfl⟩ | ⟨-, row, more, rfl, hnone⟩
  · rw [List.append_nil] at hsplit
    rw [← hsplit, List.forall₂_cons_left_iff] at hrecords
    obtain ⟨record, others, ⟨cells, hcells, htells⟩, hothers, hrecords⟩ := hrecords
    obtain rfl : ["h2"] = cells := Option.some.inj (htexts.symm.trans hcells)
    rw [List.forall₂_nil_left_iff.1 hothers] at hrecords
    exact ⟨record, hrecords, (htells.member?_eq_some_iff _ _).2 ⟨_, List.mem_cons_self, by decide, rfl⟩⟩
  · have hrow : row ∈ [[[0x68, 0x32]]] := hsplit ▸ List.mem_append_right read List.mem_cons_self
    rw [List.mem_singleton.1 hrow, htexts] at hnone
    cases hnone

end ObjectRelay.Delimited

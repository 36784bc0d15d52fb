import ObjectRelay.Proofs.Delimited.Mark
import ObjectRelay.Proofs.Delimited.Writing
import ObjectRelay.Proofs.Json.Value
/-!
# Tables are read as they are written

A table below a row of names decodes to one record for each of its other rows (`decode_writing`), in whichever of all
possible ways it is written.  `Tells` says what is in the record: the cells that are not empty, each under the name of
its column, and nothing else.
-/
namespace ObjectRelay.Delimited

/-- **What the record of a row says**: the cells that are not empty, under the names of their columns. -/
structure Tells (names cells : List String) (record : Record) : Prop where
  ordered : ∃ members, record = .object members ∧ Json.Ordered members
  member?_eq_some_iff : ∀ name v, record.member? name = some v ↔
    ∃ cell, (name, cell) ∈ names.zip cells ∧ cell ≠ "" ∧ v = .string cell

variable {names cells : List String}

/-! ## Records -/

/-- The members of the record of a row, in the order of the columns. -/
def membersOf (names cells : List String) : List (String × Json) :=
  ((names.zip cells).filter fun p => p.2 != "").map fun (n, c) => (n, .string c)

theorem mem_membersOf {name : String} {v : Json} : (name, v) ∈ membersOf names cells ↔
    ∃ cell, (name, cell) ∈ names.zip cells ∧ cell ≠ "" ∧ v = .string cell := by
  simp only [membersOf, List.mem_map, List.mem_filter, Prod.mk.injEq, bne_iff_ne]
  constructor
  · rintro ⟨⟨name, cell⟩, ⟨hmem, hne⟩, rfl, rfl⟩
    exact ⟨cell, hmem, hne, rfl⟩
  · rintro ⟨cell, hmem, hne, rfl⟩
    exact ⟨(name, cell), ⟨hmem, hne⟩, rfl, rfl⟩

/-- Where no two columns have the same name no two members have. -/
theorem nodup_membersOf (hnames : names.Nodup) : ((membersOf names cells).map Prod.fst).Nodup := by
  have hmembers : ((membersOf names cells).map Prod.fst).Sublist ((names.zip cells).map Prod.fst) := by
    rw [membersOf, List.map_map]
    exact List.filter_sublist.map Prod.fst
  have hzip : ((names.zip cells).map Prod.fst).Sublist names := by
    rw [List.zip_eq_zip_take_min, List.map_fst_zip (by simp)]
    exact List.take_sublist _ _
  exact (hmembers.trans hzip).nodup hnames

theorem tells_recordOf (hnames : names.Nodup) : Tells names cells (recordOf names cells) where
  ordered := ⟨_, rfl, Json.Ordered.insertAll List.Pairwise.nil⟩
  member?_eq_some_iff _ _ := (Json.member?_objectOf_of_nodup (nodup_membersOf hnames)).trans mem_membersOf

/-! ## Rows of text -/

theorem texts?_map_encode : ∀ cells : List String, texts? (cells.map Utf8.encode) = some cells
  | [] => rfl
  | cell :: cells => by
    have hcells : (cells.map Utf8.encode).mapM Utf8.decode? = some cells := texts?_map_encode cells
    rw [texts?, List.map_cons, List.mapM_cons, Utf8.decode?_encode, hcells]
    rfl

theorem underHeader_awaited (names : List String) :
    underHeader .awaited (names.map Utf8.encode) = ([], .ok (.known names)) := by
  rw [underHeader, texts?_map_encode]

theorem underHeader_known (hcells : cells.length = names.length) :
    underHeader (.known names) (cells.map Utf8.encode) = ([recordOf names cells], .ok (.known names)) := by
  simp [underHeader, record, texts?_map_encode, hcells]

theorem decodeRows_known : ∀ {rows : List (List String)}, (∀ row ∈ rows, row.length = names.length) →
    decodeRows (.known names) (rows.map (·.map Utf8.encode)) = { records := rows.map (recordOf names) }
  | [], _ => rfl
  | row :: rows, h => by
    obtain ⟨hrow, hrows⟩ := List.forall_mem_cons.1 h
    rw [List.map_cons, decodeRows_cons (underHeader_known hrow), decodeRows_known hrows]
    rfl

/-- **A table is read as it is written.**  Below a row of distinct names, rows with a cell for each of them decode to a
record each, in their order, and without an error: in whichever way every cell, every row and every end of a row is
written, and in whatever pieces the bytes are read, if they do not begin with a byte order mark. -/
theorem decode_writing (d : Delimiter) (names : List String) (hnames : names.Nodup) (rows : List (List String))
    (hrows : ∀ row ∈ rows, row.length = names.length) (text : List Char)
    (htext : TableWriting d names.length (names :: rows) text) (source : Source) (hending : source.ending = .complete)
    (hbytes : source.bytes = Utf8.encodeChars text) (hmark : ¬mark <+: source.bytes) :
    ∃ records, (Format.delimited d).decode source = { records, error := none } ∧
      List.Forall₂ (Tells names) rows records := by
  refine ⟨rows.map (recordOf names), ?_, ?_⟩
  · obtain ⟨pieces, ending⟩ := source
    obtain rfl : ending = .complete := hending
    have hseen : (Format.delimited d).seen pieces = Utf8.encodeChars text := by
      rw [Format.seen_of_not_seesMark fun _ hsees => hmark hsees.mark_prefix]
      exact hbytes
    have hcolumns : ∀ row ∈ names :: rows, row.length = names.length := List.forall_mem_cons.2 ⟨rfl, hrows⟩
    have hrun := runFrom_headed d.byte (Utf8.encodeChars text) .awaited {}
    rw [RowReader.rowsFrom_writing htext hcolumns, List.map_cons, decodeRows_cons (underHeader_awaited names),
      decodeRows_known hrows] at hrun
    rw [Format.decode_eq, hseen]
    exact hrun
  · exact List.forall₂_map_right_iff.2 (List.forall₂_same.2 fun _ _ => tells_recordOf hnames)

/-- A cell with everything in it that has a meaning outside of quotes. -/
def oddCell : String := "x,\"y\"\r\nz"

theorem writing_twoRows : TableWriting .comma 2 [["name", "note"], ["a", oddCell], ["", "é"]]
    "name,\"note\"\r\na,\"x,\"\"y\"\"\r\nz\"\r,é".toList := by
  have hnames : RowWriting .comma 2 ["name", "note"] _ := .cons (.bare (by decide) (by decide)) (.last .quoted)
  have hodd : RowWriting .comma 2 ["a", oddCell] _ := .cons (.bare (by decide) (by decide)) (.last .quoted)
  have hlast : RowWriting .comma 2 ["", "é"] _ :=
    .cons (.bare (by decide) (by decide)) (.last (.bare (by decide) (by decide)))
  exact .cons hnames .both (.cons hodd .carriageReturn (.unended hlast))

theorem decode_writing_twoRows : ["name", "note"].Nodup ∧
    (∀ row ∈ [["a", oddCell], ["", "é"]], row.length = ["name", "note"].length) ∧
    ∃ first second, (Format.delimited .comma).decode
        (.ofBytes (Utf8.encode "name,\"note\"\r\na,\"x,\"\"y\"\"\r\nz\"\r,é")) = { records := [first, second] } ∧
      first.member? "name" = some (.string "a") ∧ first.member? "note" = some (.string oddCell) ∧
      second.member? "name" = none ∧ second.member? "note" = some (.string "é") := by
  have hnames : ["name", "note"].Nodup := by decide
  have hrows : ∀ row ∈ [["a", oddCell], ["", "é"]], row.length = ["name", "note"].length := by decide
  obtain ⟨records, hdecode, htells⟩ := decode_writing .comma _ hnames _ hrows _ writing_twoRows
    (.ofBytes (Utf8.encode "name,\"note\"\r\na,\"x,\"\"y\"\"\r\nz\"\r,é")) rfl (List.append_nil _) (by decide)
  rcases htells with _ | ⟨hfirst, _ | ⟨hsecond, _ | _⟩⟩
  refine ⟨hnames, hrows, _, _, hdecode, ?_, ?_, ?_, ?_⟩
  · exact (hfirst.member?_eq_some_iff _ _).2 ⟨_, List.mem_cons_self, by decide, rfl⟩
  · exact (hfirst.member?_eq_some_iff _ _).2 ⟨_, List.mem_cons_of_mem _ List.mem_cons_self, by decide, rfl⟩
  · refine Option.eq_none_iff_forall_ne_some.2 fun v hv => ?_
    obtain ⟨cell, hmem, hne, -⟩ := (hsecond.member?_eq_some_iff _ _).1 hv
    simp at hmem
    exact hne hmem
  · exact (hsecond.member?_eq_some_iff _ _).2 ⟨_, List.mem_cons_of_mem _ List.mem_cons_self, by decide, rfl⟩

end ObjectRelay.Delimited

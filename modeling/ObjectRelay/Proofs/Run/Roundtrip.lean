import ObjectRelay.Proofs.Json.Text
import ObjectRelay.Proofs.Record.Lines
import ObjectRelay.Proofs.Run.Delivery
import Mathlib.Data.List.Flatten
/-!
# What is delivered can be decoded again

A batch holds the texts of records, each on a line of its own (`batchOf`).  No text is empty or holds a line end, so
the records of a batch are found again, and batches put together decode to the records that they were made of,
wherever one batch ends and the next one begins (`decode_batches`).  What a run hands over is such batches
(`Reached.exists_groups`), so whoever reads it again finds what the run was given (`handed_decodes`).
-/
namespace ObjectRelay

/-- The bytes of a batch of records. -/
def batchOf (group : List Record) : List UInt8 := framed (group.map fun r => Utf8.encode r.text)

/-! ## Lines -/

namespace Json

/-- **What survives being sent**: all numbers are integers of 64 bits, no more than `maxDepth` containers stand inside
one another, and the members of objects are in order. -/
structure IsSendable (v : Json) : Prop where
  whole : v.IsWhole
  depth_le : v.depth ≤ maxDepth
  ordered : v.IsOrdered

namespace IsSendable

variable {v : Json}

theorem fits (h : v.IsSendable) : Fits 0 v where
  depth_le := (Nat.zero_add v.depth).symm ▸ h.depth_le
  ordered := h.ordered
  whole := h.whole

theorem encode_text_ne_nil (h : v.IsSendable) : Utf8.encode v.text ≠ [] := by
  obtain ⟨b, rest, hbytes, -⟩ := Reader.exists_start h.whole
  rw [encode_text, hbytes]
  exact List.cons_ne_nil b rest

theorem isLineOf_text (h : v.IsSendable) : Decoding.IsLineOf (Utf8.encode v.text) v := by
  intro rest
  rw [encode_text]
  exact Reader.play_value v [] rfl h.fits (by decide) rest

end IsSendable
end Json

section Batches

variable {values : List Record} (h : ∀ v ∈ values, v.IsSendable)
include h

theorem records_batchOf (capacity : Nat) :
    Batch.records ⟨batchOf values, capacity⟩ = values.map fun v => Utf8.encode v.text := by
  refine records_framed _ _ fun r hr => ?_
  obtain ⟨v, hv, rfl⟩ := List.mem_map.1 hr
  exact ⟨(h v hv).encode_text_ne_nil, Json.lineEnd_notMem_text v⟩

theorem decode_batchOf : Decoding.lines.decode (batchOf values) = { records := values } := by
  have hdecode := Decoding.decode_framed (fun v => Utf8.encode (Json.text v)) id fun v hv => (h v hv).isLineOf_text
  rwa [List.map_id] at hdecode

end Batches

theorem flatten_map_batchOf (groups : List (List Record)) : (groups.map batchOf).flatten = batchOf groups.flatten := by
  rw [batchOf, List.map_flatten, framed_flatten, List.map_map]
  rfl

/-- **Batches put together decode to their records**, wherever they are cut. -/
theorem decode_batches {groups : List (List Record)} (h : ∀ v ∈ groups.flatten, v.IsSendable) :
    Decoding.lines.decode (groups.map batchOf).flatten = { records := groups.flatten } := by
  rw [flatten_map_batchOf, decode_batchOf h]

/-! ## What a run hands over -/

/-- What cuts the image of a list cuts the list. -/
theorem exists_flatten_eq {α β : Type} {f : α → β} : ∀ {groups : List (List β)} {l : List α},
    groups.flatten = l.map f → ∃ cut : List (List α), cut.flatten = l ∧ cut.map (List.map f) = groups
  | [], l, h => ⟨[], (List.map_eq_nil_iff.1 h.symm).symm, rfl⟩
  | group :: groups, l, h => by
    obtain ⟨first, rest, rfl, hfirst, hrest⟩ := List.map_eq_append_iff.1 h.symm
    obtain ⟨cut, rfl, hcut⟩ := exists_flatten_eq hrest.symm
    exact ⟨first :: cut, rfl, by rw [List.map_cons, hfirst, hcut]⟩

theorem BatchLimits.kept_sublist (limits : BatchLimits) (records : List Record) :
    (limits.kept records).Sublist (records.map fun r => Utf8.encode r.text) :=
  (List.takeWhile_sublist _).trans List.filter_sublist

theorem BatchLimits.keepable_eq_map {limits : BatchLimits} {records : List Record}
    (h : ∀ r ∈ records, (Utf8.encode r.text).length ≤ limits.maxRecordSize) :
    limits.keepable records = records.map fun r => Utf8.encode r.text := by
  refine List.filter_eq_self.2 fun bytes hbytes => ?_
  obtain ⟨r, hr, rfl⟩ := List.mem_map.1 hbytes
  exact decide_eq_true (h r hr)

namespace BatchRun

variable {limits : BatchLimits} {input : Decoded} {s : BatchRun}

theorem Reached.handed_prefix (h : Reached limits input s) : s.handed <+: limits.batches input.records :=
  (List.prefix_append s.handed _).trans h.ledger.sent_prefix

/-- A run that has ended well has handed over every batch. -/
theorem Reached.handed_eq (h : Reached limits input s) (hover : s.isOver = true) (hresult : s.result = .ok ()) :
    s.handed = limits.batches input.records ∧ limits.CanDeliver input := by
  have htidy := h.tidy_or_doomed.resolve_right (not_doomed hover hresult)
  obtain ⟨hperm, hcan⟩ := htidy.delivered_perm h.setup hover
  refine ⟨h.handed_prefix.eq_of_length (Nat.le_antisymm h.handed_prefix.length_le ?_), hcan⟩
  have hbooks := htidy.books.length_eq
  rw [List.length_append, hperm.length_eq] at hbooks
  omega

/-- **A run hands over batches of its records**, in their order: of all of them, when it ends well and none is too
large to keep. -/
theorem Reached.exists_groups (h : Reached limits input s) :
    ∃ groups : List (List Record), s.handed = groups.map batchOf ∧ groups.flatten.Sublist input.records ∧
      (s.isOver = true → s.result = .ok () →
        (∀ r ∈ input.records, (Utf8.encode r.text).length ≤ limits.maxRecordSize) →
        groups.flatten = input.records) := by
  -- the texts are cut into batches; the same cut is made in the records that they are the texts of
  let cut := groups limits.maxBatchSize (limits.kept input.records)
  have hcut : cut.flatten = limits.kept input.records := flatten_groups _ _
  have hhanded : s.handed = (cut.take s.handed.length).map framed := by
    rw [List.map_take]
    exact List.prefix_iff_eq_take.1 h.handed_prefix
  have hsublist : (cut.take s.handed.length).flatten.Sublist (input.records.map fun r => Utf8.encode r.text) :=
    (List.take_sublist s.handed.length cut).flatten.trans (hcut ▸ limits.kept_sublist input.records)
  obtain ⟨sent, hsent, htexts⟩ := List.sublist_map_iff.1 hsublist
  obtain ⟨groups, rfl, hgroups⟩ := exists_flatten_eq htexts
  refine ⟨groups, ?_, hsent, fun hover hresult hsmall => hsent.eq_of_length ?_⟩
  · rw [hhanded, ← hgroups, List.map_map]
    rfl
  · obtain ⟨hall, hcan⟩ := h.handed_eq hover hresult
    have hlength : s.handed.length = cut.length := by
      rw [hall]
      exact List.length_map ..
    have htake : (cut.take s.handed.length).flatten = input.records.map fun r => Utf8.encode r.text := by
      rw [hlength, List.take_length, hcut, hcan.kept_eq, BatchLimits.keepable_eq_map hsmall]
    have hlengths := congrArg List.length (htexts.symm.trans htake)
    rwa [List.length_map, List.length_map] at hlengths

/-- **Nothing is lost between a run and whoever decodes what it delivers.**  Values whose numbers are integers and that
are not nested too deep have texts that are neither empty nor hold a line end.  So batches of them, however they are
cut, hold one record for each value, and put together they decode to the values, as lines of JSON, without an error.
What a run over the values hands over is such batches: of all values, when the run ends well and none is too large. -/
theorem handed_decodes (values : List Record) (hvalues : ∀ v ∈ values, v.IsSendable) :
    (∀ v ∈ values, Utf8.encode v.text ≠ [] ∧ lineEnd ∉ Utf8.encode v.text) ∧
    (∀ groups : List (List Record), groups.flatten = values →
      (∀ group ∈ groups, ∀ capacity,
        Batch.records ⟨batchOf group, capacity⟩ = group.map fun v => Utf8.encode v.text) ∧
      ∃ decoding, Decoding.resolve none (some "application/x-ndjson") = .ok decoding ∧
        decoding.decode (groups.map batchOf).flatten = { records := values, error := none }) ∧
    (∀ (limits : BatchLimits) (pool : BufferPool) (actions : List Action) (s : BatchRun), pool.IsClean →
      (start limits pool { records := values }).replay? actions = some s →
      ∃ groups : List (List Record), s.handed = groups.map batchOf ∧ groups.flatten.Sublist values ∧
        Decoding.lines.decode s.handed.flatten = { records := groups.flatten, error := none } ∧
        (s.isOver = true → s.result = .ok () →
          (∀ v ∈ values, (Utf8.encode v.text).length ≤ limits.maxRecordSize) → groups.flatten = values)) := by
  refine ⟨fun v hv => ⟨(hvalues v hv).encode_text_ne_nil, Json.lineEnd_notMem_text v⟩, ?_, ?_⟩
  · rintro groups rfl
    refine ⟨fun group hgroup capacity => ?_, .lines, Decoding.resolve_lines, decode_batches hvalues⟩
    exact records_batchOf (fun v hv => hvalues v (List.mem_flatten_of_mem hgroup hv)) capacity
  · intro limits pool actions s hpool hrun
    obtain ⟨groups, hhanded, hsublist, hall⟩ := (reached_of_replay? hpool hrun).exists_groups
    refine ⟨groups, hhanded, hsublist, ?_, hall⟩
    rw [hhanded, decode_batches fun v hv => hvalues v (hsublist.subset hv)]

/-- Members with a line end in a name, controls in a text, and the least number. -/
def severalMembers : List (String × Json) := [
  ("a\nb", .string "\"\n\x00é😀"), ("c", .array [.null, .bool true, .number (.int (-9223372036854775808))])]

def severalValues : List Record :=
  [.object severalMembers, .array [], .string "", .number (.int 18446744073709551615)]

theorem isSendable_severalValues : ∀ v ∈ severalValues, v.IsSendable := by
  have hwhole : ∀ v ∈ severalValues, v.IsWhole := by
    simp [severalValues, severalMembers, Json.IsWhole, Json.Everywhere, Json.ItemsEverywhere, Json.MembersEverywhere,
      Json.Number.IsWhole]
  have hnames : Json.Ordered severalMembers := List.pairwise_pair.2 (by decide)
  have hordered : ∀ v ∈ severalValues, v.IsOrdered := by
    refine List.forall_mem_cons.2 ⟨Json.isOrdered_object.2 ⟨hnames, ?_⟩, ?_⟩
    · simp [severalMembers, Json.IsOrdered, Json.Everywhere, Json.ItemsEverywhere]
    · simp [Json.IsOrdered, Json.Everywhere, Json.ItemsEverywhere]
  have hdepth : ∀ v ∈ severalValues, v.depth ≤ Json.maxDepth := by decide
  exact fun v hv => ⟨hwhole v hv, hdepth v hv, hordered v hv⟩

theorem handed_decodes_several : (∀ v ∈ severalValues, v.IsSendable) ∧
    Batch.records ⟨batchOf (severalValues.drop 1), 16⟩ = [Utf8.encode "[]", Utf8.encode "\"\"",
      Utf8.encode "18446744073709551615"] ∧
    ∃ decoding, Decoding.resolve none (some "application/x-ndjson") = .ok decoding ∧
      decoding.decode ([severalValues.take 1, severalValues.drop 1].map batchOf).flatten =
        { records := severalValues, error := none } := by
  obtain ⟨-, hbatches, -⟩ := handed_decodes severalValues isSendable_severalValues
  obtain ⟨hrecords, hdecode⟩ := hbatches [severalValues.take 1, severalValues.drop 1] rfl
  exact ⟨isSendable_severalValues, hrecords _ (List.mem_cons_of_mem _ List.mem_cons_self) 16, hdecode⟩

end BatchRun
end ObjectRelay

import ObjectRelay.Delivery.Client
import ObjectRelay.Record.Decode
import ObjectRelay.Proofs.Batch.Groups
import ObjectRelay.Proofs.Json.Reading
/-!
# Lines of JSON

Decoding JSON is playing the bytes to a reader (`RecordDecoder.runFrom_play`).  So lines decode one after another to
what each of them holds (`Decoding.decode_framed`).
-/
namespace ObjectRelay

open Json (Reader)

namespace RecordDecoder

theorem prepend_append (records records' : List Record) (d : Decoded) :
    prepend (records ++ records') d = prepend records (prepend records' d) := by
  rw [prepend, prepend, prepend, List.append_assoc]

theorem runFrom_cons {d : RecordDecoder} {s next : d.State} {b : UInt8} {records : List Record}
    (h : d.step s b = (records, .ok next)) (ending : Ending) (rest : List UInt8) :
    d.runFrom ending s (b :: rest) = prepend records (d.runFrom ending next rest) := by
  rw [runFrom, h]
  cases records with
  | nil => rfl
  | cons record records => rfl

theorem runFrom_cons_error {d : RecordDecoder} {s : d.State} {b : UInt8} {records : List Record} {e : DecodeError}
    (h : d.step s b = (records, .error e)) (ending : Ending) (rest : List UInt8) :
    d.runFrom ending s (b :: rest) = { records, error := some e } := by
  rw [runFrom, h]

variable {top : Json.Shape} {expand : Json → List Record}

/-- A byte that is no fault gives out the records of the value that it completes. -/
theorem step_ofJson {r next : Reader} {b : UInt8} {v? : Option Json} (h : r.step top b = (v?, .ok next)) :
    (ofJson top expand).step r b = (v?.toList.flatMap expand, .ok next) := by
  cases v? with
  | none =>
    simp only [ofJson, h]
    rfl
  | some v =>
    simp only [ofJson, h, Option.toList_some, List.flatMap_singleton]
    rfl

/-- **What a reader gives out is expanded into records.** -/
theorem runFrom_play (ending : Ending) : ∀ {bytes : List UInt8} {r next : Reader} {values : List Json},
    Reader.play top r bytes = (values, .ok next) → ∀ rest : List UInt8,
    (ofJson top expand).runFrom ending r (bytes ++ rest) =
      prepend (values.flatMap expand) ((ofJson top expand).runFrom ending next rest)
  | [], r, next, values, h, rest => by
    cases h
    rfl
  | b :: bytes, r, next, values, h, rest => by
    rw [Reader.play] at h
    rcases hstep : r.step top b with ⟨v?, e | r'⟩
    · rw [hstep] at h
      cases h
    · rw [hstep] at h
      rcases hplay : Reader.play top r' bytes with ⟨more, final⟩
      simp only [hplay] at h
      cases h
      have hrest := runFrom_play ending hplay rest
      rw [List.cons_append, List.flatMap_append, prepend_append, ← hrest]
      exact runFrom_cons (step_ofJson hstep) ending (bytes ++ rest)

end RecordDecoder

namespace Decoding

def lines : Decoding := ⟨.identity, .json⟩

theorem resolve_lines : resolve none (some lineContentType) = .ok lines := by
  decide

/-- Whether a text is read as a value when a line end stands behind it. -/
def IsLineOf (text : List UInt8) (v : Json) : Prop :=
  ∀ rest, Reader.play .any {} (text ++ lineEnd :: rest) = Reader.playOn .any (Reader.deliver [] v) (lineEnd :: rest)

theorem decode_lines (bytes : List UInt8) :
    lines.decode bytes = (RecordDecoder.ofJson .any fun v => [v]).runFrom .complete {} bytes := by
  have hbytes : [bytes].flatten = bytes := by simp
  exact congrArg ((RecordDecoder.ofJson .any fun v => [v]).runFrom .complete {}) hbytes

theorem decode_of_play {bytes : List UInt8} {values : List Json}
    (h : Reader.play .any {} bytes = (values, .ok {})) (rest : List UInt8) :
    lines.decode (bytes ++ rest) = RecordDecoder.prepend values (lines.decode rest) := by
  rw [decode_lines, decode_lines, RecordDecoder.runFrom_play .complete h rest, List.flatMap_singleton']

/-- **Lines decode one after another**, each to what it holds. -/
theorem decode_framed {α : Type} (text : α → List UInt8) (value : α → Json) : ∀ {items : List α},
    (∀ item ∈ items, IsLineOf (text item) (value item)) →
    lines.decode (framed (items.map text)) = { records := items.map value }
  | [], _ => rfl
  | item :: items, h => by
    obtain ⟨hfirst, hothers⟩ := List.forall_mem_cons.1 h
    have hplay : Reader.play .any {} (text item ++ [lineEnd]) = ([value item], .ok {}) := hfirst []
    rw [List.map_cons, framed_cons, ← List.singleton_append, ← List.append_assoc, decode_of_play hplay,
      decode_framed text value hothers]
    rfl

end Decoding
end ObjectRelay

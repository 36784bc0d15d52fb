import ObjectRelay.Record.Decode
/-!
# The byte order mark

A mark is dropped if it is seen (`SeesMark`): it has to stand as a whole in the first piece that is read.  Otherwise
all bytes reach the decoder (`Format.seen_of_not_seesMark`), those of a mark that is torn over several pieces, too.
-/
namespace ObjectRelay
namespace Delimited

/-- The byte order mark. -/
def mark : List UInt8 := [0xEF, 0xBB, 0xBF]

/-- Whether the first piece begins with a mark. -/
def SeesMark (pieces : List (List UInt8)) : Prop := mark <+: pieces.headD []

instance (pieces : List (List UInt8)) : Decidable (SeesMark pieces) := inferInstanceAs (Decidable (_ <+: _))

variable {pieces : List (List UInt8)}

theorem seesMark_iff : SeesMark pieces ↔ ∃ rest others, pieces = (mark ++ rest) :: others := by
  constructor
  · intro h
    cases pieces with
    | nil => exact absurd (List.prefix_nil.1 h) (List.cons_ne_nil _ _)
    | cons first others =>
      obtain ⟨rest, hrest⟩ := h
      exact ⟨rest, others, by rw [hrest]; rfl⟩
  · rintro ⟨rest, others, rfl⟩
    exact List.prefix_append mark rest

theorem seesMark_singleton_iff {body : List UInt8} : SeesMark [body] ↔ mark <+: body := Iff.rfl

theorem withoutMark_of_not_seesMark (h : ¬SeesMark pieces) : withoutMark pieces = pieces := by
  unfold withoutMark
  split
  · exact absurd (seesMark_iff.2 ⟨_, _, rfl⟩) h
  · rfl

theorem mark_append_flatten_withoutMark (h : SeesMark pieces) :
    mark ++ (withoutMark pieces).flatten = pieces.flatten := by
  obtain ⟨rest, others, rfl⟩ := seesMark_iff.1 h
  exact (List.append_assoc mark rest others.flatten).symm

theorem SeesMark.mark_prefix (h : SeesMark pieces) : mark <+: pieces.flatten :=
  ⟨_, mark_append_flatten_withoutMark h⟩

end Delimited

/-! ## What reaches a decoder -/

namespace Format

open Delimited (mark SeesMark withoutMark)

/-- The bytes that reach the decoder. -/
def seen (format : Format) (pieces : List (List UInt8)) : List UInt8 :=
  (if format.dropsMark then withoutMark pieces else pieces).flatten

variable {format : Format} {pieces : List (List UInt8)}

theorem decode_eq (format : Format) (pieces : List (List UInt8)) (ending : Ending) :
    format.decode ⟨pieces, ending⟩ = format.decoder.run ending (format.seen pieces) := rfl

theorem seen_of_not_seesMark (h : format.dropsMark = true → ¬SeesMark pieces) :
    format.seen pieces = pieces.flatten := by
  unfold seen
  split
  · rename_i hdrops
    rw [Delimited.withoutMark_of_not_seesMark (h hdrops)]
  · rfl

end Format
end ObjectRelay

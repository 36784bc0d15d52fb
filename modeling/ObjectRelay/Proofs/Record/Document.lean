import ObjectRelay.Proofs.Json.Single
import ObjectRelay.Proofs.Record.Values
/-!
# Objects that hold a single value

The records of such an object are what its value is expanded to (`RecordDecoder.runFrom_of_readFrom`).  A text that is a
value under some shape, and that another shape does not refuse, is a value under that one too
(`RecordDecoder.exists_readFrom_of_error`).
-/
namespace ObjectRelay

open Json (Reader Shape readFrom)

namespace Json.Reader

variable {top : Shape} {r next : Reader}

theorem readFrom_spaces_ne : ∀ {bytes : List UInt8}, bytes.all isSpace = true → ∀ v : Json,
    readFrom top {} bytes ≠ .ok v
  | [], _, v => nofun
  | b :: rest, h, v => by
    rw [List.all_cons, Bool.and_eq_true] at h
    have hstep : step top {} b = going {} := if_pos h.1
    rw [readFrom, hstep]
    exact readFrom_spaces_ne h.2 v

/-- A value that the end of the text completes is the value of the text. -/
theorem readFrom_of_finish {v : Json} (hfinish : next.finish top = .ok (some v)) : ∀ {bytes : List UInt8} {r : Reader},
    play top r bytes = ([], .ok next) → readFrom top r bytes = .ok v
  | [], r, h => by
    cases h
    rw [readFrom, hfinish]
  | b :: rest, r, h => by
    rw [play] at h
    rw [readFrom]
    rcases hstep : r.step top b with ⟨_ | w, e | between⟩
    all_goals
      rw [hstep] at h
      dsimp only at h
    · cases h
    · exact readFrom_of_finish hfinish h
    · cases h
    · cases h

end Json.Reader

namespace RecordDecoder

variable {top : Shape} {expand : Json → List Record}

/-- **A value is expanded into its records**, and that is all there is. -/
theorem runFrom_of_readFrom {v : Json} : ∀ {bytes : List UInt8} {r : Reader}, readFrom top r bytes = .ok v →
    (ofJson top expand).runFrom .complete r bytes = { records := expand v }
  | [], r, h => by
    simp only [runFrom, ofJson, Reader.finish_of_readFrom h]
  | b :: rest, r, h => by
    rw [readFrom] at h
    rcases hstep : r.step top b with ⟨_ | w, e | next⟩
    all_goals
      rw [hstep] at h
      dsimp only at h
    · cases h
    · have hgoing : (ofJson top expand).step r b = _ := step_ofJson hstep
      rw [runFrom_cons hgoing, runFrom_of_readFrom h]
      rfl
    · cases h
    · split at h <;> cases h
      rename_i hend
      obtain ⟨hidle, hspaces⟩ := Bool.and_eq_true_iff.1 hend
      obtain rfl := Reader.eq_of_isIdle hidle
      have hcomplete : (ofJson top expand).step r b = _ := step_ofJson hstep
      rw [runFrom_cons hcomplete, runFrom_complete (Reader.play_spaces hspaces)]
      simp [ofJson, prepend, Reader.finish]

/-- **A value that is not refused under a shape is a value of that shape.** -/
theorem exists_readFrom_of_error {bytes : List UInt8} {w : Json} (hread : readFrom .any {} bytes = .ok w)
    (herror : ((ofJson top expand).runFrom .complete {} bytes).error = none) : ∃ v, readFrom top {} bytes = .ok v := by
  have hone : (Reader.play top {} bytes).1 = [] ∨ ∃ v, Reader.play top {} bytes = ([v], .ok {}) :=
    Reader.play_of_readFrom Reader.samePlace_start hread
  rcases hone with hnone | ⟨v, hv⟩
  · -- nothing is complete before the end of the text, so its end completes the value
    rcases hplay : Reader.play top {} bytes with ⟨values, e | next⟩
    all_goals
      rw [hplay] at hnone
      obtain rfl : values = [] := hnone
    · rw [runFrom_complete_error hplay] at herror
      cases herror
    · rw [runFrom_complete hplay] at herror
      cases hfinish : next.finish top with
      | error e =>
        simp only [ofJson, hfinish, prepend] at herror
        cases herror
      | ok v? =>
        cases v? with
        | none =>
          obtain rfl := Reader.eq_of_finish_none hfinish
          exact absurd hread (Reader.readFrom_spaces_ne (Reader.all_isSpace_of_play hplay) w)
        | some v => exact ⟨v, Reader.readFrom_of_finish hfinish hplay⟩
  · exact ⟨v, Reader.readFrom_of_play hv⟩

/-- **Values that stand on lines of their own come one after another.** -/
theorem runFrom_framed {value : List UInt8 → Json} : ∀ {texts : List (List UInt8)},
    (∀ text ∈ texts, readFrom top {} text = .ok (value text)) →
    (ofJson top expand).runFrom .complete {} (framed texts) =
      { records := texts.flatMap fun text => expand (value text) }
  | [], _ => rfl
  | text :: texts, h => by
    obtain ⟨htext, hothers⟩ := List.forall_mem_cons.1 h
    have hfirst : (ofJson top expand).runFrom .complete {} text = { records := expand (value text) } :=
      runFrom_of_readFrom htext
    have hend : ((ofJson top expand).runFrom .complete {} text).error = none := congrArg Decoded.error hfirst
    have hrest : (ofJson top expand).runFrom .complete {} (framed texts) = _ := runFrom_framed hothers
    rw [framed_cons, runFrom_joined hend, hfirst, hrest]
    rfl

end RecordDecoder

namespace Decoding

theorem decode_identity {format : Format} (h : format.dropsMark = false) (bytes : List UInt8) :
    decode ⟨.identity, format⟩ bytes = format.decoder.runFrom .complete format.decoder.start bytes := by
  have hbytes : [bytes].flatten = bytes := by simp
  simp only [decode, Format.decode, Encoding.source, Source.ofBytes, h, Bool.false_eq_true, if_false, hbytes]
  rfl

/-- What the bytes of an object of this content type decode to, if there is a decoder for it. -/
def decodeAs (contentType : String) (bytes : List UInt8) : Except FormatError Decoded :=
  (resolve none (some contentType)).map fun d => d.decode bytes

theorem decodeAs_eq {contentType : String} {format : Format}
    (hresolve : resolve none (some contentType) = .ok ⟨.identity, format⟩) (h : format.dropsMark = false)
    (bytes : List UInt8) :
    decodeAs contentType bytes = .ok (format.decoder.runFrom .complete format.decoder.start bytes) := by
  rw [decodeAs, hresolve]
  exact congrArg Except.ok (decode_identity h bytes)

theorem decodeAs_lines (bytes : List UInt8) : decodeAs "application/x-ndjson" bytes =
    .ok ((RecordDecoder.ofJson .any fun v => [v]).runFrom .complete {} bytes) := by
  have hresolve : resolve none (some "application/x-ndjson") = .ok ⟨.identity, .json⟩ := rfl
  exact decodeAs_eq hresolve rfl bytes

theorem decodeAs_trail (bytes : List UInt8) : decodeAs "application/x-aws-cloudtrail" bytes =
    .ok ((RecordDecoder.ofJson trailShape trailRecords).runFrom .complete {} bytes) := by
  have hresolve : resolve none (some "application/x-aws-cloudtrail") = .ok ⟨.identity, .trail⟩ := rfl
  exact decodeAs_eq hresolve rfl bytes

theorem decodeAs_configuration (bytes : List UInt8) : decodeAs "application/x-aws-config" bytes =
    .ok ((RecordDecoder.ofJson configurationFileShape configurationRecords).runFrom .complete {} bytes) := by
  have hresolve : resolve none (some "application/x-aws-config") = .ok ⟨.identity, .configuration⟩ := rfl
  exact decodeAs_eq hresolve rfl bytes

theorem decodeAs_change (bytes : List UInt8) : decodeAs "application/x-aws-change" bytes =
    .ok ((RecordDecoder.ofJson configurationShape fun item => [item]).runFrom .complete {} bytes) := by
  have hresolve : resolve none (some "application/x-aws-change") = .ok ⟨.identity, .change⟩ := rfl
  exact decodeAs_eq hresolve rfl bytes

/-- **Whether an object of this content type is read to its end**, without an error. -/
def IsAccepted (contentType : String) (bytes : List UInt8) : Prop :=
  ∃ d, decodeAs contentType bytes = .ok d ∧ d.error = none

end Decoding
end ObjectRelay

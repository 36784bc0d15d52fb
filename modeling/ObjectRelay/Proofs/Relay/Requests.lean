import ObjectRelay.Storage.Endpoint
import ObjectRelay.Proofs.Object.Address
import ObjectRelay.Proofs.Relay.Copies
/-!
# What a request to copy addresses

The parts of an address go through two more texts before an object is read: the copy source, which rules leave alone,
and the parts that the read takes out of it again.  They are the same at the end (`read_of_isProper`), and an endpoint
finds nothing wrong with the request exactly if there is a key on both sides (`fault?_eq_none_iff_of_isProper`).
-/
namespace ObjectRelay
namespace Relay

open ObjectUri (parse HasScheme)

variable {relay : Relay} {source : ObjectUri}

/-- The request to copy an object, as the rules want it. -/
def copyRequest (relay : Relay) (source : ObjectUri) : CopyRequest := { operation := relay.operation source }

theorem sourceParts_copyRequest (h : source.IsProper) :
    CopyRequest.sourceParts (relay.copyRequest source).operation.copySource = (source.bucket, source.key) := by
  rw [copyRequest, copySource_operation, ObjectUri.source, CopyRequest.sourceParts_append _ h.slash_notMem_bucket]

theorem bucket_operation (relay : Relay) (source : ObjectUri) :
    (relay.operation source).bucket = relay.destination.bucket :=
  RuleSets.apply_bucket relay.sets (CopyOperation.below relay.destination source)

/-- **The object that is read is the one that was addressed.** -/
theorem read_of_isProper (h : source.IsProper) :
    (relay.copyRequest source).read = { bucket := source.bucket, key := source.key } := by
  rw [CopyRequest.read, sourceParts_copyRequest h]
  rfl

/-- **A request is valid exactly if it has a key on both sides.** -/
theorem fault?_eq_none_iff_of_isProper (hdestination : relay.destination.IsProper) (h : source.IsProper) :
    (relay.copyRequest source).fault? = none ↔ source.key ≠ "" ∧ (relay.operation source).key ≠ "" := by
  have hbucket : (relay.operation source).bucket ≠ "" := bucket_operation relay source ▸ hdestination.bucket_ne
  have hsource := h.bucket_ne
  rw [CopyRequest.fault?, sourceParts_copyRequest h]
  by_cases hkey : source.key = "" <;> by_cases hop : (relay.operation source).key = "" <;>
    simp [copyRequest, hbucket, hsource, hkey, hop]

/-- **Addresses are read exactly, and so are the objects they name.**  Parts that can be told apart are read from the
address they are written in, with or without a query; whatever is read are such parts, in that order in the text, and
reading their address gives them again; and what cannot be read has no scheme, or a scheme and no bucket behind it.
If destination and source have been read, the request to copy the one below the other reads the bucket and the key of
the source, whatever the rules have done, and is valid exactly if source and copy have a key.  There are no other
requests: those that a message asks for are such ones, and have a key to copy to. -/
theorem addresses_exact :
    (∀ uri : ObjectUri, uri.IsProper →
      parse uri.written = .ok uri ∧ ∀ query, parse (uri.written ++ "?" ++ query) = .ok uri) ∧
    (∀ text uri, parse text = .ok uri → uri.IsProper ∧ uri.IsWriting text ∧ parse uri.written = .ok uri) ∧
    (∀ text error, parse text = .error error →
      error = .missingScheme text ∧ (¬∃ scheme rest, HasScheme text scheme rest) ∨
      error = .missingBucket text ∧ ∃ scheme rest, HasScheme text scheme rest ∧
        ∀ c, rest.toList.head? = some c → c = '/' ∨ c = '?') ∧
    (∀ (relay : Relay) (destination uri : String) (source : ObjectUri),
      parse destination = .ok relay.destination → parse uri = .ok source →
      (relay.copyRequest source).read = { bucket := source.bucket, key := source.key } ∧
      ((relay.copyRequest source).fault? = none ↔ source.key ≠ "" ∧ (relay.operation source).key ≠ "")) ∧
    ∀ (relay : Relay) (σ : Type) (store : Store σ) (message : Message) (isCancelled : Bool) (state : σ),
      ∀ request ∈ copiesOf (relay.walkMessage store message isCancelled state).activities,
        ∃ record ∈ Notification.copyRecords message.body, ∃ source, parse record.uri = .ok source ∧
          request = relay.copyRequest source ∧ (relay.operation source).key ≠ "" := by
  refine ⟨fun uri h => ?_, fun text uri h => ?_, fun text error h => ?_,
    fun relay destination uri source hdestination hsource => ?_,
    fun relay σ store message isCancelled state request hrequest => ?_⟩
  · exact ⟨ObjectUri.parse_of_isWriting h ⟨"", .inl rfl, .inl (String.append_empty).symm⟩, fun query =>
      ObjectUri.parse_of_isWriting h ⟨"?" ++ query, .inr ⟨query, rfl⟩, .inl String.append_assoc⟩⟩
  · obtain ⟨hproper, hwriting⟩ := ObjectUri.parse_eq_ok_iff.1 h
    exact ⟨hproper, hwriting,
      ObjectUri.parse_of_isWriting hproper ⟨"", .inl rfl, .inl (String.append_empty).symm⟩⟩
  · cases error with
    | missingScheme told =>
      obtain ⟨rfl, hnone⟩ := ObjectUri.parse_eq_missingScheme_iff.1 h
      exact .inl ⟨rfl, hnone⟩
    | missingBucket told =>
      obtain ⟨rfl, hscheme⟩ := ObjectUri.parse_eq_missingBucket_iff.1 h
      exact .inr ⟨rfl, hscheme⟩
  · have hproper := (ObjectUri.parse_eq_ok_iff.1 hsource).1
    exact ⟨read_of_isProper hproper,
      fault?_eq_none_iff_of_isProper (ObjectUri.parse_eq_ok_iff.1 hdestination).1 hproper⟩
  · have hwanted := relay.copiesOf_walk store (Notification.copyRecords message.body) isCancelled state
    rw [walkMessage] at hrequest
    rw [hwanted] at hrequest
    obtain ⟨record, hrecord, source, hparse, haccepts, rfl⟩ := exists_accepted (List.mem_of_mem_take hrequest)
    exact ⟨record, hrecord, source, hparse, rfl, haccepts.hasKey⟩

end Relay
end ObjectRelay

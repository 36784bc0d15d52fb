import ObjectRelay.Relay.Handle
import ObjectRelay.Proofs.Batch.Groups
import ObjectRelay.Proofs.Json.Text
import ObjectRelay.Proofs.Lists
/-!
# Handling messages one after another

Against a store that answers a request always alike and cancels nothing, what becomes of a message depends on the
message alone (`Relay.alone`), and handling an invocation is handling its messages one by one (`walkMessages_eq`)
and concluding (`handle_eq`).  The audit log is then one line for every message (`linesOf_body`).
-/
namespace ObjectRelay

/-- A store that remembers nothing and cancels nothing: its answer depends on the request alone. -/
def Store.answering (copier : CopyRequest → Except StorageError Unit) (putter : PutRequest → Except StorageError Unit) :
    Store Unit where
  copy _ request _ := ({ result := copier request }, ())
  put _ request _ := ({ result := putter request }, ())

namespace Relay

variable (relay : Relay) (copier : CopyRequest → Except StorageError Unit)
  (putter : PutRequest → Except StorageError Unit)

/-- Objects that are looked at and copied with nothing else going on. -/
def walkAlone (records : List CopyRecord) : Walk Unit (Option MessageError) :=
  relay.walk (.answering copier putter) records false ()

/-- **A message that is handled by itself.** -/
def alone (message : Message) : Walk Unit (Option MessageError) :=
  relay.walkMessage (.answering copier putter) message false ()

theorem walkAlone_unreadable {record : CopyRecord} {error : UriError} (h : relay.treat record = .unreadable error)
    (rest : List CopyRecord) :
    relay.walkAlone copier putter (record :: rest) = ⟨[], some (.source error), false, ()⟩ := by
  rw [walkAlone, walk, h]

theorem walkAlone_skipped {record : CopyRecord} {source : String} {reason : SkipReason}
    (h : relay.treat record = .skipped source reason) (rest : List CopyRecord) :
    relay.walkAlone copier putter (record :: rest) =
      (relay.walkAlone copier putter rest).prepend [.log (.skipping source reason)] := by
  rw [walkAlone, walk, h, walkAlone]

/-- What is left of a message when the copy of an object has been asked for. -/
def walkCopying (uri : String) (op : CopyOperation) (rest : List CopyRecord) : Walk Unit (Option MessageError) :=
  match copier { operation := op } with
  | .error error => ⟨[], some (.copy uri error), false, ()⟩
  | .ok () => relay.walkAlone copier putter rest

theorem walkAlone_copied {record : CopyRecord} {op : CopyOperation} (h : relay.treat record = .copied op)
    (rest : List CopyRecord) :
    relay.walkAlone copier putter (record :: rest) =
      (relay.walkCopying copier putter record.uri op rest).prepend op.activities := by
  rw [walkAlone, walk, h, walkCopying]
  simp only [Store.answering, Bool.or_self]
  cases copier { operation := op } with
  | error error => rfl
  | ok u => rfl

theorem isCancelled_walkAlone : ∀ records, (relay.walkAlone copier putter records).isCancelled = false
  | [] => rfl
  | record :: rest => by
    have ih := isCancelled_walkAlone rest
    cases h : relay.treat record with
    | unreadable error => rw [walkAlone_unreadable relay copier putter h]
    | skipped source reason =>
      rw [walkAlone_skipped relay copier putter h]
      exact ih
    | copied op =>
      rw [walkAlone_copied relay copier putter h, walkCopying]
      cases copier { operation := op } with
      | error error => rfl
      | ok u => exact ih

/-- Handling messages one after another is handling each of them alone. -/
theorem walkMessages_eq : ∀ messages : List Message,
    relay.walkMessages (.answering copier putter) messages false () =
      ⟨messages.flatMap fun m => (relay.alone copier putter m).activities,
        messages.map fun m => (relay.alone copier putter m).outcome, false, ()⟩
  | [] => rfl
  | message :: rest => by
    have hfirst : (relay.walkMessage (.answering copier putter) message false ()).isCancelled = false :=
      isCancelled_walkAlone relay copier putter _
    rw [walkMessages, if_neg Bool.false_ne_true]
    dsimp only
    rw [hfirst, walkMessages_eq rest]
    rfl

/-- Messages, each with what it comes to when it is handled alone. -/
def outcomesAlone (messages : List Message) : List (Message × Option MessageError) :=
  messages.map fun m => (m, (relay.alone copier putter m).outcome)

/-- Handling an invocation is handling its messages alone and concluding. -/
theorem handle_eq {context : InvocationContext} {home : FunctionHome} (hhome : context.home = .ok home)
    (messages : List Message) (now : Int) :
    relay.handle (.answering copier putter) context messages now false () =
      (relay.conclude (.answering copier putter) home context.requestId now
        (relay.outcomesAlone copier putter messages) false ()).prepend
        (messages.flatMap fun m => (relay.alone copier putter m).activities) := by
  rw [handle, hhome]
  dsimp only
  rw [walkMessages_eq, if_neg (by simp), zip_map_self]
  rfl

end Relay

namespace Audit

/-- The line of a message without its end. -/
def lineText (message : Message) (error? : Option MessageError) : List UInt8 :=
  Utf8.encode (message.auditJson (error?.map MessageError.message)).text

theorem body_eq_framed (outcomes : List (Message × Option MessageError)) :
    body outcomes = framed (outcomes.map fun o => lineText o.1 o.2) := by
  rw [body, framed, List.flatMap_map]
  rfl

/-- **The audit log has one line for every message**, and nothing behind the last one. -/
theorem linesOf_body (outcomes : List (Message × Option MessageError)) :
    linesOf (body outcomes) = (outcomes.map fun o => lineText o.1 o.2) ++ [[]] := by
  rw [body_eq_framed]
  refine linesOf_framed _ fun r hr => ?_
  obtain ⟨o, -, rfl⟩ := List.mem_map.1 hr
  exact Json.lineEnd_notMem_text _

end Audit
end ObjectRelay

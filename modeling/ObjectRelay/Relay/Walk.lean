import ObjectRelay.Message.Event
import ObjectRelay.Relay.Activity
/-!
# Handling a message

The objects of a message are looked at in order and copied one after another.  The first
failure ends the message.  Once started, a message goes on to its end also when the
invocation is cancelled meanwhile; what the store does then is its own affair.
-/
namespace ObjectRelay

/-- What comes of handling a message, or several in a row. -/
structure Walk (σ α : Type) where
  activities : List Activity
  /-- What the message has come to. -/
  outcome : α
  isCancelled : Bool
  /-- What the store remembers then. -/
  state : σ

def Walk.prepend {σ α : Type} (activities : List Activity) (w : Walk σ α) : Walk σ α :=
  { w with activities := activities ++ w.activities }

/-- What is done about an operation: a line and a request. -/
def CopyOperation.activities (op : CopyOperation) : List Activity :=
  [.log (.copying op), .copy { operation := op }]

namespace Relay

variable {σ : Type} (relay : Relay) (store : Store σ)

/-- Copies objects until one fails; the outcome is that failure. -/
def walk : List CopyRecord → (isCancelled : Bool) → σ → Walk σ (Option MessageError)
  | [], isCancelled, state => ⟨[], none, isCancelled, state⟩
  | record :: rest, isCancelled, state => match relay.treat record with
    | .unreadable error => ⟨[], some (.source error), isCancelled, state⟩
    | .skipped source reason =>
      (walk rest isCancelled state).prepend [.log (.skipping source reason)]
    | .copied op =>
      let (answer, state) := store.copy isCancelled { operation := op } state
      let isCancelled := isCancelled || answer.isCancelling
      match answer.result with
      | .error error => ⟨op.activities, some (.copy record.uri error), isCancelled, state⟩
      | .ok () => (walk rest isCancelled state).prepend op.activities

def walkMessage (message : Message) : Bool → σ → Walk σ (Option MessageError) :=
  walk relay store (Notification.copyRecords message.body)

/-- Handles messages one after another; after a cancellation none is started.  The
outcomes are those of the messages that were. -/
def walkMessages : List Message → (isCancelled : Bool) → σ → Walk σ (List (Option MessageError))
  | [], isCancelled, state => ⟨[], [], isCancelled, state⟩
  | message :: rest, isCancelled, state =>
    if isCancelled then ⟨[], [], true, state⟩
    else
      let first := walkMessage relay store message isCancelled state
      let others := walkMessages rest first.isCancelled first.state
      { others with
        activities := first.activities ++ others.activities
        outcome := first.outcome :: others.outcome }

end Relay

end ObjectRelay

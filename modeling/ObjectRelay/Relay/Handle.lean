import ObjectRelay.Relay.Audit
import ObjectRelay.Relay.Walk
/-!
# Handling an invocation

An invocation brings messages.  They are handled, the audit log is stored, and the answer
names those that failed, in the order in which they came, for the queue to deliver again.
Without an audit log there is no answer; an invocation that is cancelled before all
messages are handled has neither.
-/
namespace ObjectRelay

inductive InvocationError where
  | missingContext (fault : ContextFault)
  | cancelled
  | auditPut (key : String) (error : StorageError)
  /-- Some messages have ended without an outcome. -/
  | resultsLost (expected : Nat)
deriving DecidableEq, Repr

def InvocationError.message : InvocationError → String
  | missingContext fault => "missing invocation context: " ++ fault.message
  | cancelled => "invocation cancelled"
  | auditPut key error => "failed to write audit log " ++ key ++ ": " ++ error.message
  | resultsLost expected =>
    "message results lost: expected " ++ toString expected ++ " results, channel closed early"

/-- What comes of an invocation: the ids of the messages that failed, or an error. -/
abbrev Handled (σ : Type) := Walk σ (Except InvocationError (List String))

def failures (outcomes : List (Message × Option MessageError)) : List (Message × MessageError) :=
  outcomes.filterMap fun (message, error?) => error?.map fun error => (message, error)

namespace Relay

variable {σ : Type} (relay : Relay) (store : Store σ)

/-- Ends an invocation whose messages have all been handled. -/
def conclude (home : FunctionHome) (requestId : String) (now : Int)
    (outcomes : List (Message × Option MessageError)) (isCancelled : Bool) (state : σ) : Handled σ :=
  let failed := failures outcomes
  let errors : List Activity := failed.map fun (message, error) => .log (.failed message.id error)
  let processed : Activity := .log (.processed outcomes.length failed.length)
  let ids := failed.map fun (message, _) => message.id
  if outcomes.isEmpty then ⟨[processed], .ok ids, isCancelled, state⟩
  else
    let key := Audit.key relay.destination home requestId now
    let request := Audit.request relay.destination key outcomes
    let (answer, state) := store.put isCancelled request state
    let isCancelled := isCancelled || answer.isCancelling
    match answer.result with
    | .error error => ⟨errors ++ [.put request], .error (.auditPut key error), isCancelled, state⟩
    | .ok () => ⟨errors ++ [.put request, processed], .ok ids, isCancelled, state⟩

/-- Handles an invocation at a time, in seconds since 1970. -/
def handle (context : InvocationContext) (messages : List Message) (now : Int)
    (isCancelled : Bool) (state : σ) : Handled σ :=
  match context.home with
  | .error fault => ⟨[], .error (.missingContext fault), isCancelled, state⟩
  | .ok home =>
    let walked := relay.walkMessages store messages isCancelled state
    if walked.isCancelled && !messages.isEmpty then { walked with outcome := .error .cancelled }
    else
      (relay.conclude store home context.requestId now (messages.zip walked.outcome)
        walked.isCancelled walked.state).prepend walked.activities

end Relay

end ObjectRelay

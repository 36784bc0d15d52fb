import ObjectRelay.Batch.Queue
import ObjectRelay.Object.Copy
import ObjectRelay.Record.Format
/-!
# Object stores

What a relay needs of the place that objects go to: it can copy an object and store one.
A store may remember things from one request to the next.
-/
namespace ObjectRelay

inductive StorageError where
  | invalidRequest (reason : String)
  | cancelled
  /-- Nothing is known that could read the object. -/
  | decode (error : FormatError)
  | batch (error : BatchError)
  /-- The store itself has failed. -/
  | backend (reason : String)
deriving DecidableEq, Repr

namespace StorageError

def message : StorageError → String
  | invalidRequest reason => "invalid request: " ++ reason
  | cancelled => "operation cancelled"
  | decode error => "failed to decode object: " ++ error.message
  | batch error => error.message
  | backend reason => "storage request failed: " ++ reason

/-- Whether the same request may do better later: only an invalid one never does. -/
def isRetryable : StorageError → Bool
  | invalidRequest _ => false
  | _ => true

end StorageError

structure StoreAnswer where
  result : Except StorageError Unit := .ok ()
  /-- Whether the invocation has been cancelled meanwhile. -/
  isCancelling : Bool := false

/-- A store that remembers a `σ`.  It is told whether the invocation that asks is
cancelled. -/
structure Store (σ : Type) where
  copy : (isCancelled : Bool) → CopyRequest → σ → StoreAnswer × σ
  put : (isCancelled : Bool) → PutRequest → σ → StoreAnswer × σ

end ObjectRelay

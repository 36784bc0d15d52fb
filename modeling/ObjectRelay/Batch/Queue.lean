import ObjectRelay.Batch.Buffer
import ObjectRelay.Delivery.Client
import ObjectRelay.Record.Decoder
/-!
# The queue between records and deliveries

One side pushes records, which gather in a pending buffer until the next one would make
it too large; then the buffer is handed over as a batch and another one takes its place.
The other side takes batches out.  Both sides can wait for each other, be cancelled, or
go away.
-/
namespace ObjectRelay

inductive BatchError where
  | recordTooLong (length maxBatchSize : Nat)
  | cancelled
  /-- Nobody takes batches out any more. -/
  | closed
  | decode (error : DecodeError)
  | delivery (error : DeliveryError)
deriving DecidableEq, Repr

def BatchError.message : BatchError → String
  | recordTooLong length maxBatchSize =>
    "record length " ++ toString length ++ " exceeds max batch size " ++ toString maxBatchSize
  | cancelled => "batch processing cancelled"
  | closed => "batch queue closed"
  | decode error => error.message
  | delivery error => error.message

/-- A queue of batches, with the pool that their buffers come from. -/
structure BatchQueue where
  maxBatchSize : Nat
  slots : Nat
  pool : BufferPool
  /-- The records that are not yet a batch, each with its line end. -/
  pending : List UInt8 := []
  /-- The batches that wait, the next one first. -/
  waiting : List Batch := []
  isCancelled : Bool := false
  isSending : Bool := true
  /-- Whether anybody takes batches out. -/
  isReceiving : Bool := true

namespace BatchQueue

/-- A queue with at least one slot; its pending buffer comes from the pool. -/
def ofPool (maxBatchSize slots : Nat) (pool : BufferPool) : BatchQueue :=
  let (pending, pool) := pool.take maxBatchSize
  { maxBatchSize, slots := max 1 slots, pool, pending }

def release (q : BatchQueue) (batch : Batch) : BatchQueue := { q with pool := q.pool.give batch }

def cancel (q : BatchQueue) : BatchQueue := { q with isCancelled := true }

/-! ## Handing over -/

/-- Takes the pending records out as a batch; another buffer takes their place. -/
def takePending (q : BatchQueue) : Batch × BatchQueue :=
  let (pending, pool) := q.pool.take q.maxBatchSize
  (⟨q.pending, q.maxBatchSize⟩, { q with pending, pool })

inductive Offer where
  | taken (q : BatchQueue)
  | refused (error : BatchError)
  | full

/-- Offers a batch.  Cancellation is seen first, and batches nobody would take are
refused. -/
def offer (q : BatchQueue) (batch : Batch) : Offer :=
  if q.isCancelled then .refused .cancelled
  else if !q.isReceiving then .refused .closed
  else if q.waiting.length < q.slots then .taken { q with waiting := q.waiting ++ [batch] }
  else .full

/-- How an operation that may have to wait ends. -/
inductive Outcome where
  | done
  | failed (error : BatchError)
  /-- It would have to wait, and is given up. -/
  | waits
deriving DecidableEq, Repr

/-- Hands the pending records over.  A batch that is not taken is gone. -/
def flush (q : BatchQueue) : Outcome × BatchQueue :=
  if q.pending.isEmpty then (.done, q)
  else
    let (batch, q) := q.takePending
    match q.offer batch with
    | .taken q => (.done, q)
    | .refused error => (.failed error, q.release batch)
    | .full => (.waits, q.release batch)

/-- Adds a record and a line end to the pending ones. -/
def append (q : BatchQueue) (record : List UInt8) : BatchQueue :=
  { q with pending := q.pending ++ record ++ [lineEnd] }

/-- Whether a record with its line end is too long for any batch. -/
def isTooLong (q : BatchQueue) (record : List UInt8) : Bool := q.maxBatchSize < record.length + 1

/-- Whether a record with its line end still fits the pending ones. -/
def hasRoom (q : BatchQueue) (record : List UInt8) : Bool :=
  q.pending.length + (record.length + 1) ≤ q.maxBatchSize

/-- Pushes a record; if it would make the pending ones too large they are handed over
first. -/
def push (q : BatchQueue) (record : List UInt8) : Outcome × BatchQueue :=
  if q.isTooLong record then (.failed (.recordTooLong (record.length + 1) q.maxBatchSize), q)
  else if q.hasRoom record then (.done, q.append record)
  else match q.flush with
    | (.done, q) => (.done, q.append record)
    | other => other

/-- Ends the sending side; records that are still pending are gone. -/
def dropSender (q : BatchQueue) : BatchQueue := { q with isSending := false, pending := [] }

/-- Hands over what is pending and ends the sending side. -/
def close (q : BatchQueue) : Outcome × BatchQueue :=
  let (outcome, q) := q.flush
  (outcome, q.dropSender)

/-! ## Taking out -/

inductive Received where
  | batch (batch : Batch) (q : BatchQueue)
  /-- There will be no more batches. -/
  | drained
  | refused (error : BatchError)
  | waits

/-- Takes the next batch out.  Cancellation is seen first. -/
def receive (q : BatchQueue) : Received :=
  if q.isCancelled then .refused .cancelled
  else match q.waiting with
    | batch :: waiting => .batch batch { q with waiting }
    | [] => if q.isSending then .waits else .drained

/-- Ends the receiving side; batches that still wait are gone. -/
def dropReceiver (q : BatchQueue) : BatchQueue :=
  { q with
    isReceiving := false
    waiting := []
    pool := q.waiting.foldl BufferPool.give q.pool }

structure Handling where
  result : Except DeliveryError Unit := .ok ()
  isCancelling : Bool := false

/-- Takes out and handles the batches that wait, `n` having been handled before; the
handled ones come back too. -/
def drain (handler : Nat → List UInt8 → Handling) (q : BatchQueue) :
    List Batch → Nat → Outcome × List Batch × BatchQueue
  | [], _ =>
    let q := { q with waiting := [] }
    let outcome := match q.receive with
      | .refused error => .failed error
      | .drained => .done
      | _ => .waits
    (outcome, [], q)
  | batch :: waiting, n =>
    if q.isCancelled then (.failed .cancelled, [], { q with waiting := batch :: waiting })
    else
      let handling := handler n batch.bytes
      let q := (if handling.isCancelling then q.cancel else q).release batch
      match handling.result with
      | .error error => (.failed (.delivery error), [batch], { q with waiting })
      | .ok () =>
        let (outcome, handled, q) := drain handler q waiting (n + 1)
        (outcome, batch :: handled, q)

/-- Handles batches until there are no more, one has to be waited for, or one fails.
Each buffer goes back when its batch has been handled. -/
def process (q : BatchQueue) (handler : Nat → List UInt8 → Handling) :
    Outcome × List Batch × BatchQueue :=
  q.drain handler q.waiting 0

end BatchQueue

end ObjectRelay

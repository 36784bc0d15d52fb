import ObjectRelay.Batch.Queue
import ObjectRelay.Proofs.Batch.Pool
/-!
# What the operations of a queue do

`flush` hands the pending bytes over, and `push` and `close` may do so first.  Whatever comes of it, the
pending buffer has been swapped for another one before anybody knows: the batch is then in the queue
(`sendPending`) or gone (`losePending`).  `offer_cases`, `receive_cases` and `flush_eq` say what each
operation does, once.
-/
namespace ObjectRelay

/-- Whether an error says that a batch was not taken. -/
def BatchError.IsRefusal (error : BatchError) : Prop := error = .cancelled ∨ error = .closed

namespace BatchQueue

/-- What comes of an offer, and what the queue was like. -/
theorem offer_cases (q : BatchQueue) (batch : Batch) :
    (q.isCancelled = true ∧ q.offer batch = .refused .cancelled) ∨
    (q.isCancelled = false ∧ q.isReceiving = false ∧ q.offer batch = .refused .closed) ∨
    (q.isCancelled = false ∧ q.isReceiving = true ∧ q.waiting.length < q.slots ∧
      q.offer batch = .taken { q with waiting := q.waiting ++ [batch] }) ∨
    (q.isCancelled = false ∧ q.isReceiving = true ∧ q.slots ≤ q.waiting.length ∧ q.offer batch = .full) := by
  unfold offer
  cases q.isCancelled <;> cases q.isReceiving <;> simp
  by_cases h : q.waiting.length < q.slots
  · simp [h]
  · simp [h, Nat.le_of_not_lt h]

/-- What comes of asking for a batch, and what the queue was like. -/
theorem receive_cases (q : BatchQueue) :
    (q.isCancelled = true ∧ q.receive = .refused .cancelled) ∨
    (∃ batch waiting, q.isCancelled = false ∧ q.waiting = batch :: waiting ∧
      q.receive = .batch batch { q with waiting }) ∨
    (q.isCancelled = false ∧ q.waiting = [] ∧ q.isSending = false ∧ q.receive = .drained) ∨
    (q.isCancelled = false ∧ q.waiting = [] ∧ q.isSending = true ∧ q.receive = .waits) := by
  unfold receive
  cases hc : q.isCancelled with
  | true => simp
  | false =>
    cases hw : q.waiting with
    | cons batch waiting => exact .inr (.inl ⟨batch, waiting, rfl, rfl, by simp⟩)
    | nil => cases hs : q.isSending <;> simp

/-- The pending bytes as a batch. -/
def pendingBatch (q : BatchQueue) : Batch := ⟨q.pending, q.maxBatchSize⟩

/-- The queue with another pending buffer. -/
def swapPending (q : BatchQueue) : BatchQueue :=
  { q with pending := (q.pool.take q.maxBatchSize).1, pool := (q.pool.take q.maxBatchSize).2 }

/-- The pending bytes wait as a batch. -/
def sendPending (q : BatchQueue) : BatchQueue :=
  { q.swapPending with waiting := q.waiting ++ [q.pendingBatch] }

/-- The pending bytes are gone. -/
def losePending (q : BatchQueue) : BatchQueue := q.swapPending.release q.pendingBatch

@[simp] theorem waiting_swapPending (q : BatchQueue) : q.swapPending.waiting = q.waiting := rfl

@[simp] theorem maxBatchSize_swapPending (q : BatchQueue) : q.swapPending.maxBatchSize = q.maxBatchSize := rfl

theorem pending_swapPending {q : BatchQueue} (h : q.pool.IsClean) : q.swapPending.pending = [] :=
  BufferPool.take_fst_of_isClean h _

theorem takePending_eq (q : BatchQueue) : q.takePending = (q.pendingBatch, q.swapPending) := rfl

/-- Pending bytes are offered as a batch, and gone if it is not taken. -/
theorem flush_eq {q : BatchQueue} (h : q.pending ≠ []) : q.flush =
    match q.swapPending.offer q.pendingBatch with
    | .taken q' => (.done, q')
    | .refused error => (.failed error, q.losePending)
    | .full => (.waits, q.losePending) := by
  unfold flush
  rw [if_neg (by simpa using h), takePending_eq]
  rfl

end BatchQueue
end ObjectRelay

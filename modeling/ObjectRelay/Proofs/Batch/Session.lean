import ObjectRelay.Proofs.Batch.Queue
/-!
# Sessions with a queue

Whoever uses a queue calls its operations one after the other, in any order: records are pushed, batches are
taken out and dropped, both sides are cancelled or go away.  A call of the sending side that finds all slots full
waits with the batch that it hands over, while the other side goes on; it is looked at again, or given up.  Given up
at once, it has done what the operation of the queue says (`QueueSession.giveUp_make`).

A session is the queue, that call, and what can be seen from outside: the records whose push has succeeded,
the batches that were taken out, and what was lost, by what (`Loss`).  `step?` says what an action does, and
every list of actions is a session.
-/
namespace ObjectRelay

/-- What a call of the sending side is for. -/
inductive Errand where
  | push (record : List UInt8)
  | flush
  | close
deriving DecidableEq, Repr

namespace Errand

/-- The call itself. -/
def run (q : BatchQueue) : Errand → BatchQueue.Outcome × BatchQueue
  | push record => q.push record
  | flush => q.flush
  | close => q.close

/-- The records that the call adds when it succeeds. -/
def records : Errand → List (List UInt8)
  | push record => [record]
  | flush | close => []

/-- What is left to do when the pending bytes have been handed over. -/
def succeed (q : BatchQueue) : Errand → BatchQueue
  | push record => q.append record
  | flush => q
  | close => q.dropSender

/-- What is left to do when they have not. -/
def fail (q : BatchQueue) : Errand → BatchQueue
  | push _ | flush => q
  | close => q.dropSender

end Errand

/-- By what a batch or pending bytes were lost. -/
inductive Loss where
  /-- A call that was handing them over has failed. -/
  | refused
  /-- The caller has given such a call up. -/
  | givenUp
  /-- The queue was dropped with them pending. -/
  | discarded
  /-- The last receiver was dropped with them waiting. -/
  | stranded
deriving DecidableEq, Repr

/-- A session with a queue. -/
structure QueueSession where
  queue : BatchQueue
  /-- The call that waits, and the batch that it hands over. -/
  call : Option (Errand × Batch) := none
  receivers : Nat := 1
  /-- The batches that receivers hold. -/
  held : List Batch := []
  /-- The records whose push has succeeded, in that order. -/
  accepted : List (List UInt8) := []
  /-- The batches that were taken out, in that order. -/
  received : List Batch := []
  lost : List (Loss × List UInt8) := []

namespace QueueSession

/-- A session with a new queue. -/
def start (maxBatchSize slots : Nat) (pool : BufferPool) : QueueSession where
  queue := .ofPool maxBatchSize slots pool

/-- What is done in a session. -/
inductive Action where
  | call (errand : Errand)
  /-- The call that waits is looked at again. -/
  | resume
  | giveUp
  | receive
  | dropBatch (i : Nat)
  | cancel
  | dropQueue
  | cloneReceiver
  | dropReceiver
deriving DecidableEq, Repr

/-- The pending bytes, if there are any, as lost by `loss`. -/
def lostPending (loss : Loss) (q : BatchQueue) : List (Loss × List UInt8) :=
  if q.pending.isEmpty then [] else [(loss, q.pending)]

/-- Makes a call.  One that has to wait holds on to its batch. -/
def make? (s : QueueSession) (errand : Errand) : Option QueueSession :=
  if !s.queue.isSending || s.call.isSome then none
  else match errand.run s.queue with
    | (.done, queue) => some { s with queue, accepted := s.accepted ++ errand.records }
    | (.failed (.recordTooLong ..), queue) => some { s with queue }
    | (.failed _, queue) => some { s with queue, lost := s.lost ++ lostPending .refused s.queue }
    | (.waits, _) => some { s with queue := s.queue.swapPending, call := some (errand, s.queue.pendingBatch) }

/-- Looks at the call that waits. -/
def resume? (s : QueueSession) : Option QueueSession :=
  match s.call with
  | none => none
  | some (errand, batch) => match s.queue.offer batch with
    | .full => none
    | .taken queue =>
      some { s with queue := errand.succeed queue, call := none, accepted := s.accepted ++ errand.records }
    | .refused _ => some { s with
        queue := errand.fail (s.queue.release batch)
        call := none
        lost := s.lost ++ [(.refused, batch.bytes)] }

/-- Gives the call that waits up. -/
def giveUp? (s : QueueSession) : Option QueueSession :=
  match s.call with
  | none => none
  | some (errand, batch) => some { s with
      queue := errand.fail (s.queue.release batch)
      call := none
      lost := s.lost ++ [(.givenUp, batch.bytes)] }

/-- Asks for a batch; any other answer changes nothing. -/
def receive? (s : QueueSession) : Option QueueSession :=
  if s.receivers = 0 then none
  else match s.queue.receive with
    | .batch batch queue =>
      some { s with queue, held := s.held ++ [batch], received := s.received ++ [batch] }
    | _ => some s

/-- Drops a batch that was taken out. -/
def dropBatch? (s : QueueSession) (i : Nat) : Option QueueSession :=
  s.held[i]?.map fun batch => { s with queue := s.queue.release batch, held := s.held.eraseIdx i }

/-- Drops the queue without closing it. -/
def dropQueue? (s : QueueSession) : Option QueueSession :=
  if !s.queue.isSending || s.call.isSome then none
  else some { s with queue := s.queue.dropSender, lost := s.lost ++ lostPending .discarded s.queue }

/-- Drops a receiver; the last one takes the batches that wait with it. -/
def dropReceiver? (s : QueueSession) : Option QueueSession :=
  match s.receivers with
  | 0 => none
  | 1 => some { s with
      queue := s.queue.dropReceiver
      receivers := 0
      lost := s.lost ++ s.queue.waiting.map fun batch => (.stranded, batch.bytes) }
  | n + 2 => some { s with receivers := n + 1 }

/-- The session behind an action, `none` if it cannot be done. -/
def step? (s : QueueSession) : Action → Option QueueSession
  | .call errand => s.make? errand
  | .resume => s.resume?
  | .giveUp => s.giveUp?
  | .receive => s.receive?
  | .dropBatch i => s.dropBatch? i
  | .cancel => some { s with queue := s.queue.cancel }
  | .dropQueue => s.dropQueue?
  | .cloneReceiver => if s.receivers = 0 then none else some { s with receivers := s.receivers + 1 }
  | .dropReceiver => s.dropReceiver?

/-- The session behind actions in a row. -/
def replay? : QueueSession → List Action → Option QueueSession
  | s, [] => some s
  | s, action :: rest => (s.step? action).bind fun s => replay? s rest

/-- The batch that the call that waits hands over. -/
def offered (s : QueueSession) : List Batch := s.call.toList.map (·.2)

/-- The batches that have left the sending side and were not lost, in the order in which they did. -/
def outgoing (s : QueueSession) : List Batch := s.received ++ s.queue.waiting ++ s.offered

end QueueSession

/-! ## What an errand does -/

namespace Errand

/-- Whether an errand has to hand pending bytes over first. -/
def handsOver (q : BatchQueue) : Errand → Bool
  | push record => !q.isTooLong record && !q.hasRoom record
  | flush | close => !q.pending.isEmpty

theorem pending_ne_nil_of_handsOver {errand : Errand} {q : BatchQueue} (h : errand.handsOver q = true) :
    q.pending ≠ [] := by
  intro hp
  cases errand with
  | push record =>
    simp only [handsOver, BatchQueue.isTooLong, BatchQueue.hasRoom, hp, List.length_nil, Bool.and_eq_true,
      Bool.not_eq_true', decide_eq_false_iff_not] at h
    omega
  | flush | close => simp [handsOver, hp] at h

/-- What becomes of an errand is what becomes of the pending bytes that it offers. -/
theorem run_eq_of_handsOver {errand : Errand} {q : BatchQueue} (h : errand.handsOver q = true) :
    errand.run q = match q.swapPending.offer q.pendingBatch with
      | .taken q' => (.done, errand.succeed q')
      | .refused error => (.failed error, errand.fail q.losePending)
      | .full => (.waits, errand.fail q.losePending) := by
  have hflush := BatchQueue.flush_eq (pending_ne_nil_of_handsOver h)
  cases errand with
  | push record =>
    simp only [handsOver, Bool.and_eq_true, Bool.not_eq_true'] at h
    simp only [run, BatchQueue.push, h.1, h.2, hflush, Bool.false_eq_true, if_false]
    cases q.swapPending.offer q.pendingBatch <;> rfl
  | flush =>
    rw [run, hflush]
    cases q.swapPending.offer q.pendingBatch <;> rfl
  | close =>
    rw [run, BatchQueue.close, hflush]
    cases q.swapPending.offer q.pendingBatch <;> rfl

/-- An errand that has nothing to hand over succeeds, or is refused for its record. -/
theorem run_eq_of_not_handsOver {errand : Errand} {q : BatchQueue} (h : errand.handsOver q = false) :
    (∃ record, errand = .push record ∧ q.maxBatchSize < record.length + 1 ∧ errand.run q =
      (.failed (.recordTooLong (record.length + 1) q.maxBatchSize), q)) ∨
    (∀ r ∈ errand.records, q.pending.length + (r.length + 1) ≤ q.maxBatchSize) ∧
      (errand.records = [] → q.pending = []) ∧ errand.run q = (.done, errand.succeed q) := by
  cases errand with
  | push record =>
    cases hlong : q.isTooLong record with
    | true =>
      refine .inl ⟨record, rfl, by simpa [BatchQueue.isTooLong] using hlong, ?_⟩
      simp only [run, BatchQueue.push, hlong, if_true]
    | false =>
      have hroom : q.hasRoom record = true := by simpa [handsOver, hlong] using h
      refine .inr ⟨?_, nofun, ?_⟩
      · simpa [records, BatchQueue.hasRoom] using hroom
      · simp only [run, BatchQueue.push, hlong, hroom, Bool.false_eq_true, if_false, if_true, succeed]
  | flush =>
    have hp : q.pending = [] := by simpa [handsOver] using h
    exact .inr ⟨nofun, fun _ => hp, by simp [run, BatchQueue.flush, hp, succeed]⟩
  | close =>
    have hp : q.pending = [] := by simpa [handsOver] using h
    exact .inr ⟨nofun, fun _ => hp, by simp [run, BatchQueue.close, BatchQueue.flush, hp, succeed]⟩

theorem fits_of_handsOver {errand : Errand} {q : BatchQueue} (h : errand.handsOver q = true) :
    ∀ r ∈ errand.records, r.length + 1 ≤ q.maxBatchSize := by
  cases errand with
  | push record =>
    obtain ⟨hlong, -⟩ : record.length + 1 ≤ q.maxBatchSize ∧ _ := by
      simpa [handsOver, BatchQueue.isTooLong] using h
    simpa [records] using hlong
  | flush | close => exact nofun

/-- **What an errand does**, by whether it has to hand pending bytes over first. -/
theorem run_cases (errand : Errand) (q : BatchQueue) :
    (∃ record, errand = .push record ∧ errand.run q =
      (.failed (.recordTooLong (record.length + 1) q.maxBatchSize), q)) ∨
    (∀ r ∈ errand.records, q.pending.length + (r.length + 1) ≤ q.maxBatchSize) ∧
      (errand.records = [] → q.pending = []) ∧ errand.run q = (.done, errand.succeed q) ∨
    q.pending ≠ [] ∧ (∀ r ∈ errand.records, r.length + 1 ≤ q.maxBatchSize) ∧
      (errand.run q = (.done, errand.succeed q.sendPending) ∨
      (∃ error, error.IsRefusal ∧ errand.run q = (.failed error, errand.fail q.losePending)) ∨
      errand.run q = (.waits, errand.fail q.losePending)) := by
  cases h : errand.handsOver q with
  | false =>
    rcases run_eq_of_not_handsOver h with ⟨record, herrand, -, hr⟩ | hr
    · exact .inl ⟨record, herrand, hr⟩
    · exact .inr (.inl hr)
  | true =>
    refine .inr (.inr ⟨pending_ne_nil_of_handsOver h, fits_of_handsOver h, ?_⟩)
    rw [run_eq_of_handsOver h]
    rcases q.swapPending.offer_cases q.pendingBatch with ⟨_, ho⟩ | ⟨_, _, ho⟩ | ⟨_, _, _, ho⟩ | ⟨_, _, _, ho⟩ <;>
      rw [ho]
    · exact .inr (.inl ⟨.cancelled, .inl rfl, rfl⟩)
    · exact .inr (.inl ⟨.closed, .inr rfl, rfl⟩)
    · exact .inl rfl
    · exact .inr (.inr rfl)

variable (errand : Errand) (q : BatchQueue)

@[simp] theorem waiting_succeed : (errand.succeed q).waiting = q.waiting := by cases errand <;> rfl

@[simp] theorem pool_succeed : (errand.succeed q).pool = q.pool := by cases errand <;> rfl

@[simp] theorem maxBatchSize_succeed : (errand.succeed q).maxBatchSize = q.maxBatchSize := by cases errand <;> rfl

@[simp] theorem slots_succeed : (errand.succeed q).slots = q.slots := by cases errand <;> rfl

@[simp] theorem isCancelled_succeed : (errand.succeed q).isCancelled = q.isCancelled := by cases errand <;> rfl

@[simp] theorem isReceiving_succeed : (errand.succeed q).isReceiving = q.isReceiving := by cases errand <;> rfl

@[simp] theorem waiting_fail : (errand.fail q).waiting = q.waiting := by cases errand <;> rfl

@[simp] theorem pool_fail : (errand.fail q).pool = q.pool := by cases errand <;> rfl

@[simp] theorem maxBatchSize_fail : (errand.fail q).maxBatchSize = q.maxBatchSize := by cases errand <;> rfl

theorem pending_fail {errand : Errand} {q : BatchQueue} (h : q.pending = []) : (errand.fail q).pending = [] := by
  cases errand with
  | push | flush => exact h
  | close => rfl

end Errand

/-- A record that is too long for any batch changes nothing. -/
theorem BatchQueue.push_eq_self_of_tooLong {q : BatchQueue} {record : List UInt8} {length size : Nat}
    (h : (q.push record).1 = .failed (.recordTooLong length size)) : (q.push record).2 = q := by
  have hrun : Errand.run q (.push record) = q.push record := rfl
  rcases Errand.run_cases (.push record) q with ⟨_, _, hr⟩ | ⟨_, _, hr⟩ | ⟨_, _, hr | ⟨error, he, hr⟩ | hr⟩ <;>
    rw [hrun] at hr <;> rw [hr] at h ⊢
  · cases h
  · cases h
  · obtain rfl := BatchQueue.Outcome.failed.inj h
    rcases he with he | he <;> cases he
  · cases h

namespace QueueSession

/-- The session while a call hands the pending bytes over, before anybody has looked whether they are taken. -/
def handingOver (s : QueueSession) (errand : Errand) : QueueSession :=
  { s with queue := s.queue.swapPending, call := some (errand, s.queue.pendingBatch) }

/-- Who makes calls has not ended the sending side, and has no call that waits. -/
theorem call_eq_none_of_make {s s' : QueueSession} {errand : Errand} (hs : s.make? errand = some s') :
    s.queue.isSending = true ∧ s.call = none := by
  unfold make? at hs
  split at hs
  · cases hs
  · rename_i hguard
    cases hsend : s.queue.isSending <;> cases hcall : s.call <;> simp [hsend, hcall] at hguard ⊢

/-- **A call that hands over is looked at like one that waits**, and waits if its batch is not taken. -/
theorem make?_of_handsOver {s : QueueSession} {errand : Errand} (hsend : s.queue.isSending = true)
    (hcall : s.call = none) (h : errand.handsOver s.queue = true) :
    s.make? errand = some ((s.handingOver errand).resume?.getD (s.handingOver errand)) := by
  have hlost : lostPending .refused s.queue = [(.refused, s.queue.pendingBatch.bytes)] :=
    if_neg (by simpa using Errand.pending_ne_nil_of_handsOver h)
  rw [make?, hsend, hcall, Errand.run_eq_of_handsOver h, resume?]
  simp only [handingOver]
  rcases s.queue.swapPending.offer_cases s.queue.pendingBatch with
    ⟨_, ho⟩ | ⟨_, _, ho⟩ | ⟨_, _, _, ho⟩ | ⟨_, _, _, ho⟩ <;> simp [ho, hlost, BatchQueue.losePending]

/-- **What looking at the call that waits does**: its batch is lost, or waits and the call has succeeded. -/
theorem resume_cases {s s' : QueueSession} (hs : s.resume? = some s') :
    ∃ errand batch, s.call = some (errand, batch) ∧
      ((s.queue.isCancelled = true ∨ s.queue.isReceiving = false) ∧ s' = { s with
          queue := errand.fail (s.queue.release batch)
          call := none
          lost := s.lost ++ [(.refused, batch.bytes)] } ∨
      s' = { s with
        queue := errand.succeed { s.queue with waiting := s.queue.waiting ++ [batch] }
        call := none
        accepted := s.accepted ++ errand.records }) := by
  unfold resume? at hs
  split at hs
  · cases hs
  rename_i errand batch hcall
  refine ⟨errand, batch, hcall, ?_⟩
  rcases s.queue.offer_cases batch with ⟨hc, ho⟩ | ⟨_, hr, ho⟩ | ⟨_, _, _, ho⟩ | ⟨_, _, _, ho⟩ <;> rw [ho] at hs
  · exact .inl ⟨.inl hc, (Option.some.inj hs).symm⟩
  · exact .inl ⟨.inr hr, (Option.some.inj hs).symm⟩
  · exact .inr (Option.some.inj hs).symm
  · cases hs

/-- **What asking for a batch does**: nothing, or the next one is taken out. -/
theorem receive_cases {s s' : QueueSession} (hs : s.receive? = some s') :
    s' = s ∨ ∃ batch waiting, s.queue.waiting = batch :: waiting ∧ s' = { s with
      queue.waiting := waiting
      held := s.held ++ [batch]
      received := s.received ++ [batch] } := by
  unfold receive? at hs
  split at hs
  · cases hs
  rcases s.queue.receive_cases with ⟨_, ho⟩ | ⟨batch, waiting, _, hw, ho⟩ | ⟨_, _, _, ho⟩ | ⟨_, _, _, ho⟩ <;>
    rw [ho] at hs
  · exact .inl (Option.some.inj hs).symm
  · exact .inr ⟨batch, waiting, hw, (Option.some.inj hs).symm⟩
  · exact .inl (Option.some.inj hs).symm
  · exact .inl (Option.some.inj hs).symm

/-- What a call leaves that is given up as soon as it waits is what the operation itself says. -/
theorem giveUp_make {s s' : QueueSession} {errand : Errand} (hs : s.make? errand = some s')
    (hwaits : (errand.run s.queue).1 = .waits) :
    s'.giveUp?.map (·.queue) = some (errand.run s.queue).2 := by
  unfold make? at hs
  split at hs
  · cases hs
  rcases errand.run_cases s.queue with
    ⟨record, -, hr⟩ | ⟨-, -, hr⟩ | ⟨-, -, hr | ⟨error, -, hr⟩ | hr⟩ <;> rw [hr] at hs hwaits
  · cases hwaits
  · cases hwaits
  · cases hwaits
  · cases hwaits
  · obtain rfl := Option.some.inj hs
    rw [hr]
    rfl

end QueueSession
end ObjectRelay

import ObjectRelay.Proofs.Batch.Groups
import ObjectRelay.Proofs.Run.Setup
/-!
# Which batches a run hands over

The batches of a run are decided by its limits and the records alone (`BatchLimits.batches`): the records that are not
too large to keep, cut before the first one that no batch can hold, and grouped greedily.  They are whole records in
their order (`BatchLimits.flatten_batches`), and none is empty or too large (`BatchLimits.exists_of_mem_batches`).
`Ledger` says where these batches are while a run goes on: the first ones have reached the handler, the next ones wait,
and as long as the producer is live and somebody receives, the others are exactly those that it still makes (`future`).
-/
namespace ObjectRelay
namespace BatchLimits

/-- The records that are not larger than a record may be, as they are sent. -/
def keepable (limits : BatchLimits) (records : List Record) : List (List UInt8) :=
  (records.map fun r => Utf8.encode r.text).filter fun bytes => bytes.length ≤ limits.maxRecordSize

/-- The records of a run: those that can be kept, cut before the first one that no batch can hold. -/
def kept (limits : BatchLimits) (records : List Record) : List (List UInt8) :=
  (limits.keepable records).takeWhile fun bytes => bytes.length + 1 ≤ limits.maxBatchSize

/-- **The batches of a run**: its records, grouped greedily. -/
def batches (limits : BatchLimits) (records : List Record) : List (List UInt8) :=
  (groups limits.maxBatchSize (limits.kept records)).map framed

variable {limits : BatchLimits} {r : Record} {records : List Record}

theorem keepable_cons_of_lt (h : limits.maxRecordSize < (Utf8.encode r.text).length) :
    limits.keepable (r :: records) = limits.keepable records := by
  rw [keepable, List.map_cons, List.filter_cons_of_neg (by simpa using h), keepable]

theorem keepable_cons_of_le (h : (Utf8.encode r.text).length ≤ limits.maxRecordSize) :
    limits.keepable (r :: records) = Utf8.encode r.text :: limits.keepable records := by
  rw [keepable, List.map_cons, List.filter_cons_of_pos (by simpa using h), keepable]

theorem kept_cons_of_lt (h : limits.maxRecordSize < (Utf8.encode r.text).length) :
    limits.kept (r :: records) = limits.kept records := by
  rw [kept, keepable_cons_of_lt h, kept]

theorem kept_cons_of_le (h : (Utf8.encode r.text).length ≤ limits.maxRecordSize)
    (hfit : (Utf8.encode r.text).length + 1 ≤ limits.maxBatchSize) :
    limits.kept (r :: records) = Utf8.encode r.text :: limits.kept records := by
  rw [kept, keepable_cons_of_le h, List.takeWhile_cons_of_pos (by simpa using hfit), kept]

/-- Every batch is made of whole records, and the records come in their order. -/
theorem flatten_batches (limits : BatchLimits) (records : List Record) :
    (limits.batches records).flatten = framed (limits.kept records) := by
  rw [batches, ← framed_flatten, flatten_groups]

/-- Every batch holds a record, and none is larger than a batch may be. -/
theorem exists_of_mem_batches {batch : List UInt8} (h : batch ∈ limits.batches records) :
    ∃ group, group ≠ [] ∧ batch = framed group ∧ batch.length ≤ limits.maxBatchSize := by
  obtain ⟨group, hgroup, rfl⟩ := List.mem_map.1 h
  have hfits : ∀ r ∈ limits.kept records, r.length + 1 ≤ limits.maxBatchSize := fun r hr =>
    of_decide_eq_true (List.all_eq_true.1 List.all_takeWhile r hr)
  obtain ⟨hne, hlength⟩ := fits_of_mem_groups hfits group hgroup
  exact ⟨group, hne, rfl, hlength⟩

end BatchLimits

namespace BatchRun

/-- The batches that the producer has yet to hand over, if nothing goes wrong. -/
def future (limits : BatchLimits) (s : BatchRun) : List (List UInt8) :=
  let size := limits.maxBatchSize
  match s.producer with
  | .reading => batchesFrom size s.queue.pending (limits.kept s.input.records)
  | .looking (.ok r) => batchesFrom size s.queue.pending (limits.kept (r :: s.input.records))
  | .looking (.error _) => batchesFrom size s.queue.pending []
  | .offering batch (some r) =>
    batch.bytes :: batchesFrom size (s.queue.pending ++ r ++ [lineEnd]) (limits.kept s.input.records)
  | .offering batch none => [batch.bytes]
  | .ended _ | .joined => []

/-- The batches that have left the producer, in the order in which they did. -/
def sent (s : BatchRun) : List (List UInt8) := s.handed ++ s.queue.waiting.map (·.bytes)

/-- **Where the batches of a run are.** -/
structure Ledger (limits : BatchLimits) (records : List Record) (s : BatchRun) : Prop where
  sent_prefix : s.sent <+: limits.batches records
  sent_append_future : s.producer.isLive = true → s.queue.isReceiving = true →
    s.sent ++ s.future limits = limits.batches records

theorem ledger_start (limits : BatchLimits) {pool : BufferPool} (hpool : pool.IsClean) (input : Decoded) :
    Ledger limits input.records (start limits pool input) where
  sent_prefix := List.nil_prefix
  sent_append_future _ _ := by
    have hpending : (pool.take limits.maxBatchSize).1 = [] := BufferPool.take_fst_of_isClean hpool _
    simp [start, sent, future, BatchQueue.ofPool, hpending, batchesFrom_nil, BatchLimits.batches]

namespace Ledger

variable {limits : BatchLimits} {records : List Record} {s s' : BatchRun} {a : Action}

theorem endProducer (h : Ledger limits records s) (conclusion : Conclusion) :
    Ledger limits records (s.endProducer conclusion) where
  sent_prefix := h.sent_prefix
  sent_append_future hlive := nomatch hlive

theorem giveBack (h : Ledger limits records s) (batch : Batch) :
    Ledger limits records { s with queue.pool := s.queue.pool.give batch } := { h with }

theorem setConsumer (h : Ledger limits records s) (i : Nat) (c : Consumer) :
    Ledger limits records (s.setConsumer i c) := { h with }

/-- When the last consumer lets go, the batches that wait are gone, and none will follow. -/
theorem detach (h : Ledger limits records s) (i : Nat) (conclusion : Conclusion) :
    Ledger limits records (s.detach i conclusion) := by
  unfold BatchRun.detach
  dsimp only
  split
  · exact h.setConsumer i _
  · refine ⟨?_, fun _ hrecv => nomatch hrecv⟩
    exact (List.prefix_append_right_inj s.handed |>.2 List.nil_prefix).trans h.sent_prefix

/-- The producer goes on, and what it has yet to hand over stays the same. -/
theorem of_future_eq (h : Ledger limits records s) (hlive : s'.producer.isLive = true → s.producer.isLive = true)
    (hsent : s'.sent = s.sent) (hrecv : s'.queue.isReceiving = s.queue.isReceiving)
    (hfuture : s'.future limits = s.future limits) : Ledger limits records s' where
  sent_prefix := hsent ▸ h.sent_prefix
  sent_append_future hl hr := by
    rw [hsent, hfuture]
    exact h.sent_append_future (hlive hl) (hrecv ▸ hr)

/-- The next batch is sent. -/
theorem of_future_cons (h : Ledger limits records s) (hlive : s.producer.isLive = true)
    (hrecv : s.queue.isReceiving = true) {batch : List UInt8} {rest : List (List UInt8)}
    (hfuture : s.future limits = batch :: rest) (hsent : s'.sent = s.sent ++ [batch])
    (hrest : s'.producer.isLive = true → s'.future limits = rest) : Ledger limits records s' := by
  have hall : s.sent ++ [batch] ++ rest = limits.batches records := by
    rw [List.append_assoc, List.singleton_append, ← hfuture]
    exact h.sent_append_future hlive hrecv
  refine ⟨?_, fun hlive' _ => ?_⟩
  · rw [hsent]
    exact ⟨rest, hall⟩
  · rw [hsent, hrest hlive']
    exact hall

/-- **Every step keeps the ledger.** -/
theorem step (h : Ledger limits records s) (hset : Setup limits s) (hstep : Step s a s') :
    Ledger limits records s' := by
  cases hstep with
  | readRecord r rs e hp hi =>
    refine h.of_future_eq (fun _ => by rw [hp]; rfl) rfl rfl ?_
    rw [future, future, hp, hi]
  | readError e hp hi =>
    refine h.of_future_eq (fun _ => by rw [hp]; rfl) rfl rfl ?_
    rw [future, future, hp, hi]
    rfl
  | readNothing hp hi hn => exact h.endProducer .done
  | readLast hp hi hn =>
    refine h.of_future_eq (fun _ => by rw [hp]; rfl) rfl rfl ?_
    rw [future, future, hp, hi]
    simp [swapPending, BatchQueue.pendingBatch, BatchLimits.kept, BatchLimits.keepable, batchesFrom, hn]
  | lookCancelled item hp hc => exact h.endProducer _
  | lookError e hp hc => exact h.endProducer _
  | lookLarge r hp hc hr =>
    refine h.of_future_eq (fun _ => by rw [hp]; rfl) rfl rfl ?_
    rw [hset.limits_eq] at hr
    rw [future, future, hp]
    dsimp only
    rw [BatchLimits.kept_cons_of_lt hr]
  | lookTooLong r hp hc hr hl => exact h.endProducer _
  | lookAppend r hp hc hr hl hroom =>
    refine h.of_future_eq (fun _ => by rw [hp]; rfl) rfl rfl ?_
    rw [hset.limits_eq] at hr
    rw [hset.maxBatchSize_eq] at hl hroom
    rw [future, future, hp]
    dsimp only
    rw [BatchLimits.kept_cons_of_le hr hl, batchesFrom, if_pos hroom]
  | lookFlush r hp hc hr hl hroom =>
    refine h.of_future_eq (fun _ => by rw [hp]; rfl) rfl rfl ?_
    have hpending := BatchQueue.pending_swapPending hset.isClean
    rw [hset.limits_eq] at hr
    rw [hset.maxBatchSize_eq] at hl hroom
    rw [future, future, hp]
    dsimp only [swapPending, BatchQueue.pendingBatch]
    rw [BatchLimits.kept_cons_of_le hr hl, batchesFrom, if_neg hroom, hpending, List.nil_append]
  | offerCancelled batch next hp hc => exact (h.giveBack batch).endProducer _
  | offerClosed batch next hp hc hrecv => exact (h.giveBack batch).endProducer _
  | offerRecord batch r hp hc hrecv hslot =>
    refine h.of_future_cons (by rw [hp]; rfl) hrecv (by rw [future, hp]; rfl) ?_ fun _ => rfl
    simp [sent]
  | offerLast batch hp hc hrecv hslot =>
    refine h.of_future_cons (by rw [hp]; rfl) hrecv (by rw [future, hp]) ?_ fun hlive => by cases hlive
    simp [sent, BatchRun.endProducer, BatchQueue.dropSender]
  | claim i hi hc hfree => exact h.setConsumer i _
  | leaveCancelled i hi hc => exact h.setConsumer i _
  | leaveDrained i hi hc hw hs => exact h.setConsumer i _
  | take i batch waiting hi hc hw =>
    refine h.of_future_eq id ?_ rfl rfl
    simp [sent, BatchRun.setConsumer, hw]
  | detach i conclusion hi => exact h.detach i conclusion
  | deliver i batch number handling hi hr => exact { h with }
  | fail i batch number handling error hi hr => exact { h with }
  | joinProducer conclusion hp hq => exact ⟨h.sent_prefix, fun hlive => by cases hlive⟩
  | joinFailedProducer error hp he => exact ⟨h.sent_prefix, fun hlive => by cases hlive⟩
  | joinConsumer i conclusion hi hq => exact h.setConsumer i _
  | joinFailedConsumer i error hi he => exact { h with }
  | abortProducer he hp => exact h.endProducer _
  | abortOffer batch next he hp => exact (h.giveBack batch).endProducer _
  | abortConsumer i he hi => exact h.detach i _
  | abortHandling i batch number he hi => exact (h.giveBack batch).detach i _
  | cancel => exact { h with }

end Ledger
end BatchRun
end ObjectRelay

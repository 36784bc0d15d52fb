import ObjectRelay.Proofs.Batch.Pool
import ObjectRelay.Proofs.Run.Step
/-!
# What every state of a run has

The limits, the number of consumers and the slots never change; idle buffers stay empty; and
the two flags of the queue say what the participants do: `isSending` that the producer has not
ended, `isReceiving` that a consumer still holds on to the receiving side.  `Setup` puts this
together; it holds when a run starts and behind every step.
-/
namespace ObjectRelay

/-- Whether the producer has not ended. -/
def Producer.isLive : Producer → Bool
  | ended _ | joined => false
  | _ => true

namespace BatchRun

/-- What every state of a run under given limits has, whatever pool its buffers come from. -/
structure Wiring (limits : BatchLimits) (s : BatchRun) : Prop where
  limits_eq : s.limits = limits
  maxBatchSize_eq : s.queue.maxBatchSize = limits.maxBatchSize
  slots_pos : 0 < s.queue.slots
  length_consumers : s.consumers.length = limits.consumers
  isSending_eq : s.queue.isSending = s.producer.isLive
  isReceiving_eq : s.queue.isReceiving = s.consumers.any Consumer.isAttached

/-- **What every state of a run under given limits has.** -/
structure Setup (limits : BatchLimits) (s : BatchRun) : Prop extends Wiring limits s where
  isClean : s.queue.pool.IsClean

theorem wiring_start (limits : BatchLimits) (pool : BufferPool) (input : Decoded) :
    Wiring limits (start limits pool input) where
  limits_eq := rfl
  maxBatchSize_eq := rfl
  slots_pos := Nat.lt_of_lt_of_le Nat.zero_lt_one (Nat.le_max_left 1 _)
  length_consumers := List.length_replicate
  isSending_eq := rfl
  isReceiving_eq := by
    have hpos : limits.consumers ≠ 0 := by
      unfold BatchLimits.consumers
      omega
    simp [start, BatchQueue.ofPool, Consumer.isAttached, List.any_replicate, hpos]

theorem setup_start (limits : BatchLimits) {pool : BufferPool} (hpool : pool.IsClean) (input : Decoded) :
    Setup limits (start limits pool input) where
  toWiring := wiring_start limits pool input
  isClean := hpool.take _

variable {limits : BatchLimits} {s s' : BatchRun} {a : Action}

namespace Wiring

theorem consumers_pos (h : Wiring limits s) : 0 < s.consumers.length := by
  rw [h.length_consumers]
  exact Nat.lt_of_lt_of_le Nat.zero_lt_one (Nat.le_max_left 1 _)

theorem endProducer (h : Wiring limits s) (conclusion : Conclusion) : Wiring limits (s.endProducer conclusion) :=
  { h with isSending_eq := rfl }

theorem swapPending (h : Wiring limits s) (hp : s.producer.isLive = true) (next : Option (List UInt8)) :
    Wiring limits (s.swapPending next) :=
  { h with isSending_eq := h.isSending_eq.trans hp }

theorem giveBack (h : Wiring limits s) (batch : Batch) :
    Wiring limits { s with queue.pool := s.queue.pool.give batch } :=
  { h with }

theorem setConsumer (h : Wiring limits s) {i : Nat} {c c' : Consumer} (hi : s.consumers[i]? = some c)
    (hc : c'.isAttached = c.isAttached) : Wiring limits (s.setConsumer i c') :=
  { h with
    length_consumers := List.length_set.trans h.length_consumers
    isReceiving_eq := h.isReceiving_eq.trans (any_set_of_eq hi hc).symm }

theorem detach (h : Wiring limits s) {i : Nat} {c : Consumer} (hi : s.consumers[i]? = some c)
    (hc : c.isAttached = true) (conclusion : Conclusion) : Wiring limits (s.detach i conclusion) := by
  have hlength : (s.consumers.set i (.ended conclusion)).length = limits.consumers :=
    List.length_set.trans h.length_consumers
  unfold BatchRun.detach
  dsimp only [BatchRun.setConsumer]
  split
  · rename_i hany
    have hbefore : s.consumers.any Consumer.isAttached = true :=
      List.any_eq_true.2 ⟨c, List.mem_of_getElem? hi, hc⟩
    exact { h with
      length_consumers := hlength
      isReceiving_eq := h.isReceiving_eq.trans (hbefore.trans hany.symm) }
  · rename_i hany
    exact { h with
      length_consumers := hlength
      isReceiving_eq := (Bool.not_eq_true _ ▸ hany).symm }

/-- A step that leaves the producer live. -/
theorem isSending_eq_of_live (h : Wiring limits s) {p p' : Producer} (hp : s.producer = p)
    (hlive : p.isLive = p'.isLive) : s.queue.isSending = p'.isLive := by
  rw [h.isSending_eq, hp, hlive]

theorem step (h : Wiring limits s) (hstep : Step s a s') : Wiring limits s' := by
  cases hstep with
  | readRecord r rs e hp hi => exact { h with isSending_eq := h.isSending_eq_of_live hp rfl }
  | readError e hp hi => exact { h with isSending_eq := h.isSending_eq_of_live hp rfl }
  | readNothing hp hi hn => exact h.endProducer .done
  | readLast hp hi hn => exact h.swapPending (by rw [hp]; rfl) none
  | lookCancelled item hp hc => exact h.endProducer _
  | lookError e hp hc => exact h.endProducer _
  | lookLarge r hp hc hr => exact { h with isSending_eq := h.isSending_eq_of_live hp rfl }
  | lookTooLong r hp hc hr hl => exact h.endProducer _
  | lookAppend r hp hc hr hl hroom => exact { h with isSending_eq := h.isSending_eq_of_live hp rfl }
  | lookFlush r hp hc hr hl hroom => exact h.swapPending (by rw [hp]; rfl) _
  | offerCancelled batch next hp hc => exact (h.giveBack batch).endProducer _
  | offerClosed batch next hp hc hrecv => exact (h.giveBack batch).endProducer _
  | offerRecord batch r hp hc hrecv hslot => exact { h with isSending_eq := h.isSending_eq_of_live hp rfl }
  | offerLast batch hp hc hrecv hslot => exact { h with isSending_eq := rfl }
  | claim i hi hc hfree => exact h.setConsumer hi rfl
  | leaveCancelled i hi hc =>
    rcases hi with hi | hi
    · exact h.setConsumer hi rfl
    · exact h.setConsumer hi rfl
  | leaveDrained i hi hc hw hs => exact h.setConsumer hi rfl
  | take i batch waiting hi hc hw =>
    refine setConsumer ?_ hi rfl
    exact { h with }
  | detach i conclusion hi => exact h.detach hi rfl conclusion
  | deliver i batch number handling hi hr =>
    refine setConsumer ?_ hi rfl
    exact { h with }
  | fail i batch number handling error hi hr =>
    refine setConsumer ?_ hi rfl
    exact { h with }
  | joinProducer conclusion hp hq => exact { h with isSending_eq := h.isSending_eq_of_live hp rfl }
  | joinFailedProducer error hp he => exact { h with isSending_eq := h.isSending_eq_of_live hp rfl }
  | joinConsumer i conclusion hi hq => exact h.setConsumer hi rfl
  | joinFailedConsumer i error hi he =>
    refine setConsumer ?_ hi rfl
    exact { h with }
  | abortProducer he hp => exact h.endProducer _
  | abortOffer batch next he hp => exact (h.giveBack batch).endProducer _
  | abortConsumer i he hi =>
    rcases hi with hi | hi
    · exact h.detach hi rfl _
    · exact h.detach hi rfl _
  | abortHandling i batch number he hi => exact (h.giveBack batch).detach hi rfl _
  | cancel => exact { h with }

end Wiring

theorem isClean_detach (h : s.queue.pool.IsClean) (i : Nat) (conclusion : Conclusion) :
    (s.detach i conclusion).queue.pool.IsClean := by
  unfold BatchRun.detach
  dsimp only
  split
  · exact h
  · exact h.foldl_give _

theorem Step.isClean (hstep : Step s a s') (h : s.queue.pool.IsClean) : s'.queue.pool.IsClean := by
  cases hstep with
  | readLast | lookFlush => exact h.take _
  | offerCancelled batch | offerClosed batch | abortOffer batch => exact h.give batch
  | deliver i batch | fail i batch => exact h.give batch
  | detach i conclusion => exact isClean_detach h i conclusion
  | abortConsumer i => exact isClean_detach h i _
  | abortHandling i batch => exact isClean_detach (h.give batch) i _
  | _ => exact h

/-- **Every step keeps what every state has.** -/
theorem Setup.step (h : Setup limits s) (hstep : Step s a s') : Setup limits s' where
  toWiring := h.toWiring.step hstep
  isClean := hstep.isClean h.isClean

end BatchRun
end ObjectRelay

import ObjectRelay.Batch.Run
import ObjectRelay.Proofs.Batch.Queue
/-!
# What a step of a run does

`BatchRun.step?` is a program; an invariant is proved by cases on what it can do.  `Step` says it
once, one case for every outcome: what the participant was doing, what it has found, and
the whole state behind the step.  `step?_sound` is the only proof here that opens `step?`.
-/
namespace ObjectRelay
namespace BatchRun

open BatchQueue (Handling)

/-- The producer begins to hand the pending bytes over. -/
def swapPending (s : BatchRun) (next : Option (List UInt8)) : BatchRun :=
  { s with producer := .offering s.queue.pendingBatch next, queue := s.queue.swapPending }

/-- Whether joining a participant with this end changes nothing else: it has not failed, or is not the
first to. -/
def PassesOver (s : BatchRun) (conclusion : Conclusion) : Prop :=
  ∀ error, conclusion = .failed error → s.error.isSome

/-- **What a step does**, outcome by outcome. -/
inductive Step (s : BatchRun) : Action → BatchRun → Prop
  | readRecord (r rs e) (hp : s.producer = .reading) (hi : s.input = ⟨r :: rs, e⟩) :
      Step s .produce { s with producer := .looking (.ok r), input := ⟨rs, e⟩ }
  | readError (e) (hp : s.producer = .reading) (hi : s.input = ⟨[], some e⟩) :
      Step s .produce { s with producer := .looking (.error e), input := ⟨[], none⟩ }
  | readNothing (hp : s.producer = .reading) (hi : s.input = ⟨[], none⟩) (hn : s.queue.pending = []) :
      Step s .produce (s.endProducer .done)
  | readLast (hp : s.producer = .reading) (hi : s.input = ⟨[], none⟩) (hn : s.queue.pending ≠ []) :
      Step s .produce (s.swapPending none)
  | lookCancelled (item) (hp : s.producer = .looking item) (hc : s.queue.isCancelled = true) :
      Step s .produce (s.endProducer (.failed .cancelled))
  | lookError (e) (hp : s.producer = .looking (.error e)) (hc : s.queue.isCancelled = false) :
      Step s .produce (s.endProducer (.failed (.decode e)))
  | lookLarge (r) (hp : s.producer = .looking (.ok r)) (hc : s.queue.isCancelled = false)
      (hr : s.limits.maxRecordSize < (Utf8.encode r.text).length) :
      Step s .produce { s with producer := .reading }
  | lookTooLong (r) (hp : s.producer = .looking (.ok r)) (hc : s.queue.isCancelled = false)
      (hr : (Utf8.encode r.text).length ≤ s.limits.maxRecordSize)
      (hl : s.queue.maxBatchSize < (Utf8.encode r.text).length + 1) :
      Step s .produce (s.endProducer
        (.failed (.recordTooLong ((Utf8.encode r.text).length + 1) s.queue.maxBatchSize)))
  | lookAppend (r) (hp : s.producer = .looking (.ok r)) (hc : s.queue.isCancelled = false)
      (hr : (Utf8.encode r.text).length ≤ s.limits.maxRecordSize)
      (hl : (Utf8.encode r.text).length + 1 ≤ s.queue.maxBatchSize)
      (hroom : s.queue.pending.length + ((Utf8.encode r.text).length + 1) ≤ s.queue.maxBatchSize) :
      Step s .produce
        { s with producer := .reading, queue.pending := s.queue.pending ++ Utf8.encode r.text ++ [lineEnd] }
  | lookFlush (r) (hp : s.producer = .looking (.ok r)) (hc : s.queue.isCancelled = false)
      (hr : (Utf8.encode r.text).length ≤ s.limits.maxRecordSize)
      (hl : (Utf8.encode r.text).length + 1 ≤ s.queue.maxBatchSize)
      (hroom : ¬s.queue.pending.length + ((Utf8.encode r.text).length + 1) ≤ s.queue.maxBatchSize) :
      Step s .produce (s.swapPending (some (Utf8.encode r.text)))
  | offerCancelled (batch next) (hp : s.producer = .offering batch next) (hc : s.queue.isCancelled = true) :
      Step s .produce ({ s with queue.pool := s.queue.pool.give batch }.endProducer (.failed .cancelled))
  | offerClosed (batch next) (hp : s.producer = .offering batch next) (hc : s.queue.isCancelled = false)
      (hrecv : s.queue.isReceiving = false) :
      Step s .produce ({ s with queue.pool := s.queue.pool.give batch }.endProducer (.failed .closed))
  | offerRecord (batch r) (hp : s.producer = .offering batch (some r)) (hc : s.queue.isCancelled = false)
      (hrecv : s.queue.isReceiving = true) (hslot : s.queue.waiting.length < s.queue.slots) :
      Step s .produce
        { s with
          producer := .reading
          queue.waiting := s.queue.waiting ++ [batch]
          queue.pending := s.queue.pending ++ r ++ [lineEnd] }
  | offerLast (batch) (hp : s.producer = .offering batch none) (hc : s.queue.isCancelled = false)
      (hrecv : s.queue.isReceiving = true) (hslot : s.queue.waiting.length < s.queue.slots) :
      Step s .produce ({ s with queue.waiting := s.queue.waiting ++ [batch] }.endProducer .done)
  | claim (i) (hi : s.consumers[i]? = some .idle) (hc : s.queue.isCancelled = false)
      (hfree : s.consumers.any Consumer.isReceiving = false) :
      Step s (.consume i) (s.setConsumer i .receiving)
  | leaveCancelled (i) (hi : s.consumers[i]? = some .idle ∨ s.consumers[i]? = some .receiving)
      (hc : s.queue.isCancelled = true) :
      Step s (.consume i) (s.setConsumer i (.leaving (.failed .cancelled)))
  | leaveDrained (i) (hi : s.consumers[i]? = some .receiving) (hc : s.queue.isCancelled = false)
      (hw : s.queue.waiting = []) (hs : s.queue.isSending = false) :
      Step s (.consume i) (s.setConsumer i (.leaving .done))
  | take (i batch waiting) (hi : s.consumers[i]? = some .receiving) (hc : s.queue.isCancelled = false)
      (hw : s.queue.waiting = batch :: waiting) :
      Step s (.consume i) ({ s with
        queue.waiting := waiting
        handed := s.handed ++ [batch.bytes] }.setConsumer i (.handling batch s.handed.length))
  | detach (i conclusion) (hi : s.consumers[i]? = some (.leaving conclusion)) :
      Step s (.consume i) (s.detach i conclusion)
  | deliver (i batch number) (handling : Handling) (hi : s.consumers[i]? = some (.handling batch number))
      (hr : handling.result = .ok ()) :
      Step s (.finishBatch i handling) ({ s with
        queue.isCancelled := s.queue.isCancelled || handling.isCancelling
        queue.pool := s.queue.pool.give batch
        delivered := s.delivered ++ [batch.bytes] }.setConsumer i .idle)
  | fail (i batch number) (handling : Handling) (error) (hi : s.consumers[i]? = some (.handling batch number))
      (hr : handling.result = .error error) :
      Step s (.finishBatch i handling) ({ s with
        queue.isCancelled := s.queue.isCancelled || handling.isCancelling
        queue.pool := s.queue.pool.give batch }.setConsumer i (.leaving (.failed (.delivery error))))
  | joinProducer (conclusion) (hp : s.producer = .ended conclusion) (hq : s.PassesOver conclusion) :
      Step s .joinProducer { s with producer := .joined }
  | joinFailedProducer (error) (hp : s.producer = .ended (.failed error)) (he : s.error = none) :
      Step s .joinProducer { s with producer := .joined, error := some error, queue.isCancelled := true }
  | joinConsumer (i conclusion) (hi : s.consumers[i]? = some (.ended conclusion)) (hq : s.PassesOver conclusion) :
      Step s (.joinConsumer i) (s.setConsumer i .joined)
  | joinFailedConsumer (i error) (hi : s.consumers[i]? = some (.ended (.failed error))) (he : s.error = none) :
      Step s (.joinConsumer i)
        ({ s with error := some error, queue.isCancelled := true }.setConsumer i .joined)
  | abortProducer (he : s.error.isSome) (hp : s.producer = .reading ∨ ∃ item, s.producer = .looking item) :
      Step s .abortProducer (s.endProducer .aborted)
  | abortOffer (batch next) (he : s.error.isSome) (hp : s.producer = .offering batch next) :
      Step s .abortProducer ({ s with queue.pool := s.queue.pool.give batch }.endProducer .aborted)
  | abortConsumer (i) (he : s.error.isSome)
      (hi : s.consumers[i]? = some .idle ∨ s.consumers[i]? = some .receiving) :
      Step s (.abortConsumer i) (s.detach i .aborted)
  | abortHandling (i batch number) (he : s.error.isSome) (hi : s.consumers[i]? = some (.handling batch number)) :
      Step s (.abortConsumer i) ({ s with queue.pool := s.queue.pool.give batch }.detach i .aborted)
  | cancel : Step s .cancel s.cancel

variable {s s' : BatchRun} {a : Action}

theorem step_read (hp : s.producer = .reading) : Step s .produce s.read := by
  unfold read
  split
  · rename_i r rs e hi
    exact .readRecord r rs e hp hi
  · rename_i e hi
    exact .readError e hp hi
  · rename_i hi
    split
    · rename_i hn
      exact .readNothing hp hi (List.isEmpty_iff.1 hn)
    · rename_i hn
      exact .readLast hp hi fun h => hn (List.isEmpty_iff.2 h)

theorem step_look {item : Except DecodeError Record} (hp : s.producer = .looking item) :
    Step s .produce (s.look item) := by
  unfold look
  split
  · rename_i hc
    exact .lookCancelled item hp hc
  · rename_i hc
    rw [Bool.not_eq_true] at hc
    split
    · exact .lookError _ hp hc
    · rename_i r
      dsimp only
      split
      · rename_i hr
        exact .lookLarge r hp hc hr
      · rename_i hr
        unfold pushRecord
        split
        · rename_i hl
          exact .lookTooLong r hp hc (Nat.le_of_not_lt hr) (of_decide_eq_true hl)
        · rename_i hl
          have hl : (Utf8.encode r.text).length + 1 ≤ s.queue.maxBatchSize := by
            simpa [BatchQueue.isTooLong] using hl
          split
          · rename_i hroom
            exact .lookAppend r hp hc (Nat.le_of_not_lt hr) hl (of_decide_eq_true hroom)
          · rename_i hroom
            exact .lookFlush r hp hc (Nat.le_of_not_lt hr) hl fun h => hroom (decide_eq_true h)

theorem step_produce (h : s.produce? = some s') : Step s .produce s' := by
  unfold produce? at h
  split at h
  · rename_i hp
    exact Option.some.inj h ▸ step_read hp
  · rename_i item hp
    exact Option.some.inj h ▸ step_look hp
  · rename_i batch next hp
    rcases s.queue.offer_cases batch with ⟨hc, ho⟩ | ⟨hc, hrecv, ho⟩ | ⟨hc, hrecv, hslot, ho⟩ | ⟨_, _, _, ho⟩ <;>
      rw [ho] at h
    · exact Option.some.inj h ▸ .offerCancelled batch next hp hc
    · exact Option.some.inj h ▸ .offerClosed batch next hp hc hrecv
    · cases next with
      | some r => exact Option.some.inj h ▸ .offerRecord batch r hp hc hrecv hslot
      | none => exact Option.some.inj h ▸ .offerLast batch hp hc hrecv hslot
    · cases h
  · cases h
  · cases h

theorem step_consume {i : Nat} (h : s.consume? i = some s') : Step s (.consume i) s' := by
  unfold consume? at h
  split at h
  · rename_i hi
    split at h
    · rename_i hc
      exact Option.some.inj h ▸ .leaveCancelled i (.inl hi) hc
    · rename_i hc
      rw [Bool.not_eq_true] at hc
      split at h
      · cases h
      · rename_i hfree
        exact Option.some.inj h ▸ .claim i hi hc (by simpa using hfree)
  · rename_i hi
    rcases s.queue.receive_cases with ⟨hc, ho⟩ | ⟨batch, waiting, hc, hw, ho⟩ | ⟨hc, hw, hs, ho⟩ | ⟨_, _, _, ho⟩ <;>
      rw [ho] at h
    · exact Option.some.inj h ▸ .leaveCancelled i (.inr hi) hc
    · exact Option.some.inj h ▸ .take i batch waiting hi hc hw
    · exact Option.some.inj h ▸ .leaveDrained i hi hc hw hs
    · cases h
  · rename_i conclusion hi
    exact Option.some.inj h ▸ .detach i conclusion hi
  · cases h

theorem step_finishBatch {i : Nat} {handling : Handling} (h : s.finishBatch? i handling = some s') :
    Step s (.finishBatch i handling) s' := by
  unfold finishBatch? at h
  split at h
  · rename_i batch number hi
    -- cancelling sets one flag, so both ways of handling give the state that `Step` writes
    have hcancel : (if handling.isCancelling then s.cancel else s) =
        { s with queue.isCancelled := s.queue.isCancelled || handling.isCancelling } := by
      cases handling.isCancelling <;> simp [BatchRun.cancel, BatchQueue.cancel]
    rw [hcancel] at h
    cases hr : handling.result with
    | ok u =>
      rw [hr] at h
      exact Option.some.inj h ▸ .deliver i batch number handling hi hr
    | error error =>
      rw [hr] at h
      exact Option.some.inj h ▸ .fail i batch number handling error hi hr
  · cases h

theorem step_joinProducer (h : s.joinProducer? = some s') : Step s .joinProducer s' := by
  unfold joinProducer? at h
  split at h
  · rename_i conclusion hp
    unfold note at h
    split at h
    · rename_i error
      split at h
      · rename_i he
        exact Option.some.inj h ▸ .joinProducer _ hp fun _ _ => he
      · rename_i he
        exact Option.some.inj h ▸ .joinFailedProducer error hp (by simpa using he)
    · rename_i hne
      exact Option.some.inj h ▸ .joinProducer _ hp fun error herror => absurd herror (hne error)
  · cases h

theorem step_joinConsumer {i : Nat} (h : s.joinConsumer? i = some s') : Step s (.joinConsumer i) s' := by
  unfold joinConsumer? at h
  split at h
  · rename_i conclusion hi
    unfold note at h
    split at h
    · rename_i error
      split at h
      · rename_i he
        exact Option.some.inj h ▸ .joinConsumer i _ hi fun _ _ => he
      · rename_i he
        exact Option.some.inj h ▸ .joinFailedConsumer i error hi
          (Option.not_isSome_iff_eq_none.1 he)
    · rename_i hne
      exact Option.some.inj h ▸ .joinConsumer i _ hi fun error herror => absurd herror (hne error)
  · cases h

theorem step_abortProducer (h : s.abortProducer? = some s') : Step s .abortProducer s' := by
  unfold abortProducer? at h
  split at h
  · cases h
  · rename_i he
    have he : s.error.isSome := by simpa [← Option.isSome_iff_ne_none] using he
    split at h
    · rename_i hp
      exact Option.some.inj h ▸ .abortProducer he (.inl hp)
    · rename_i item hp
      exact Option.some.inj h ▸ .abortProducer he (.inr ⟨item, hp⟩)
    · rename_i batch next hp
      exact Option.some.inj h ▸ .abortOffer batch next he hp
    · cases h
    · cases h

theorem step_abortConsumer {i : Nat} (h : s.abortConsumer? i = some s') : Step s (.abortConsumer i) s' := by
  unfold abortConsumer? at h
  split at h
  · cases h
  · rename_i he
    have he : s.error.isSome := by simpa [← Option.isSome_iff_ne_none] using he
    split at h
    · rename_i hi
      exact Option.some.inj h ▸ .abortConsumer i he (.inl hi)
    · rename_i hi
      exact Option.some.inj h ▸ .abortConsumer i he (.inr hi)
    · rename_i batch number hi
      exact Option.some.inj h ▸ .abortHandling i batch number he hi
    · cases h

/-- **A step that can be made is one of the outcomes.** -/
theorem step?_sound (h : s.step? a = some s') : Step s a s' := by
  cases a with
  | produce => exact step_produce h
  | consume i => exact step_consume h
  | finishBatch i handling => exact step_finishBatch h
  | joinProducer => exact step_joinProducer h
  | joinConsumer i => exact step_joinConsumer h
  | abortProducer => exact step_abortProducer h
  | abortConsumer i => exact step_abortConsumer h
  | cancel => exact Option.some.inj h ▸ .cancel

/-- A run is over when everybody has been joined. -/
theorem isOver_iff : s.isOver = true ↔ s.producer = .joined ∧ ∀ c ∈ s.consumers, c = .joined := by
  unfold isOver
  rw [Bool.and_eq_true, List.all_eq_true]
  refine and_congr ?_ (forall₂_congr fun c _ => ?_)
  · cases s.producer <;> simp
  · cases c <;> simp

section Detach

variable (s : BatchRun) (i : Nat) (conclusion : Conclusion)

@[simp] theorem consumers_detach : (s.detach i conclusion).consumers = s.consumers.set i (.ended conclusion) := by
  unfold BatchRun.detach
  dsimp only
  split <;> rfl

@[simp] theorem producer_detach : (s.detach i conclusion).producer = s.producer := by
  unfold BatchRun.detach
  dsimp only
  split <;> rfl

@[simp] theorem input_detach : (s.detach i conclusion).input = s.input := by
  unfold BatchRun.detach
  dsimp only
  split <;> rfl

@[simp] theorem error_detach : (s.detach i conclusion).error = s.error := by
  unfold BatchRun.detach
  dsimp only
  split <;> rfl

@[simp] theorem handed_detach : (s.detach i conclusion).handed = s.handed := by
  unfold BatchRun.detach
  dsimp only
  split <;> rfl

@[simp] theorem delivered_detach : (s.detach i conclusion).delivered = s.delivered := by
  unfold BatchRun.detach
  dsimp only
  split <;> rfl

end Detach

/-- What every step keeps holds at the end of every run that begins with it. -/
theorem replay?_induction {P : BatchRun → Prop} (hstep : ∀ {s a s'}, Step s a s' → P s → P s') :
    ∀ {actions : List Action} {s s' : BatchRun}, s.replay? actions = some s' → P s → P s'
  | [], s, s', h, hs => Option.some.inj h ▸ hs
  | a :: actions, s, s', h, hs => by
    obtain ⟨next, hnext, hrest⟩ := Option.bind_eq_some_iff.1 h
    exact replay?_induction hstep hrest (hstep (step?_sound hnext) hs)

end BatchRun
end ObjectRelay

import ObjectRelay.Proofs.Run.Progress
/-!
# Buffers come back

Every batch that the producer makes is held by somebody until its buffer is given back: it is offered, waits in
the queue, or is handed on (`held`).  What a step does to the batches and to the pool is one of two things
(`Turnover`): a batch is made, with a buffer from the pool, or some of those that are held leave, and the pool gets
exactly their buffers.  So whenever a run is over, in whatever way, nobody holds a batch, and as many buffers have been
given back as batches were made (`goes_on_gives_back`).
-/
namespace ObjectRelay

/-- The batch that the producer hands over. -/
def Producer.offered? : Producer → Option Batch
  | offering batch _ => some batch
  | _ => none

/-- The batch that the consumer hands on. -/
def Consumer.handled? : Consumer → Option Batch
  | handling batch _ => some batch
  | _ => none

namespace BatchRun

open BatchQueue (Handling)

/-- The batches that somebody holds. -/
def held (s : BatchRun) : List Batch :=
  s.producer.offered?.toList ++ s.queue.waiting ++ s.consumers.filterMap Consumer.handled?

/-- How many batches are made on the way from one state to the next. -/
def makes (s s' : BatchRun) : Nat := if s.producer.offered?.isNone && s'.producer.offered?.isSome then 1 else 0

/-- How many idle buffers there are. -/
def idle (s : BatchRun) : Nat := (s.queue.pool.idle s.limits.maxBatchSize).length

/-- How many buffers the pool gets on the way from one state to the next. -/
def returns (s s' : BatchRun) : Nat := s'.idle - s.idle

/-- What is counted on the way through steps in a row. -/
def tally (count : BatchRun → BatchRun → Nat) : BatchRun → List Action → Nat
  | _, [] => 0
  | s, a :: rest => match s.step? a with
    | none => 0
    | some s' => count s s' + tally count s' rest

variable {limits : BatchLimits} {s s' : BatchRun} {a : Action} {i : Nat}

/-- **What a step does to the batches and to the pool.** -/
inductive Turnover (s s' : BatchRun) : Prop
  | made (hmakes : s.makes s' = 1) (hheld : s'.held.Perm (s.queue.pendingBatch :: s.held))
      (hpool : s'.queue.pool = (s.queue.pool.take s.queue.maxBatchSize).2)
  | returned (batches) (hmakes : s.makes s' = 0) (hheld : s.held.Perm (batches ++ s'.held))
      (hpool : s'.queue.pool = batches.foldl BufferPool.give s.queue.pool)

theorem makes_of_none (h : s'.producer.offered? = none) : s.makes s' = 0 := by
  simp [makes, h]

theorem makes_of_eq (h : s'.producer = s.producer) : s.makes s' = 0 := by
  unfold makes
  rw [h]
  cases s.producer.offered? <;> rfl

/-- Nobody makes or drops a batch. -/
theorem Turnover.same (hmakes : s.makes s' = 0) (hheld : s.held.Perm s'.held)
    (hpool : s'.queue.pool = s.queue.pool) : Turnover s s' := .returned [] hmakes hheld hpool

/-- The producer goes on without a batch. -/
theorem Turnover.producer (hp : s.producer.offered? = none) (hp' : s'.producer.offered? = none)
    (hwaiting : s'.queue.waiting = s.queue.waiting) (hconsumers : s'.consumers = s.consumers)
    (hpool : s'.queue.pool = s.queue.pool) : Turnover s s' := by
  refine .same (makes_of_none hp') (.of_eq ?_) hpool
  rw [held, held, hp, hp', hwaiting, hconsumers]

/-- A consumer goes on without a batch. -/
theorem Turnover.consumer {c c' : Consumer} (hi : s.consumers[i]? = some c) (hc : c.handled? = none)
    (hc' : c'.handled? = none) (hproducer : s'.producer = s.producer) (hwaiting : s'.queue.waiting = s.queue.waiting)
    (hconsumers : s'.consumers = s.consumers.set i c') (hpool : s'.queue.pool = s.queue.pool) : Turnover s s' := by
  have hperm := perm_filterMap_set Consumer.handled? hi c'
  rw [hc, hc'] at hperm
  refine .same (makes_of_eq hproducer) ?_ hpool
  rw [held, held, hproducer, hwaiting, hconsumers]
  exact hperm.symm.append_left _

/-- The producer begins to hand the pending bytes over. -/
theorem Turnover.swap (hp : s.producer.offered? = none) (next : Option (List UInt8)) :
    Turnover s (s.swapPending next) := by
  refine .made ?_ (.of_eq ?_) rfl
  · rw [makes, hp]
    rfl
  · rw [held, held, hp]
    rfl

/-- The producer drops the batch that it hands over. -/
theorem Turnover.drop {batch : Batch} {next : Option (List UInt8)} (hp : s.producer = .offering batch next)
    (conclusion : Conclusion) :
    Turnover s ({ s with queue.pool := s.queue.pool.give batch }.endProducer conclusion) := by
  refine .returned [batch] (makes_of_none rfl) (.of_eq ?_) rfl
  rw [held, held, hp]
  rfl

/-- The batch that the producer hands over waits. -/
theorem Turnover.send {batch : Batch} {next : Option (List UInt8)} (hp : s.producer = .offering batch next)
    (hp' : s'.producer.offered? = none) (hwaiting : s'.queue.waiting = s.queue.waiting ++ [batch])
    (hconsumers : s'.consumers = s.consumers) (hpool : s'.queue.pool = s.queue.pool) : Turnover s s' := by
  refine .same (makes_of_none hp') ?_ hpool
  rw [held, held, hp, hp', hwaiting, hconsumers]
  exact List.perm_append_comm.append_right _

/-- A consumer puts its batch down. -/
theorem Turnover.answered {batch : Batch} {number : Nat} {c' : Consumer}
    (hi : s.consumers[i]? = some (.handling batch number)) (hc' : c'.handled? = none)
    (hproducer : s'.producer = s.producer) (hwaiting : s'.queue.waiting = s.queue.waiting)
    (hconsumers : s'.consumers = s.consumers.set i c') (hpool : s'.queue.pool = s.queue.pool.give batch) :
    Turnover s s' := by
  refine .returned [batch] (makes_of_eq hproducer) (List.perm_iff_count.2 fun b => ?_) hpool
  have hcount := (perm_filterMap_set Consumer.handled? hi c').count_eq b
  rw [hc'] at hcount
  simp only [held, hproducer, hwaiting, hconsumers, Consumer.handled?, Option.toList, List.count_append,
    List.count_cons, List.count_nil] at hcount ⊢
  omega

/-- What leaves when a consumer lets go: its batch, and all that wait if it is the last one. -/
theorem exists_held_detach {c : Consumer} (hi : s.consumers[i]? = some c) (conclusion : Conclusion) :
    ∃ batches, s.held.Perm (c.handled?.toList ++ batches ++ (s.detach i conclusion).held) ∧
      (s.detach i conclusion).queue.pool = batches.foldl BufferPool.give s.queue.pool := by
  have hset : (s.consumers.filterMap Consumer.handled?).Perm
      (c.handled?.toList ++ (s.consumers.set i (.ended conclusion)).filterMap Consumer.handled?) :=
    (perm_filterMap_set Consumer.handled? hi (.ended conclusion)).symm
  unfold BatchRun.detach
  dsimp only
  split
  · refine ⟨[], List.perm_iff_count.2 fun batch => ?_, rfl⟩
    have hcount := hset.count_eq batch
    simp only [held, setConsumer, List.count_append, List.count_nil] at hcount ⊢
    omega
  · refine ⟨s.queue.waiting, List.perm_iff_count.2 fun batch => ?_, rfl⟩
    have hcount := hset.count_eq batch
    simp only [held, setConsumer, BatchQueue.dropReceiver, List.count_append, List.count_nil] at hcount ⊢
    omega

theorem Turnover.detach {c : Consumer} (hi : s.consumers[i]? = some c) (hc : c.handled? = none)
    (conclusion : Conclusion) : Turnover s (s.detach i conclusion) := by
  obtain ⟨batches, hheld, hpool⟩ := exists_held_detach hi conclusion
  rw [hc] at hheld
  exact .returned batches (makes_of_eq (producer_detach ..)) hheld hpool

/-- **Every step makes a batch, or gives buffers back.** -/
theorem Step.turnover (hstep : Step s a s') : Turnover s s' := by
  cases hstep with
  | readRecord r rs e hp | readError e hp | readNothing hp | lookCancelled item hp | lookError e hp
  | lookLarge r hp | lookTooLong r hp | lookAppend r hp | joinProducer conclusion hp | joinFailedProducer error hp =>
    exact .producer (by rw [hp]; rfl) rfl rfl rfl rfl
  | readLast hp | lookFlush r hp => exact .swap (by rw [hp]; rfl) _
  | offerCancelled batch next hp | offerClosed batch next hp | abortOffer batch next he hp => exact .drop hp _
  | offerRecord batch r hp | offerLast batch hp => exact .send hp rfl rfl rfl rfl
  | claim i hi | leaveDrained i hi | joinConsumer i conclusion hi | joinFailedConsumer i error hi =>
    exact .consumer hi rfl rfl rfl rfl rfl rfl
  | leaveCancelled i hi =>
    rcases hi with hi | hi
    · exact .consumer hi rfl rfl rfl rfl rfl rfl
    · exact .consumer hi rfl rfl rfl rfl rfl rfl
  | take i batch waiting hi hc hw =>
    have hperm := perm_filterMap_set Consumer.handled? hi (.handling batch s.handed.length)
    refine .same (makes_of_eq rfl) (List.perm_iff_count.2 fun b => ?_) rfl
    have hcount := hperm.count_eq b
    simp only [held, setConsumer, hw, Consumer.handled?, Option.toList, List.count_append, List.count_cons,
      List.count_nil] at hcount ⊢
    omega
  | deliver i batch number handling hi | fail i batch number handling error hi =>
    exact .answered hi rfl rfl rfl rfl rfl
  | detach i conclusion hi => exact .detach hi rfl conclusion
  | abortProducer he hp =>
    rcases hp with hp | ⟨item, hp⟩
    · exact .producer (by rw [hp]; rfl) rfl rfl rfl rfl
    · exact .producer (by rw [hp]; rfl) rfl rfl rfl rfl
  | abortConsumer i he hi =>
    rcases hi with hi | hi
    · exact .detach hi rfl .aborted
    · exact .detach hi rfl .aborted
  | abortHandling i batch number he hi =>
    obtain ⟨batches, hheld, hpool⟩ :=
      exists_held_detach (s := { s with queue.pool := s.queue.pool.give batch }) hi .aborted
    exact .returned (batch :: batches) (makes_of_eq (producer_detach ..)) hheld hpool
  | cancel => exact .same (makes_of_eq rfl) (.refl _) rfl

/-! ## Nothing is lost -/

/-- What every state of a run has: its batches have the size of batch of the run, and none waits when nobody will
take it. -/
structure Filed (limits : BatchLimits) (s : BatchRun) : Prop extends Wiring limits s where
  capacity : ∀ batch ∈ s.held, batch.capacity = limits.maxBatchSize
  waiting : s.queue.isReceiving = false → s.queue.waiting = []

theorem filed_start (limits : BatchLimits) (pool : BufferPool) (input : Decoded) :
    Filed limits (start limits pool input) where
  toWiring := wiring_start limits pool input
  capacity batch h := by
    simp [held, start, BatchQueue.ofPool, Producer.offered?, Consumer.handled?] at h
  waiting _ := rfl

theorem waiting_detach_eq_nil (h : s.queue.isReceiving = false → s.queue.waiting = []) (conclusion : Conclusion)
    (hrecv : (s.detach i conclusion).queue.isReceiving = false) : (s.detach i conclusion).queue.waiting = [] := by
  unfold BatchRun.detach at hrecv ⊢
  dsimp only at hrecv ⊢
  split
  · rename_i hany
    rw [if_pos hany] at hrecv
    exact h hrecv
  · rfl

theorem Step.waiting_eq_nil (hstep : Step s a s') (h : s.queue.isReceiving = false → s.queue.waiting = [])
    (hrecv' : s'.queue.isReceiving = false) : s'.queue.waiting = [] := by
  cases hstep with
  | offerRecord batch r hp hc hrecv | offerLast batch hp hc hrecv => cases hrecv.symm.trans hrecv'
  | take i batch waiting hi hc hw => cases (h hrecv').symm.trans hw
  | detach i conclusion hi => exact waiting_detach_eq_nil h conclusion hrecv'
  | abortConsumer i => exact waiting_detach_eq_nil h .aborted hrecv'
  | abortHandling i batch =>
    exact waiting_detach_eq_nil (s := { s with queue.pool := s.queue.pool.give batch }) h .aborted hrecv'
  | _ => exact h hrecv'

theorem Filed.step (h : Filed limits s) (hstep : Step s a s') : Filed limits s' where
  toWiring := h.toWiring.step hstep
  capacity batch hmem := by
    cases hstep.turnover with
    | made hmakes hheld hpool =>
      rcases List.mem_cons.1 (hheld.mem_iff.1 hmem) with rfl | hmem
      · exact h.maxBatchSize_eq
      · exact h.capacity batch hmem
    | returned batches hmakes hheld hpool =>
      exact h.capacity batch (hheld.mem_iff.2 (List.mem_append_right _ hmem))
  waiting := hstep.waiting_eq_nil h.waiting

/-- **A step makes as many batches as it gives buffers back, less those that are held more.** -/
theorem Filed.makes_add (h : Filed limits s) (hstep : Step s a s') :
    s.makes s' + s.held.length = s.returns s' + s'.held.length := by
  have hlimits := (h.toWiring.step hstep).limits_eq.trans h.limits_eq.symm
  have hsize := h.maxBatchSize_eq.trans (congrArg BatchLimits.maxBatchSize h.limits_eq.symm)
  cases hstep.turnover with
  | made hmakes hheld hpool =>
    have hidle : s'.idle = s.idle - 1 := by
      rw [idle, idle, hlimits, hpool, hsize]
      exact s.queue.pool.length_idle_take _
    have hlength := hheld.length_eq
    rw [List.length_cons] at hlength
    unfold returns
    omega
  | returned batches hmakes hheld hpool =>
    have hidle : s'.idle = s.idle + batches.length := by
      rw [idle, idle, hlimits, hpool]
      refine BufferPool.length_idle_foldl_give batches _ fun batch hmem => ?_
      rw [h.limits_eq]
      exact h.capacity batch (hheld.mem_iff.2 (List.mem_append_left _ hmem))
    have hlength := hheld.length_eq
    rw [List.length_append] at hlength
    unfold returns
    omega

theorem Filed.tally_eq : ∀ {actions : List Action} {s s' : BatchRun}, Filed limits s →
    s.replay? actions = some s' → Filed limits s' ∧
      tally makes s actions + s.held.length = tally returns s actions + s'.held.length
  | [], s, s', h, hrun => by
    obtain rfl := Option.some.inj hrun
    exact ⟨h, rfl⟩
  | a :: actions, s, s', h, hrun => by
    obtain ⟨next, hnext, hrest⟩ := Option.bind_eq_some_iff.1 hrun
    have hstep := step?_sound hnext
    have hcount := h.makes_add hstep
    obtain ⟨hfiled, htally⟩ := tally_eq (h.step hstep) hrest
    refine ⟨hfiled, ?_⟩
    simp only [tally, hnext]
    omega

/-- Nobody holds a batch when a run is over. -/
theorem Filed.held_eq_nil (h : Filed limits s) (hover : s.isOver = true) : s.held = [] := by
  obtain ⟨hp, hall⟩ := isOver_iff.1 hover
  have hrecv : s.queue.isReceiving = false := by
    rw [h.isReceiving_eq, List.any_eq_false]
    intro c hmem
    rw [hall c hmem]
    exact Bool.false_ne_true
  have hhandled : s.consumers.filterMap Consumer.handled? = [] := by
    rw [List.filterMap_eq_nil_iff]
    intro c hmem
    rw [hall c hmem]
    rfl
  rw [held, hp, h.waiting hrecv, hhandled]
  rfl

/-- **A run goes on until it is over, and then has given everything back**, whatever the order of its steps, its
limits, its records, the answers of the handler, and the moment of a cancellation.  As long as somebody has not been
joined, somebody can make a step that is no cancellation from outside.  As many batches as have been made are held or
have been given back to the pool; and when all participants have been joined nobody holds one. -/
theorem goes_on_gives_back (limits : BatchLimits) (pool : BufferPool) (hpool : pool.IsClean) (input : Decoded)
    (actions : List Action) (s : BatchRun) (hrun : (start limits pool input).replay? actions = some s) :
    (s.isOver = false → ∀ answer, s.CanGoOn answer) ∧
    tally makes (start limits pool input) actions =
      tally returns (start limits pool input) actions + s.held.length ∧
    (s.isOver = true → s.producer = .joined ∧ s.consumers = List.replicate limits.consumers .joined ∧
      s.held = [] ∧
      tally makes (start limits pool input) actions = tally returns (start limits pool input) actions) := by
  have hset := replay?_induction (fun hstep h => Setup.step h hstep) hrun (setup_start limits hpool input)
  obtain ⟨hfiled, htally⟩ := (filed_start limits pool input).tally_eq hrun
  have hnothing : (start limits pool input).held = [] := by
    simp [held, start, BatchQueue.ofPool, Producer.offered?, Consumer.handled?]
  rw [hnothing, List.length_nil, Nat.add_zero] at htally
  refine ⟨fun hover => exists_step hset hover, htally, fun hover => ?_⟩
  obtain ⟨hp, hall⟩ := isOver_iff.1 hover
  have hheld := hfiled.held_eq_nil hover
  rw [hheld, List.length_nil, Nat.add_zero] at htally
  exact ⟨hp, List.eq_replicate_iff.2 ⟨hset.length_consumers, hall⟩, hheld, htally⟩

/-- Two consumers, and batches of one short record each. -/
def pairLimits : BatchLimits := { maxRecordSize := 4, maxBatchSize := 6, maxConcurrency := 2 }

/-- More records than two consumers can have in hand. -/
def sixRecords : Decoded := { records := List.replicate 6 .null }

/-- The first consumer fails while the second one has a batch in hand, others wait, and the producer hands over one
more: the second consumer and the producer are stopped. -/
def firstFails : List Action :=
  List.replicate 5 Action.produce ++ [Action.consume 0, Action.consume 0] ++ List.replicate 3 Action.produce ++
    [Action.consume 1, Action.consume 1] ++ List.replicate 8 Action.produce ++
    [Action.finishBatch 0 { result := .error (.status 400 "bad request") }, .consume 0, .joinConsumer 0,
      .abortConsumer 1, .abortProducer, .joinProducer, .joinConsumer 1]

theorem goes_on_gives_back_failing : ∃ s, (start pairLimits {} sixRecords).replay? firstFails = some s ∧
    s.isOver = true ∧ s.result = .error (.delivery (.status 400 "bad request")) ∧ s.held = [] ∧
    tally makes (start pairLimits {} sixRecords) firstFails = 5 ∧
    tally returns (start pairLimits {} sixRecords) firstFails = 5 := by
  have hrun : ∃ s, (start pairLimits {} sixRecords).replay? firstFails = some s ∧ s.isOver = true ∧
      s.result = .error (.delivery (.status 400 "bad request")) := ⟨_, rfl, rfl, rfl⟩
  have hmade : tally makes (start pairLimits {} sixRecords) firstFails = 5 := by rfl
  obtain ⟨s, hrun, hover, hresult⟩ := hrun
  obtain ⟨-, -, hend⟩ := goes_on_gives_back pairLimits {} BufferPool.isClean_empty sixRecords firstFails s hrun
  obtain ⟨-, -, hheld, htally⟩ := hend hover
  exact ⟨s, hrun, hover, hresult, hheld, hmade, htally ▸ hmade⟩

end BatchRun
end ObjectRelay

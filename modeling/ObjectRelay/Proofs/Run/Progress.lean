import ObjectRelay.Proofs.Run.Setup
/-!
# Runs come to an end

A run never gets stuck before everybody has been joined: whatever handlers answer, somebody can
make a step (`exists_step`).  And it does not go on for ever: every step other than a cancellation from
outside lowers what is left to do (`work`), so that a run has no more steps than `work` allows
(`length_add_work_le`).
-/
namespace ObjectRelay
namespace BatchRun

open BatchQueue (Handling)

variable {limits : BatchLimits} {s s' : BatchRun} {a : Action}

/-! ## Somebody can make a step -/

/-- Whether a step is made by a participant, and a handler answers as it is said to. -/
def Action.Follows (answer : Nat → Handling) : Action → Prop
  | .cancel => False
  | .finishBatch i handling => handling = answer i
  | _ => True

/-- Whether a step can be made when handlers answer as it is said. -/
def CanGoOn (s : BatchRun) (answer : Nat → Handling) : Prop :=
  ∃ a, (s.step? a).isSome = true ∧ a.Follows answer

variable {answer : Nat → Handling} {i : Nat}

theorem canGoOn_of_receiving (hi : s.consumers[i]? = some .receiving)
    (hq : s.queue.isCancelled = true ∨ s.queue.waiting ≠ [] ∨ s.queue.isSending = false) :
    s.CanGoOn answer := by
  rcases s.queue.receive_cases with ⟨_, ho⟩ | ⟨batch, waiting, _, _, ho⟩ | ⟨_, _, _, ho⟩ | ⟨hc, hw, hs, _⟩
  · exact ⟨.consume i, by simp [step?, consume?, hi, ho], trivial⟩
  · exact ⟨.consume i, by simp [step?, consume?, hi, ho], trivial⟩
  · exact ⟨.consume i, by simp [step?, consume?, hi, ho], trivial⟩
  · simp [hc, hw, hs] at hq

/-- A consumer that holds on to the receiving side can go on, or the one that has it for itself can. -/
theorem canGoOn_of_attached {c : Consumer} (hi : s.consumers[i]? = some c) (hc : c.isAttached = true)
    (hq : s.queue.isCancelled = true ∨ s.queue.waiting ≠ [] ∨ s.queue.isSending = false) :
    s.CanGoOn answer := by
  cases c with
  | idle =>
    cases hcancel : s.queue.isCancelled with
    | true => exact ⟨.consume i, by simp [step?, consume?, hi, hcancel], trivial⟩
    | false =>
      cases hfree : s.consumers.any Consumer.isReceiving with
      | false =>
        exact ⟨.consume i, by simp [step?, consume?, hi, hcancel, hfree], trivial⟩
      | true =>
        obtain ⟨c, hmem, hreceiving⟩ := List.any_eq_true.1 hfree
        obtain ⟨j, hj⟩ := List.mem_iff_getElem?.1 hmem
        cases c with
        | receiving => exact canGoOn_of_receiving hj hq
        | _ => cases hreceiving
  | receiving => exact canGoOn_of_receiving hi hq
  | handling batch number =>
    cases hr : (answer i).result with
    | ok => exact ⟨.finishBatch i (answer i), by simp [step?, finishBatch?, hi, hr], rfl⟩
    | error error => exact ⟨.finishBatch i (answer i), by simp [step?, finishBatch?, hi, hr], rfl⟩
  | leaving conclusion => exact ⟨.consume i, by simp [step?, consume?, hi], trivial⟩
  | ended | joined => cases hc

theorem exists_not_joined (hp : s.producer = .joined) (h : s.isOver = false) :
    ∃ (i : Nat) (c : Consumer), s.consumers[i]? = some c ∧ c ≠ .joined := by
  by_contra hall
  push Not at hall
  refine Bool.eq_false_iff.1 h (isOver_iff.2 ⟨hp, fun c hmem => ?_⟩)
  obtain ⟨i, hi⟩ := List.mem_iff_getElem?.1 hmem
  exact hall i c hi

/-- **A run that is not over can go on**, whatever handlers answer. -/
theorem exists_step (hset : Setup limits s) (h : s.isOver = false) (answer : Nat → Handling) :
    s.CanGoOn answer := by
  cases hp : s.producer with
  | reading => exact ⟨.produce, by simp [step?, produce?, hp], trivial⟩
  | looking item => exact ⟨.produce, by simp [step?, produce?, hp], trivial⟩
  | offering batch next =>
    rcases s.queue.offer_cases batch with ⟨_, ho⟩ | ⟨_, _, ho⟩ | ⟨_, _, _, ho⟩ | ⟨_, hrecv, hfull, _⟩
    · exact ⟨.produce, by simp [step?, produce?, hp, ho], trivial⟩
    · exact ⟨.produce, by simp [step?, produce?, hp, ho], trivial⟩
    · cases next <;> exact ⟨.produce, by simp [step?, produce?, hp, ho], trivial⟩
    · -- all slots are full, so somebody receives, and there is something to receive
      rw [hset.isReceiving_eq] at hrecv
      obtain ⟨c, hmem, hattached⟩ := List.any_eq_true.1 hrecv
      obtain ⟨i, hi⟩ := List.mem_iff_getElem?.1 hmem
      refine canGoOn_of_attached hi hattached (.inr (.inl ?_))
      exact List.ne_nil_of_length_pos (Nat.lt_of_lt_of_le hset.slots_pos hfull)
  | ended conclusion => exact ⟨.joinProducer, by simp [step?, joinProducer?, hp], trivial⟩
  | joined =>
    obtain ⟨i, c, hi, hc⟩ := exists_not_joined hp h
    have hsending : s.queue.isSending = false := by rw [hset.isSending_eq, hp]; rfl
    cases c with
    | idle | receiving | handling | leaving => exact canGoOn_of_attached hi rfl (.inr (.inr hsending))
    | ended conclusion => exact ⟨.joinConsumer i, by simp [step?, joinConsumer?, hi], trivial⟩
    | joined => exact absurd rfl hc

/-! ## Steps use work up -/

/-- How many steps can still come of what the producer does, when it has `items` to read. -/
def producerWork (items : Nat) : Producer → Nat
  | .reading => 6 * items + 7
  | .looking _ => 6 * items + 12
  | .offering _ (some _) => 6 * items + 11
  | .offering _ none => 6
  | .ended _ => 1
  | .joined => 0

/-- How many steps can still come of what a consumer does. -/
def consumerWork : Consumer → Nat
  | .idle => 4
  | .receiving => 3
  | .handling .. => 5
  | .leaving _ => 2
  | .ended _ => 1
  | .joined => 0

/-- How many things are still to be read: records, and the error behind them. -/
def itemsOf (d : Decoded) : Nat := d.records.length + d.error.toList.length

/-- **What is left to do.** -/
def work (s : BatchRun) : Nat :=
  producerWork (itemsOf s.input) s.producer + 3 * s.queue.waiting.length + (s.consumers.map consumerWork).sum

theorem work_start (limits : BatchLimits) (pool : BufferPool) (input : Decoded) :
    (start limits pool input).work = 6 * itemsOf input + 4 * limits.consumers + 7 := by
  simp [work, start, producerWork, consumerWork, BatchQueue.ofPool]
  omega

/-- A consumer goes on to less work, and nothing else changes that counts. -/
theorem work_setConsumer_lt {c c' : Consumer} (hi : s.consumers[i]? = some c)
    (hconsumers : s'.consumers = s.consumers.set i c') (hproducer : s'.producer = s.producer)
    (hinput : s'.input = s.input)
    (hless : consumerWork c' + 3 * s'.queue.waiting.length < consumerWork c + 3 * s.queue.waiting.length) :
    s'.work < s.work := by
  have hsum := sum_map_set consumerWork hi c'
  rw [work, work, hconsumers, hproducer, hinput]
  omega

theorem length_waiting_detach_le (s : BatchRun) (i : Nat) (conclusion : Conclusion) :
    (s.detach i conclusion).queue.waiting.length ≤ s.queue.waiting.length := by
  unfold BatchRun.detach
  dsimp only
  split
  · exact Nat.le_refl _
  · exact Nat.zero_le _

theorem work_detach_lt {c : Consumer} (hi : s.consumers[i]? = some c) (hc : 1 < consumerWork c)
    (conclusion : Conclusion) : (s.detach i conclusion).work < s.work := by
  refine work_setConsumer_lt hi (consumers_detach ..) (producer_detach ..) (input_detach ..) ?_
  have hle := length_waiting_detach_le s i conclusion
  have hended : consumerWork (.ended conclusion) = 1 := rfl
  omega

/-- The producer goes on to less work, and nothing else changes that counts. -/
theorem work_lt_of_producer (hconsumers : s'.consumers = s.consumers)
    (hless : producerWork (itemsOf s'.input) s'.producer + 3 * s'.queue.waiting.length <
      producerWork (itemsOf s.input) s.producer + 3 * s.queue.waiting.length) : s'.work < s.work := by
  rw [work, work, hconsumers]
  omega

/-- **Every step uses work up**, except that somebody outside cancels. -/
theorem Step.work_lt (hstep : Step s a s') (ha : a ≠ .cancel) : s'.work < s.work := by
  cases hstep with
  | readRecord r rs e hp hi =>
    refine work_lt_of_producer rfl ?_
    simp only [hp, hi, producerWork, itemsOf, List.length_cons]
    omega
  | readError e hp hi =>
    refine work_lt_of_producer rfl ?_
    simp [hp, hi, producerWork, itemsOf]
  | readNothing hp | readLast hp | lookCancelled item hp | lookError e hp | lookTooLong r hp | lookLarge r hp
  | lookAppend r hp | lookFlush r hp | joinProducer conclusion hp | joinFailedProducer error hp =>
    refine work_lt_of_producer rfl ?_
    simp only [hp, producerWork, endProducer, swapPending, BatchQueue.swapPending, BatchQueue.dropSender]
    omega
  | offerCancelled batch next hp | offerClosed batch next hp | abortOffer batch next he hp =>
    refine work_lt_of_producer rfl ?_
    cases next <;> simp only [hp, producerWork, endProducer, BatchQueue.dropSender] <;> omega
  | offerRecord batch r hp | offerLast batch hp =>
    refine work_lt_of_producer rfl ?_
    simp only [hp, producerWork, endProducer, BatchQueue.dropSender, List.length_append, List.length_singleton]
    omega
  | claim i hi | leaveDrained i hi | joinConsumer i conclusion hi | joinFailedConsumer i error hi
  | deliver i batch number handling hi | fail i batch number handling error hi =>
    exact work_setConsumer_lt hi rfl rfl rfl (by simp [setConsumer, consumerWork])
  | leaveCancelled i hi =>
    rcases hi with hi | hi <;>
      exact work_setConsumer_lt hi rfl rfl rfl (by simp [setConsumer, consumerWork])
  | take i batch waiting hi hc hw =>
    refine work_setConsumer_lt hi rfl rfl rfl ?_
    simp only [setConsumer, consumerWork, hw, List.length_cons]
    omega
  | detach i conclusion hi => exact work_detach_lt hi (by simp [consumerWork]) conclusion
  | abortProducer he hp =>
    refine work_lt_of_producer rfl ?_
    rcases hp with hp | ⟨item, hp⟩ <;> simp only [hp, producerWork, endProducer, BatchQueue.dropSender] <;> omega
  | abortConsumer i he hi =>
    rcases hi with hi | hi <;> exact work_detach_lt hi (by simp [consumerWork]) .aborted
  | abortHandling i batch number he hi =>
    have hlt := work_detach_lt (s := { s with queue.pool := s.queue.pool.give batch }) hi
      (by simp [consumerWork]) .aborted
    exact hlt
  | cancel => exact absurd rfl ha

/-- **A run makes no more steps than it has work**, cancellations from outside apart. -/
theorem length_add_work_le : ∀ {actions : List Action} {s s' : BatchRun}, s.replay? actions = some s' →
    (∀ a ∈ actions, a ≠ .cancel) → actions.length + s'.work ≤ s.work
  | [], s, s', h, _ => by
    obtain rfl := Option.some.inj h
    simp
  | a :: actions, s, s', h, ha => by
    obtain ⟨next, hnext, hrest⟩ := Option.bind_eq_some_iff.1 h
    have hlt := (step?_sound hnext).work_lt (ha a List.mem_cons_self)
    have hle := length_add_work_le hrest fun b hb => ha b (List.mem_cons_of_mem _ hb)
    rw [List.length_cons]
    omega

end BatchRun
end ObjectRelay

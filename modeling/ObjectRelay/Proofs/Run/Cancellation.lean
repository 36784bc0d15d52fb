import ObjectRelay.Proofs.Run.Cause
import ObjectRelay.Proofs.Run.Delivery
/-!
# Cancelled runs

Whoever looks sees a cancellation first: behind it no batch enters the queue or leaves it, the handler is not called
again, and the producer reads at most one more record (`Halted`).  A consumer that still works then will fail, so a
cancelled run that ends well had nobody at work any more when it was cancelled, and everything was delivered
(`cancelled_stops`).
-/
namespace ObjectRelay

/-- How many steps the producer of a cancelled run still makes. -/
def Producer.rest : Producer → Nat
  | reading => 3
  | looking _ | offering .. => 2
  | ended _ => 1
  | joined => 0

/-- How many steps a consumer of a cancelled run still makes. -/
def Consumer.rest : Consumer → Nat
  | handling .. => 4
  | idle | receiving => 3
  | leaving _ => 2
  | ended _ => 1
  | joined => 0

theorem Producer.rest_le (p : Producer) : p.rest ≤ 3 := by
  cases p <;> simp [Producer.rest]

theorem Consumer.sum_rest_le : ∀ consumers : List Consumer, (consumers.map rest).sum ≤ 4 * consumers.length
  | [] => Nat.le_refl _
  | c :: consumers => by
    have hc : c.rest ≤ 4 := by cases c <;> simp [rest]
    have hsum := sum_rest_le consumers
    rw [List.map_cons, List.sum_cons, List.length_cons]
    omega

namespace BatchRun

variable {limits : BatchLimits} {input : Decoded} {s s' t t' : BatchRun} {a : Action}

theorem Step.isCancelled (hstep : Step s a s') (h : s.queue.isCancelled = true) : s'.queue.isCancelled = true := by
  cases hstep with
  | joinFailedProducer | joinFailedConsumer | cancel => rfl
  | deliver | fail =>
    show (s.queue.isCancelled || _) = true
    rw [h, Bool.true_or]
  | detach | abortConsumer | abortHandling => exact (isCancelled_detach ..).trans h
  | _ => exact h

/-! ## Nothing new is begun -/

theorem waiting_detach (s : BatchRun) (i : Nat) (conclusion : Conclusion) :
    (s.detach i conclusion).queue.waiting = s.queue.waiting ∨ (s.detach i conclusion).queue.waiting = [] := by
  unfold BatchRun.detach
  dsimp only
  split
  · exact .inl rfl
  · exact .inr rfl

/-- A consumer that has nothing in hand, and gets nothing. -/
theorem inHand_set {i : Nat} {c c' : Consumer} (hi : s.consumers[i]? = some c) (hc : c.inHand? = none)
    (hc' : c'.inHand? = none) : ((s.consumers.set i c').filterMap Consumer.inHand?).Perm s.inHand := by
  have hperm := perm_filterMap_set Consumer.inHand? hi c'
  rw [hc, hc'] at hperm
  exact hperm

/-- A consumer puts down what it has in hand. -/
theorem inHand_set_handling {i number : Nat} {batch : Batch} (hi : s.consumers[i]? = some (.handling batch number))
    (c' : Consumer) (hc' : c'.inHand? = none) :
    (batch.bytes :: (s.consumers.set i c').filterMap Consumer.inHand?).Perm s.inHand := by
  have hperm := perm_filterMap_set Consumer.inHand? hi c'
  rw [hc'] at hperm
  exact hperm

/-- **What has become of a run since it was cancelled in state `s`.** -/
structure Halted (s t : BatchRun) : Prop where
  isCancelled : t.queue.isCancelled = true
  handed_eq : t.handed = s.handed
  waiting : t.queue.waiting = s.queue.waiting ∨ t.queue.waiting = []
  read : t.input = s.input ∨ t.producer ≠ .reading ∧ itemsOf s.input ≤ itemsOf t.input + 1
  answered : ∃ answered, t.delivered = s.delivered ++ answered ∧ (answered ++ t.inHand).Subperm s.inHand

theorem halted_refl (h : s.queue.isCancelled = true) : Halted s s where
  isCancelled := h
  handed_eq := rfl
  waiting := .inl rfl
  read := .inl rfl
  answered := ⟨[], (List.append_nil _).symm, List.Subperm.refl _⟩

namespace Halted

theorem read_of_ne (h : Halted s t) {p : Producer} (hp : p ≠ .reading) :
    t.input = s.input ∨ p ≠ .reading ∧ itemsOf s.input ≤ itemsOf t.input + 1 :=
  h.read.imp_right fun hread => ⟨hp, hread.2⟩

theorem endProducer (h : Halted s t) (conclusion : Conclusion) : Halted s (t.endProducer conclusion) :=
  { h with read := h.read_of_ne nofun }

theorem giveBack (h : Halted s t) (batch : Batch) : Halted s { t with queue.pool := t.queue.pool.give batch } :=
  { h with }

theorem setConsumer (h : Halted s t) {i : Nat} {c c' : Consumer} (hi : t.consumers[i]? = some c)
    (hc : c.inHand? = none) (hc' : c'.inHand? = none) : Halted s (t.setConsumer i c') := by
  obtain ⟨answered, hdelivered, hsub⟩ := h.answered
  have hperm : (t.setConsumer i c').inHand.Perm t.inHand := inHand_set hi hc hc'
  exact { h with answered := ⟨answered, hdelivered, ((hperm.append_left answered).subperm).trans hsub⟩ }

theorem detach (h : Halted s t) {i : Nat} {c : Consumer} (hi : t.consumers[i]? = some c) (hc : c.inHand? = none)
    (conclusion : Conclusion) : Halted s (t.detach i conclusion) := by
  have hset : Halted s (t.setConsumer i (.ended conclusion)) := h.setConsumer hi hc rfl
  unfold BatchRun.detach
  dsimp only
  split
  · exact hset
  · exact { hset with waiting := .inr rfl }

/-- What a consumer has in hand is dropped. -/
theorem dropBatch (h : Halted s t) {i number : Nat} {batch : Batch}
    (hi : t.consumers[i]? = some (.handling batch number)) (c' : Consumer) (hc' : c'.inHand? = none) :
    ∃ answered, t.delivered = s.delivered ++ answered ∧
      (answered ++ (t.consumers.set i c').filterMap Consumer.inHand?).Subperm s.inHand := by
  obtain ⟨answered, hdelivered, hsub⟩ := h.answered
  have hperm := inHand_set_handling hi c' hc'
  have hless : ((t.consumers.set i c').filterMap Consumer.inHand?).Subperm t.inHand :=
    ((List.sublist_cons_self ..).subperm).trans hperm.subperm
  exact ⟨answered, hdelivered, ((List.subperm_append_left answered).2 hless).trans hsub⟩

/-- **Nobody begins anything in a cancelled run.** -/
theorem step (h : Halted s t) (hstep : Step t a t') : Halted s t' := by
  have hcancelled := h.isCancelled
  cases hstep with
  | readRecord r rs e hp hi =>
    have hinput : t.input = s.input := h.read.resolve_right fun hread => hread.1 hp
    refine { h with read := .inr ⟨by simp, ?_⟩ }
    rw [← hinput, hi]
    simp [itemsOf]
    omega
  | readError e hp hi =>
    have hinput : t.input = s.input := h.read.resolve_right fun hread => hread.1 hp
    refine { h with read := .inr ⟨by simp, ?_⟩ }
    rw [← hinput, hi]
    simp [itemsOf]
  | readNothing | lookCancelled => exact h.endProducer _
  | readLast hp hi hn => exact { h with read := h.read_of_ne (by simp [BatchRun.swapPending]) }
  | offerCancelled batch next hp hc => exact (h.giveBack batch).endProducer _
  | leaveCancelled i hi hc =>
    rcases hi with hi | hi
    · exact h.setConsumer hi rfl rfl
    · exact h.setConsumer hi rfl rfl
  | detach i conclusion hi => exact h.detach hi rfl conclusion
  | deliver i batch number handling hi hr =>
    obtain ⟨answered, hdelivered, hsub⟩ := h.answered
    have hperm := inHand_set_handling hi .idle rfl
    refine { h with
      isCancelled := Bool.or_eq_true_iff.2 (.inl hcancelled)
      answered := ⟨answered ++ [batch.bytes], ?_, ?_⟩ }
    · show t.delivered ++ [batch.bytes] = _
      rw [hdelivered, List.append_assoc]
    · rw [List.append_assoc]
      exact ((hperm.append_left answered).subperm).trans hsub
  | fail i batch number handling error hi hr =>
    exact { h with
      isCancelled := Bool.or_eq_true_iff.2 (.inl hcancelled)
      answered := h.dropBatch hi _ rfl }
  | joinProducer conclusion hp hq => exact { h with read := h.read_of_ne (by simp) }
  | joinFailedProducer error hp he => exact { h with isCancelled := rfl, read := h.read_of_ne (by simp) }
  | joinConsumer i conclusion hi hq => exact h.setConsumer hi rfl rfl
  | joinFailedConsumer i error hi he =>
    have hset : Halted s (t.setConsumer i .joined) := h.setConsumer hi rfl rfl
    exact { hset with isCancelled := rfl }
  | abortProducer he hp => exact h.endProducer _
  | abortOffer batch next he hp => exact (h.giveBack batch).endProducer _
  | abortConsumer i he hi =>
    rcases hi with hi | hi
    · exact h.detach hi rfl _
    · exact h.detach hi rfl _
  | abortHandling i batch number he hi =>
    have hdropped := h.dropBatch hi (.ended .aborted) rfl
    have hwaiting := waiting_detach { t with queue.pool := t.queue.pool.give batch } i .aborted
    exact {
      isCancelled := (isCancelled_detach ..).trans hcancelled
      handed_eq := (handed_detach ..).trans h.handed_eq
      waiting := hwaiting.elim (fun heq => h.waiting.imp heq.trans heq.trans) .inr
      read := by
        rw [input_detach, producer_detach]
        exact h.read
      answered := by
        rw [delivered_detach, inHand, consumers_detach]
        exact hdropped }
  | cancel => exact { h with isCancelled := rfl }
  -- the others look before they act, and see the cancellation
  | _ => simp_all

end Halted

/-! ## Whoever is left stops soon -/

/-- What is left to do in a cancelled run. -/
def rest (s : BatchRun) : Nat := s.producer.rest + (s.consumers.map Consumer.rest).sum

theorem rest_le (s : BatchRun) : s.rest ≤ 4 * s.consumers.length + 3 := by
  have hsum := Consumer.sum_rest_le s.consumers
  have hproducer := s.producer.rest_le
  unfold rest
  omega

theorem rest_lt_of_set {i : Nat} {c c' : Consumer} (hi : s.consumers[i]? = some c)
    (hconsumers : s'.consumers = s.consumers.set i c') (hproducer : s'.producer = s.producer)
    (hless : c'.rest < c.rest) : s'.rest < s.rest := by
  have hsum := sum_map_set Consumer.rest hi c'
  unfold rest
  rw [hconsumers, hproducer]
  omega

theorem rest_lt_of_producer (hconsumers : s'.consumers = s.consumers) (hless : s'.producer.rest < s.producer.rest) :
    s'.rest < s.rest := by
  unfold rest
  rw [hconsumers]
  omega

/-- **Every step of a cancelled run is one of its last ones.** -/
theorem Step.rest_lt (hstep : Step s a s') (hcancelled : s.queue.isCancelled = true) (ha : a ≠ .cancel) :
    s'.rest < s.rest := by
  cases hstep with
  | readRecord r rs e hp | readError e hp | readNothing hp | readLast hp | lookCancelled item hp
  | offerCancelled batch next hp | joinProducer conclusion hp | joinFailedProducer error hp
  | abortOffer batch next he hp =>
    refine rest_lt_of_producer rfl ?_
    simp [hp, Producer.rest, endProducer, swapPending]
  | abortProducer he hp =>
    refine rest_lt_of_producer rfl ?_
    rcases hp with hp | ⟨item, hp⟩ <;> simp [hp, Producer.rest, endProducer]
  | leaveCancelled i hi =>
    rcases hi with hi | hi <;> exact rest_lt_of_set hi rfl rfl (by simp [Consumer.rest])
  | deliver i batch number handling hi | fail i batch number handling error hi | joinConsumer i conclusion hi
  | joinFailedConsumer i error hi => exact rest_lt_of_set hi rfl rfl (by simp [Consumer.rest])
  | detach i conclusion hi =>
    exact rest_lt_of_set hi (consumers_detach ..) (producer_detach ..) (by simp [Consumer.rest])
  | abortConsumer i he hi =>
    rcases hi with hi | hi <;>
      exact rest_lt_of_set hi (consumers_detach ..) (producer_detach ..) (by simp [Consumer.rest])
  | abortHandling i batch number he hi =>
    exact rest_lt_of_set hi (consumers_detach ..) (producer_detach ..) (by simp [Consumer.rest])
  | cancel => exact absurd rfl ha
  | _ => simp_all

/-! ## Nobody ends well who was at work -/

/-- A consumer at work in a cancelled run stays so, or somebody has failed. -/
theorem Step.isWorking (hstep : Step s a s') (hcancelled : s.queue.isCancelled = true)
    (h : s.consumers.any Consumer.isWorking = true) : s'.consumers.any Consumer.isWorking = true ∨ Doomed s' := by
  cases hstep with
  | leaveCancelled i hi =>
    rcases hi with hi | hi <;> exact .inr (Tidy.doomed_setConsumer hi rfl)
  | fail i batch number handling error hi =>
    exact .inr (Tidy.doomed_setConsumer (c := .handling batch number) hi rfl)
  | deliver i batch number handling hi => exact .inl (any_set_of_imp hi (fun _ => rfl) h)
  | detach i conclusion hi =>
    rw [consumers_detach]
    exact .inl (any_set_of_imp hi (fun hc => nomatch hc) h)
  | joinConsumer i conclusion hi => exact .inl (any_set_of_imp hi (fun hc => nomatch hc) h)
  | joinFailedProducer | joinFailedConsumer => exact .inr (.inl rfl)
  | abortConsumer i he | abortHandling i batch number he => exact .inr (.inl ((error_detach ..).symm ▸ he))
  | claim | leaveDrained | take => simp_all
  | _ => exact .inl h

/-! ## Runs behind a cancellation -/

theorem length_add_rest_le : ∀ {actions : List Action} {s s' : BatchRun}, s.replay? actions = some s' →
    s.queue.isCancelled = true → (∀ a ∈ actions, a ≠ .cancel) → actions.length + s'.rest ≤ s.rest
  | [], s, s', h, _, _ => by
    obtain rfl := Option.some.inj h
    simp
  | a :: actions, s, s', h, hcancelled, ha => by
    obtain ⟨next, hnext, hrest⟩ := Option.bind_eq_some_iff.1 h
    have hstep := step?_sound hnext
    have hlt := hstep.rest_lt hcancelled (ha a List.mem_cons_self)
    have hle := length_add_rest_le hrest (hstep.isCancelled hcancelled) fun b hb => ha b (List.mem_cons_of_mem _ hb)
    rw [List.length_cons]
    omega

/-- If somebody is at work when a run is cancelled, it does not end well. -/
theorem doomed_of_isWorking {actions : List Action} (h : s.replay? actions = some t)
    (hcancelled : s.queue.isCancelled = true) (hwork : s.consumers.any Consumer.isWorking = true)
    (hover : t.isOver = true) : Doomed t := by
  have hkept : t.queue.isCancelled = true ∧ (t.consumers.any Consumer.isWorking = true ∨ Doomed t) := by
    refine replay?_induction (P := fun t => t.queue.isCancelled = true ∧
      (t.consumers.any Consumer.isWorking = true ∨ Doomed t)) (fun hstep ht => ?_) h ⟨hcancelled, .inl hwork⟩
    refine ⟨hstep.isCancelled ht.1, ?_⟩
    rcases ht.2 with hw | hd
    · exact hstep.isWorking ht.1 hw
    · exact .inr (hd.step hstep)
  refine hkept.2.resolve_left fun hw => ?_
  obtain ⟨c, hmem, hc⟩ := List.any_eq_true.1 hw
  rw [(isOver_iff.1 hover).2 c hmem] at hc
  cases hc

/-- Nobody at work, and nothing failed: the run has done all it was to do. -/
theorem Tidy.complete_of_not_working (h : Tidy limits input s) (hset : Setup limits s)
    (hidle : s.consumers.any Consumer.isWorking = false) :
    s.producer.isLive = false ∧ (∀ c ∈ s.consumers, c.isDone = true) ∧ s.handed = limits.batches input.records ∧
      s.delivered.Perm (limits.batches input.records) ∧ limits.CanDeliver input := by
  have hdone : ∀ c ∈ s.consumers, c.isDone = true ∧ s.IsDrained := by
    intro c hmem
    have hc : c.isWorking = false := by
      have h := List.any_eq_false.1 hidle c hmem
      simpa using h
    obtain ⟨i, hi⟩ := List.mem_iff_getElem?.1 hmem
    exact h.isDrained_of_getElem? hi hc
  obtain ⟨-, hdead, hwaiting⟩ := hdone _ (List.getElem_mem hset.consumers_pos)
  have hinHand : s.inHand = [] := by
    rw [inHand, List.filterMap_eq_nil_iff]
    intro c hmem
    have hc := (hdone c hmem).1
    cases c <;> first | rfl | cases hc
  obtain ⟨hsent, hcan⟩ := h.complete hdead
  have hhanded : s.handed = limits.batches input.records := by
    rw [sent, hwaiting, List.map_nil, List.append_nil] at hsent
    exact hsent
  have hbooks := h.books
  rw [hinHand, List.append_nil] at hbooks
  exact ⟨hdead, fun c hmem => (hdone c hmem).1, hhanded, hhanded ▸ hbooks.symm, hcan⟩

/-- **A cancelled run stops**, whatever the steps before the cancellation and behind it.  No batch enters the queue
any more, none is taken out, and the handler is not called: what it still answers was in hand when the run was
cancelled.  The producer reads at most one more record, and nobody makes more than a few steps.  The run ends
well only if nobody was left to see the cancellation: everything had been handed over, taken out and delivered. -/
theorem cancelled_stops (limits : BatchLimits) (pool : BufferPool) (hpool : pool.IsClean) (input : Decoded)
    (before after : List Action) (s t : BatchRun) (hbefore : (start limits pool input).replay? before = some s)
    (hcancelled : s.queue.isCancelled = true) (hafter : s.replay? after = some t) :
    (t.queue.waiting = s.queue.waiting ∨ t.queue.waiting = []) ∧ t.handed = s.handed ∧
    (∃ answered, t.delivered = s.delivered ++ answered ∧ (answered ++ t.inHand).Subperm s.inHand) ∧
    itemsOf s.input ≤ itemsOf t.input + 1 ∧
    ((∀ a ∈ after, a ≠ .cancel) → after.length ≤ 4 * limits.consumers + 3) ∧
    (t.isOver = true → t.result = .ok () →
      ¬Doomed s ∧ s.producer.isLive = false ∧ (∀ c ∈ s.consumers, c.isDone = true) ∧
      s.handed = limits.batches input.records ∧ s.delivered.Perm (limits.batches input.records) ∧
      input.error = none ∧ limits.kept input.records = limits.keepable input.records) := by
  have hreached := reached_of_replay? hpool hbefore
  have hhalted := replay?_induction (fun hstep ht => Halted.step ht hstep) hafter (halted_refl hcancelled)
  refine ⟨hhalted.waiting, hhalted.handed_eq, hhalted.answered, ?_, fun ha => ?_, fun hover hresult => ?_⟩
  · rcases hhalted.read with heq | hread
    · rw [heq]
      exact Nat.le_succ _
    · exact hread.2
  · have hle := length_add_rest_le hafter hcancelled ha
    have hrest := s.rest_le
    rw [hreached.setup.length_consumers] at hrest
    omega
  · have hfine : ¬Doomed s := fun hd =>
      not_doomed hover hresult (replay?_induction (fun hstep ht => Doomed.step ht hstep) hafter hd)
    have hidle : s.consumers.any Consumer.isWorking = false := by
      refine Bool.eq_false_iff.2 fun hwork => ?_
      exact not_doomed hover hresult (doomed_of_isWorking hafter hcancelled hwork hover)
    have htidy := hreached.tidy_or_doomed.resolve_right hfine
    obtain ⟨hdead, hdone, hhanded, hdelivered, hcan⟩ := htidy.complete_of_not_working hreached.setup hidle
    exact ⟨hfine, hdead, hdone, hhanded, hdelivered, hcan.1, hcan.kept_eq⟩

/-- The run is cancelled while its only consumer has a batch in hand and the producer is about to read on. -/
def untilBusy : List Action :=
  [.produce, .produce, .produce, .produce, .produce, .produce, .produce, .consume 0, .consume 0, .cancel]

/-- The consumer is done with its batch, and everybody stops. -/
def fromBusy : List Action :=
  [.produce, .finishBatch 0 {}, .produce, .joinProducer, .consume 0, .consume 0, .joinConsumer 0]

/-- The run is cancelled when its only consumer has found the queue drained. -/
def untilDrained : List Action := producerFirst.take 18 ++ [.cancel]

/-- The consumer lets go and is joined. -/
def fromDrained : List Action := producerFirst.drop 18

theorem cancelled_stops_busy_drained :
    (∃ s t, (start narrowLimits {} threeRecords).replay? untilBusy = some s ∧ s.queue.isCancelled = true ∧
      s.replay? fromBusy = some t ∧ t.handed = s.handed ∧ fromBusy.length ≤ 7 ∧ t.result = .error .cancelled) ∧
    ∃ s t, (start narrowLimits {} threeRecords).replay? untilDrained = some s ∧ s.queue.isCancelled = true ∧
      s.replay? fromDrained = some t ∧ t.isOver = true ∧ t.result = .ok () ∧
      s.delivered.Perm (narrowLimits.batches threeRecords.records) := by
  have hbusy : ∃ s, (start narrowLimits {} threeRecords).replay? untilBusy = some s ∧ s.queue.isCancelled = true ∧
      ∃ t, s.replay? fromBusy = some t ∧ t.result = .error .cancelled := ⟨_, rfl, rfl, _, rfl, rfl⟩
  have hdrained : ∃ s, (start narrowLimits {} threeRecords).replay? untilDrained = some s ∧
      s.queue.isCancelled = true ∧ ∃ t, s.replay? fromDrained = some t ∧ t.isOver = true ∧ t.result = .ok () :=
    ⟨_, rfl, rfl, _, rfl, rfl, rfl⟩
  obtain ⟨s, hbefore, hcancelled, t, hafter, hresult⟩ := hbusy
  obtain ⟨s', hbefore', hcancelled', t', hafter', hover', hresult'⟩ := hdrained
  have hstops := cancelled_stops narrowLimits {} BufferPool.isClean_empty threeRecords _ _ s t hbefore hcancelled hafter
  have hstops' := cancelled_stops narrowLimits {} BufferPool.isClean_empty threeRecords _ _ s' t' hbefore' hcancelled'
    hafter'
  obtain ⟨-, hhanded, -, -, hlength, -⟩ := hstops
  obtain ⟨-, -, -, -, -, hhonest⟩ := hstops'
  exact ⟨⟨s, t, hbefore, hcancelled, hafter, hhanded, hlength (by simp [fromBusy]), hresult⟩,
    s', t', hbefore', hcancelled', hafter', hover', hresult', (hhonest hover' hresult').2.2.2.2.1⟩

end BatchRun
end ObjectRelay

import ObjectRelay.Proofs.Run.Progress
import ObjectRelay.Proofs.Run.Success
/-!
# What a run delivers

Whatever order the steps of a run come in, the batches that reach the handler are the first ones of
`BatchLimits.batches`, in that order, so none twice, none cut and none mixed; a run that ends well has
delivered all of them; and a run that is not cancelled and in which nobody has a reason to fail ends
well (`delivers`).
-/
namespace ObjectRelay
namespace BatchRun

variable {limits : BatchLimits} {input : Decoded} {s s' : BatchRun}

/-- What is known of every state that a run reaches. -/
structure Reached (limits : BatchLimits) (input : Decoded) (s : BatchRun) : Prop where
  setup : Setup limits s
  ledger : Ledger limits input.records s
  tidy_or_doomed : Tidy limits input s ∨ Doomed s

theorem reached_start (limits : BatchLimits) {pool : BufferPool} (hpool : pool.IsClean) (input : Decoded) :
    Reached limits input (start limits pool input) :=
  ⟨setup_start limits hpool input, ledger_start limits hpool input, .inl (tidy_start limits pool input)⟩

theorem Reached.step {a : Action} (h : Reached limits input s) (hstep : Step s a s') :
    Reached limits input s' where
  setup := h.setup.step hstep
  ledger := h.ledger.step h.setup hstep
  tidy_or_doomed := by
    rcases h.tidy_or_doomed with ht | hd
    · exact (ht.step h.setup h.ledger hstep).imp_right And.left
    · exact .inr (hd.step hstep)

theorem reached_of_replay? {limits : BatchLimits} {pool : BufferPool} (hpool : pool.IsClean) {input : Decoded}
    {actions : List Action} (h : (start limits pool input).replay? actions = some s) :
    Reached limits input s :=
  replay?_induction (fun hstep hs => hs.step hstep) h (reached_start limits hpool input)

/-- A run in which everybody has been joined, and whose result is no error, is not doomed. -/
theorem not_doomed (hover : s.isOver = true) (hresult : s.result = .ok ()) : ¬Doomed s := by
  obtain ⟨hp, hall⟩ := isOver_iff.1 hover
  rintro (herror | hproducer | hconsumers)
  · obtain ⟨error, herror⟩ := Option.isSome_iff_exists.1 herror
    rw [result, herror] at hresult
    cases hresult
  · obtain ⟨error, herror⟩ := exists_of_hasFailed hproducer
    rw [herror] at hp
    cases hp
  · obtain ⟨c, hmem, hc⟩ := List.any_eq_true.1 hconsumers
    rw [hall c hmem] at hc
    cases hc

/-- A tidy run that is over has delivered everything. -/
theorem Tidy.delivered_perm (h : Tidy limits input s) (hset : Setup limits s) (hover : s.isOver = true) :
    s.delivered.Perm (limits.batches input.records) ∧ limits.CanDeliver input := by
  obtain ⟨hp, hall⟩ := isOver_iff.1 hover
  have hdead : s.producer.isLive = false := by rw [hp]; rfl
  -- there is at least one consumer, and it has found the queue drained
  have hwaiting : s.queue.waiting = [] := by
    have hmem := List.getElem_mem hset.consumers_pos
    rcases h.consumers _ hmem with hw | ⟨-, -, hw⟩
    · rw [hall _ hmem] at hw
      cases hw
    · exact hw
  have hinHand : s.inHand = [] := by
    rw [inHand, List.filterMap_eq_nil_iff]
    intro c hmem
    rw [hall c hmem]
    rfl
  obtain ⟨hsent, hcan⟩ := h.complete hdead
  have hbooks := h.books
  rw [hinHand, List.append_nil] at hbooks
  rw [sent, hwaiting, List.map_nil, List.append_nil] at hsent
  exact ⟨hsent ▸ hbooks.symm, hcan⟩

theorem calm_of_replay? (hinput : limits.CanDeliver input) : ∀ {actions : List Action} {s s' : BatchRun},
    s.replay? actions = some s' → (∀ a ∈ actions, a.IsQuiet) → Reached limits input s → Calm limits input s →
    Calm limits input s'
  | [], s, s', h, _, _, hs => Option.some.inj h ▸ hs
  | a :: actions, s, s', h, hquiet, hreached, hs => by
    obtain ⟨next, hnext, hrest⟩ := Option.bind_eq_some_iff.1 h
    have hstep := step?_sound hnext
    exact calm_of_replay? hinput hrest (fun b hb => hquiet b (List.mem_cons_of_mem _ hb)) (hreached.step hstep)
      (hs.step hinput hreached.setup hreached.ledger (hquiet a List.mem_cons_self) hstep)

/-- **What a run delivers**, for every order of its steps.  What has reached the handler is a first part of the
batches; a run that ends well has delivered them all, the records ended without an error, and only those that
are too large to keep were left out.  Without cancellation, failing handlers, an error behind the records and
records that no batch can hold, the run has a bounded number of steps, can always make one more until it is
over, and then has ended well with everything delivered.  The pool may be new or as an earlier run has left it: in
either no idle buffer holds anything. -/
theorem delivers (limits : BatchLimits) (pool : BufferPool) (hpool : pool.IsClean) (input : Decoded)
    (actions : List Action) (s : BatchRun) (hrun : (start limits pool input).replay? actions = some s) :
    s.handed <+: limits.batches input.records ∧
    (s.isOver = true → s.result = .ok () →
      s.delivered.Perm (limits.batches input.records) ∧ input.error = none ∧
        limits.kept input.records = limits.keepable input.records) ∧
    (limits.CanDeliver input → (∀ a ∈ actions, a.IsQuiet) →
      actions.length ≤ 6 * itemsOf input + 4 * limits.consumers + 7 ∧
      (s.isOver = false → ∃ a, a.IsQuiet ∧ (s.step? a).isSome = true) ∧
      (s.isOver = true → s.result = .ok () ∧ s.delivered.Perm (limits.batches input.records))) ∧
    s.queue.pool.IsClean := by
  have hreached := reached_of_replay? hpool hrun
  refine ⟨?_, fun hover hresult => ?_, fun hinput hquiet => ⟨?_, fun hover => ?_, fun hover => ?_⟩,
    hreached.setup.isClean⟩
  · exact (List.prefix_append s.handed _).trans hreached.ledger.sent_prefix
  · have htidy := hreached.tidy_or_doomed.resolve_right (not_doomed hover hresult)
    obtain ⟨hdelivered, hcan⟩ := htidy.delivered_perm hreached.setup hover
    exact ⟨hdelivered, hcan.1, hcan.kept_eq⟩
  · have hle := length_add_work_le hrun fun a ha heq => by
      have hq := hquiet a ha
      rw [heq] at hq
      exact hq
    rw [work_start] at hle
    omega
  · obtain ⟨a, hsome, hfollows⟩ := exists_step hreached.setup hover fun _ => {}
    refine ⟨a, ?_, hsome⟩
    cases a with
    | finishBatch i handling => exact hfollows ▸ ⟨rfl, rfl⟩
    | cancel => exact hfollows
    | _ => trivial
  · have hcalm := calm_of_replay? hinput hrun hquiet (reached_start limits hpool input)
      ⟨tidy_start limits pool input, rfl⟩
    refine ⟨?_, (hcalm.delivered_perm hreached.setup hover).1⟩
    rw [result, hcalm.error_eq]

/-- Limits under which two short records need two batches, and one consumer. -/
def narrowLimits : BatchLimits := { maxRecordSize := 4, maxBatchSize := 6, maxConcurrency := 1 }

/-- Three records, of which the second one is too large to keep. -/
def threeRecords : Decoded := { records := [.bool true, .bool false, .null] }

/-- Steps in which the producer comes first, as long as it does not have to wait. -/
def producerFirst : List Action :=
  [.produce, .produce, .produce, .produce, .produce, .produce, .produce, .produce, .produce, .joinProducer,
    .consume 0, .consume 0, .finishBatch 0 {}, .consume 0, .consume 0, .finishBatch 0 {},
    .consume 0, .consume 0, .consume 0, .joinConsumer 0]

theorem delivers_threeRecords : ∃ s, (start narrowLimits {} threeRecords).replay? producerFirst = some s ∧
    s.isOver = true ∧ s.handed <+: [Utf8.encode "true\n", Utf8.encode "null\n"] ∧
    s.delivered.Perm [Utf8.encode "true\n", Utf8.encode "null\n"] ∧ s.result = .ok () := by
  have hcan : narrowLimits.CanDeliver threeRecords := ⟨rfl, by decide⟩
  have hquiet : ∀ a ∈ producerFirst, a.IsQuiet := by simp [producerFirst, Action.IsQuiet]
  refine ⟨_, rfl, rfl, ?_⟩
  have h := delivers narrowLimits {} BufferPool.isClean_empty threeRecords producerFirst _ rfl
  exact ⟨h.1, (h.2.1 rfl rfl).1, ((h.2.2.1 hcan hquiet).2.2 rfl).1⟩

end BatchRun
end ObjectRelay

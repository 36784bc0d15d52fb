import ObjectRelay.Proofs.Run.Success
/-!
# Who has failed first

A participant fails with an error of its own (`Raised`), or because another one has failed: it is cancelled, or
finds the queue closed.  Nobody is cancelled before a failure has been joined, so in a run that nobody else
cancels there is one way only for an error that is not somebody's own to come up before that: all consumers
have failed, and let go of the receiving side, and the producer offers a batch (`Blameless`).
-/
namespace ObjectRelay

/-- Whether what is left of an object is part of what it decodes to. -/
def Decoded.IsPart (d whole : Decoded) : Prop :=
  (∀ r ∈ d.records, r ∈ whole.records) ∧ ∀ error, d.error = some error → whole.error = some error

theorem Decoded.IsPart.tail {r : Record} {records : List Record} {error : Option DecodeError} {whole : Decoded}
    (h : Decoded.IsPart ⟨r :: records, error⟩ whole) : Decoded.IsPart ⟨records, error⟩ whole :=
  ⟨fun other hother => h.1 other (List.mem_cons_of_mem _ hother), h.2⟩

theorem mem_keepable {limits : BatchLimits} {r : Record} {records : List Record} (h : r ∈ records)
    (hr : (Utf8.encode r.text).length ≤ limits.maxRecordSize) : Utf8.encode r.text ∈ limits.keepable records :=
  List.mem_filter.2 ⟨List.mem_map_of_mem h, decide_eq_true hr⟩

/-- What a consumer has failed with, if it has not been joined. -/
def Consumer.failure? : Consumer → Option BatchError
  | leaving (.failed error) | ended (.failed error) => some error
  | _ => none

namespace BatchRun

@[simp] theorem isCancelled_detach (s : BatchRun) (i : Nat) (conclusion : Conclusion) :
    (s.detach i conclusion).queue.isCancelled = s.queue.isCancelled := by
  unfold BatchRun.detach
  dsimp only
  split <;> rfl

/-- Whether a step cancels the run from outside. -/
def Action.IsCancelling : Action → Prop
  | .cancel => True
  | .finishBatch _ handling => handling.isCancelling = true
  | _ => False

/-- **The errors that a participant has by itself**: that of the decoder, a record that no batch can hold, and
what the handler fails with. -/
inductive Raised (limits : BatchLimits) (input : Decoded) (actions : List Action) : BatchError → Prop
  | decode {error} (h : input.error = some error) : Raised limits input actions (.decode error)
  | recordTooLong {bytes} (h : bytes ∈ limits.keepable input.records) (hl : limits.maxBatchSize < bytes.length + 1) :
      Raised limits input actions (.recordTooLong (bytes.length + 1) limits.maxBatchSize)
  | delivery {i handling error} (h : .finishBatch i handling ∈ actions) (hr : handling.result = .error error) :
      Raised limits input actions (.delivery error)

variable {limits : BatchLimits} {input : Decoded} {actions : List Action} {s s' : BatchRun} {a : Action}

/-- Whether all consumers have ended with failures that have not been joined. -/
def ConsumersFailed (s : BatchRun) : Prop := ∀ c ∈ s.consumers, ∃ error, c = .ended (.failed error)

/-- Whether the producer may end in this way before a failure has been joined. -/
def Explained (limits : BatchLimits) (input : Decoded) (actions : List Action) (s : BatchRun)
    (conclusion : Conclusion) : Prop :=
  conclusion = .done ∨ (∃ error, conclusion = .failed error ∧ Raised limits input actions error) ∨
    conclusion = .failed .closed ∧ s.ConsumersFailed

/-- Whether a consumer may be in this state before a failure has been joined. -/
def Accounted (limits : BatchLimits) (input : Decoded) (actions : List Action) (s : BatchRun) (c : Consumer) : Prop :=
  c.isWorking = true ∨ c.isDone = true ∧ s.producer.isLive = false ∨
    ∃ error, c.failure? = some error ∧ Raised limits input actions error

/-- **A run before the first failure is joined.** -/
structure Blameless (limits : BatchLimits) (input : Decoded) (actions : List Action) (s : BatchRun) : Prop where
  error_eq : s.error = none
  not_cancelled : s.queue.isCancelled = false
  ahead : s.producer.isLive = true → s.ahead.IsPart input
  producer : ∀ conclusion, s.producer = .ended conclusion → Explained limits input actions s conclusion
  consumers : ∀ c ∈ s.consumers, Accounted limits input actions s c

theorem blameless_start (limits : BatchLimits) (pool : BufferPool) (input : Decoded) (actions : List Action) :
    Blameless limits input actions (start limits pool input) where
  error_eq := rfl
  not_cancelled := rfl
  ahead _ := ⟨fun _ hr => hr, fun _ he => he⟩
  producer _ h := nomatch h
  consumers c hc := by
    rw [List.eq_of_mem_replicate hc]
    exact .inl rfl

namespace Blameless

theorem of_live (h : Blameless limits input actions s) (hlive : s.producer.isLive = true)
    (hlive' : s'.producer.isLive = true) (herror : s'.error = s.error)
    (hcancelled : s'.queue.isCancelled = s.queue.isCancelled) (hconsumers : s'.consumers = s.consumers)
    (hahead : s'.ahead.IsPart input) : Blameless limits input actions s' where
  error_eq := herror.trans h.error_eq
  not_cancelled := hcancelled.trans h.not_cancelled
  ahead _ := hahead
  producer conclusion hp := by
    rw [hp] at hlive'
    cases hlive'
  consumers c hc := by
    rcases h.consumers c (hconsumers ▸ hc) with hw | ⟨-, hdead⟩ | hf
    · exact .inl hw
    · rw [hlive] at hdead
      cases hdead
    · exact .inr (.inr hf)

theorem of_ended (h : Blameless limits input actions s) {conclusion : Conclusion}
    (hproducer : s'.producer = .ended conclusion) (hexplained : Explained limits input actions s conclusion)
    (herror : s'.error = s.error) (hcancelled : s'.queue.isCancelled = s.queue.isCancelled)
    (hconsumers : s'.consumers = s.consumers) : Blameless limits input actions s' where
  error_eq := herror.trans h.error_eq
  not_cancelled := hcancelled.trans h.not_cancelled
  ahead hlive := by
    rw [hproducer] at hlive
    cases hlive
  producer other hp := by
    obtain rfl : conclusion = other := by
      rw [hproducer] at hp
      exact Producer.ended.inj hp
    rw [Explained, ConsumersFailed, hconsumers]
    exact hexplained
  consumers c hc := by
    rcases h.consumers c (hconsumers ▸ hc) with hw | ⟨hdone, -⟩ | hf
    · exact .inl hw
    · exact .inr (.inl ⟨hdone, by rw [hproducer]; rfl⟩)
    · exact .inr (.inr hf)

theorem of_consumer (h : Blameless limits input actions s) {i : Nat} {c c' : Consumer} (hi : s.consumers[i]? = some c)
    (hc : ∀ error, c ≠ .ended (.failed error)) (hc' : Accounted limits input actions s c')
    (hproducer : s'.producer = s.producer) (hinput : s'.input = s.input) (herror : s'.error = s.error)
    (hcancelled : s'.queue.isCancelled = s.queue.isCancelled) (hconsumers : s'.consumers = s.consumers.set i c') :
    Blameless limits input actions s' where
  error_eq := herror.trans h.error_eq
  not_cancelled := hcancelled.trans h.not_cancelled
  ahead hlive := by
    rw [BatchRun.ahead, hproducer, hinput]
    exact h.ahead (hproducer ▸ hlive)
  producer conclusion hp := by
    refine (h.producer conclusion (hproducer ▸ hp)).imp_right (.imp_right (.imp_right fun hfailed => ?_))
    obtain ⟨error, herror⟩ := hfailed c (List.mem_of_getElem? hi)
    exact absurd herror (hc error)
  consumers other hother := by
    rw [Accounted, hproducer]
    rw [hconsumers] at hother
    rcases List.mem_or_eq_of_mem_set hother with hmem | rfl
    · exact h.consumers other hmem
    · exact hc'

/-- The ones that have let go have failed, as long as there may be more batches. -/
theorem consumersFailed (h : Blameless limits input actions s) (hwiring : Wiring limits s)
    (hlive : s.producer.isLive = true) (hrecv : s.queue.isReceiving = false) : s.ConsumersFailed := by
  intro c hc
  have hdetached : c.isAttached = false := by
    rw [hwiring.isReceiving_eq, List.any_eq_false] at hrecv
    exact Bool.eq_false_iff.2 (hrecv c hc)
  rcases h.consumers c hc with hw | ⟨-, hdead⟩ | ⟨error, hf, -⟩
  · unfold Consumer.isWorking at hw
    split at hw <;> simp_all [Consumer.isAttached]
  · rw [hlive] at hdead
    cases hdead
  · refine ⟨error, ?_⟩
    unfold Consumer.failure? at hf
    split at hf <;> simp_all [Consumer.isAttached]

/-- A consumer that has ended with a failure has failed by itself. -/
theorem raised_of_consumersFailed (h : Blameless limits input actions s) (hfailed : s.ConsumersFailed) :
    ∀ c ∈ s.consumers, ∃ cause, c = .ended (.failed cause) ∧ Raised limits input actions cause := by
  intro c hc
  obtain ⟨cause, rfl⟩ := hfailed c hc
  rcases h.consumers _ hc with hw | ⟨hdone, -⟩ | ⟨error, hf, hraised⟩
  · cases hw
  · cases hdone
  · cases hf
    exact ⟨_, rfl, hraised⟩

/-- A producer that has failed has done so by itself, or all consumers have and the queue is closed. -/
theorem raised_or_closed (h : Blameless limits input actions s) {error : BatchError}
    (hp : s.producer = .ended (.failed error)) :
    Raised limits input actions error ∨ error = .closed ∧ s.ConsumersFailed := by
  rcases h.producer _ hp with hdone | ⟨other, hother, hraised⟩ | ⟨hclosed, hfailed⟩
  · cases hdone
  · cases hother
    exact .inl hraised
  · cases hclosed
    exact .inr ⟨rfl, hfailed⟩

/-- **A step that joins no failure leaves it to be seen who fails first**; the first one that is joined has
failed by itself, or the producer has found the queue closed. -/
theorem step (h : Blameless limits input actions s) (hwiring : Wiring limits s) (hmem : a ∈ actions)
    (hquiet : ¬a.IsCancelling) (hstep : Step s a s') :
    Blameless limits input actions s' ∨ ∃ error, s'.error = some error ∧ (Raised limits input actions error ∨
      error = .closed ∧ a = .joinProducer ∧ s.producer = .ended (.failed .closed) ∧ s.ConsumersFailed) := by
  cases hstep with
  | readRecord r rs e hp hi =>
    have hpart := h.ahead (by rw [hp]; rfl)
    rw [BatchRun.ahead, hp, hi] at hpart
    exact .inl (h.of_live (by rw [hp]; rfl) rfl rfl rfl rfl hpart)
  | readError e hp hi =>
    have hpart := h.ahead (by rw [hp]; rfl)
    rw [BatchRun.ahead, hp, hi] at hpart
    exact .inl (h.of_live (by rw [hp]; rfl) rfl rfl rfl rfl hpart)
  | readNothing hp hi hn => exact .inl (h.of_ended rfl (.inl rfl) rfl rfl rfl)
  | readLast hp hi hn =>
    have hpart := h.ahead (by rw [hp]; rfl)
    rw [BatchRun.ahead, hp, hi] at hpart
    exact .inl (h.of_live (by rw [hp]; rfl) rfl rfl rfl rfl hpart)
  | lookCancelled item hp hc =>
    rw [h.not_cancelled] at hc
    cases hc
  | lookError e hp hc =>
    have hpart := h.ahead (by rw [hp]; rfl)
    rw [BatchRun.ahead, hp] at hpart
    exact .inl (h.of_ended rfl (.inr (.inl ⟨_, rfl, .decode (hpart.2 e rfl)⟩)) rfl rfl rfl)
  | lookLarge r hp hc hr =>
    have hpart := h.ahead (by rw [hp]; rfl)
    rw [BatchRun.ahead, hp] at hpart
    exact .inl (h.of_live (by rw [hp]; rfl) rfl rfl rfl rfl hpart.tail)
  | lookTooLong r hp hc hr hl =>
    have hpart := h.ahead (by rw [hp]; rfl)
    rw [BatchRun.ahead, hp] at hpart
    rw [hwiring.limits_eq] at hr
    rw [hwiring.maxBatchSize_eq] at hl
    have hraised : Raised limits input actions _ := .recordTooLong (mem_keepable (hpart.1 r List.mem_cons_self) hr) hl
    rw [hwiring.maxBatchSize_eq]
    exact .inl (h.of_ended rfl (.inr (.inl ⟨_, rfl, hraised⟩)) rfl rfl rfl)
  | lookAppend r hp hc hr hl hroom =>
    have hpart := h.ahead (by rw [hp]; rfl)
    rw [BatchRun.ahead, hp] at hpart
    exact .inl (h.of_live (by rw [hp]; rfl) rfl rfl rfl rfl hpart.tail)
  | lookFlush r hp hc hr hl hroom =>
    have hpart := h.ahead (by rw [hp]; rfl)
    rw [BatchRun.ahead, hp] at hpart
    exact .inl (h.of_live (by rw [hp]; rfl) rfl rfl rfl rfl hpart.tail)
  | offerCancelled batch next hp hc =>
    rw [h.not_cancelled] at hc
    cases hc
  | offerClosed batch next hp hc hrecv =>
    have hfailed := h.consumersFailed hwiring (by rw [hp]; rfl) hrecv
    exact .inl (h.of_ended rfl (.inr (.inr ⟨rfl, hfailed⟩)) rfl rfl rfl)
  | offerRecord batch r hp hc hrecv hslot =>
    have hpart := h.ahead (by rw [hp]; rfl)
    rw [BatchRun.ahead, hp] at hpart
    exact .inl (h.of_live (by rw [hp]; rfl) rfl rfl rfl rfl hpart)
  | offerLast batch hp hc hrecv hslot => exact .inl (h.of_ended rfl (.inl rfl) rfl rfl rfl)
  | claim i hi hc hfree =>
    exact .inl (h.of_consumer hi (by simp) (.inl rfl) rfl rfl rfl rfl rfl)
  | leaveCancelled i hi hc =>
    rw [h.not_cancelled] at hc
    cases hc
  | leaveDrained i hi hc hw hs =>
    have hdead := hwiring.isSending_eq.symm.trans hs
    exact .inl (h.of_consumer hi (by simp) (.inr (.inl ⟨rfl, hdead⟩)) rfl rfl rfl rfl rfl)
  | take i batch waiting hi hc hw =>
    exact .inl (h.of_consumer hi (by simp) (.inl rfl) rfl rfl rfl rfl rfl)
  | detach i conclusion hi =>
    have hc' : Accounted limits input actions s (.ended conclusion) := by
      rcases h.consumers _ (List.mem_of_getElem? hi) with hw | hdone | hfailed
      · cases hw
      · exact .inr (.inl (by cases conclusion <;> exact hdone))
      · exact .inr (.inr (by cases conclusion <;> exact hfailed))
    exact .inl (h.of_consumer hi (by simp) hc' (producer_detach ..) (input_detach ..)
      (error_detach ..) (isCancelled_detach ..) (consumers_detach ..))
  | deliver i batch number handling hi hr =>
    have hcancelling : handling.isCancelling = false := Bool.eq_false_iff.2 hquiet
    refine .inl (h.of_consumer hi (by simp) (.inl rfl) rfl rfl rfl ?_ rfl)
    exact (congrArg (s.queue.isCancelled || ·) hcancelling).trans (Bool.or_false _)
  | fail i batch number handling error hi hr =>
    have hcancelling : handling.isCancelling = false := Bool.eq_false_iff.2 hquiet
    refine .inl (h.of_consumer hi (by simp) (.inr (.inr ⟨_, rfl, .delivery hmem hr⟩)) rfl rfl rfl ?_ rfl)
    exact (congrArg (s.queue.isCancelled || ·) hcancelling).trans (Bool.or_false _)
  | joinProducer conclusion hp hq =>
    have hdead : s.producer.isLive = false := by rw [hp]; rfl
    exact .inl {
      error_eq := h.error_eq
      not_cancelled := h.not_cancelled
      ahead := by simp [Producer.isLive]
      producer := by simp
      consumers := fun c hc => (h.consumers c hc).imp_right (.imp_left fun hdone => ⟨hdone.1, rfl⟩) }
  | joinFailedProducer error hp he =>
    refine .inr ⟨error, rfl, (h.raised_or_closed hp).imp_right ?_⟩
    rintro ⟨rfl, hfailed⟩
    exact ⟨rfl, rfl, hp, hfailed⟩
  | joinConsumer i conclusion hi hq =>
    -- a failure that has been joined is in `error`
    have hne : ∀ error, conclusion ≠ .failed error := fun error hf => by
      have hsome := hq error hf
      rw [h.error_eq] at hsome
      cases hsome
    have hc' : Accounted limits input actions s .joined := by
      rcases h.consumers _ (List.mem_of_getElem? hi) with hw | ⟨-, hdead⟩ | ⟨error, hf, -⟩
      · cases hw
      · exact .inr (.inl ⟨rfl, hdead⟩)
      · cases conclusion with
        | failed error => exact absurd rfl (hne error)
        | done | aborted => cases hf
    refine .inl (h.of_consumer hi (fun error hf => ?_) hc' rfl rfl rfl rfl rfl)
    exact hne error (Consumer.ended.inj hf)
  | joinFailedConsumer i error hi he =>
    refine .inr ⟨error, rfl, .inl ?_⟩
    rcases h.consumers _ (List.mem_of_getElem? hi) with hw | ⟨hdone, -⟩ | ⟨other, hf, hraised⟩
    · cases hw
    · cases hdone
    · cases hf
      exact hraised
  | abortProducer he | abortOffer batch next he | abortConsumer i he | abortHandling i batch number he =>
    rw [h.error_eq] at he
    cases he
  | cancel => exact absurd trivial hquiet

end Blameless

end BatchRun
end ObjectRelay

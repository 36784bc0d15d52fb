import ObjectRelay.Proofs.Run.Ledger
import Mathlib.Data.List.TakeWhile
/-!
# Runs in which nothing has failed

As long as nobody has failed, more is known of a run than its `Ledger`: a consumer that has stopped
working has found the queue drained, the producer has ended only with everything handed over, and
what has reached the handler is what it has taken and what consumers have in hand (`Tidy`).  A
failure is never forgotten: from then on the run is `Doomed`, and ends with an error.  Every step of a
tidy run leaves it tidy or dooms it, and dooms it only for a reason (`Tidy.step`).
-/
namespace ObjectRelay

/-- Whether a run over what an object decodes to can deliver all that it keeps. -/
def BatchLimits.CanDeliver (limits : BatchLimits) (d : Decoded) : Prop :=
  d.error = none ∧ ∀ bytes ∈ limits.keepable d.records, bytes.length + 1 ≤ limits.maxBatchSize

theorem BatchLimits.CanDeliver.kept_eq {limits : BatchLimits} {d : Decoded} (h : limits.CanDeliver d) :
    limits.kept d.records = limits.keepable d.records :=
  List.takeWhile_eq_self_iff.2 fun bytes hb => decide_eq_true (h.2 bytes hb)

section CanDeliver

variable {limits : BatchLimits} {r : Record} {records : List Record} {error : Option DecodeError}

theorem canDeliver_nil (limits : BatchLimits) : limits.CanDeliver ⟨[], none⟩ :=
  ⟨rfl, fun _ h => nomatch h⟩

theorem canDeliver_cons_of_lt (h : limits.maxRecordSize < (Utf8.encode r.text).length) :
    limits.CanDeliver ⟨r :: records, error⟩ ↔ limits.CanDeliver ⟨records, error⟩ := by
  rw [BatchLimits.CanDeliver, BatchLimits.CanDeliver, BatchLimits.keepable_cons_of_lt h]

theorem canDeliver_cons_of_le (h : (Utf8.encode r.text).length ≤ limits.maxRecordSize) :
    limits.CanDeliver ⟨r :: records, error⟩ ↔
      (Utf8.encode r.text).length + 1 ≤ limits.maxBatchSize ∧ limits.CanDeliver ⟨records, error⟩ := by
  rw [BatchLimits.CanDeliver, BatchLimits.CanDeliver, BatchLimits.keepable_cons_of_le h, List.forall_mem_cons]
  exact and_left_comm

end CanDeliver

namespace Consumer

/-- Whether the consumer works: it still takes batches out and hands them on. -/
def isWorking : Consumer → Bool
  | idle | receiving | handling .. => true
  | _ => false

/-- Whether the consumer has stopped because there were no more batches. -/
def isDone : Consumer → Bool
  | leaving .done | ended .done | joined => true
  | _ => false

/-- Whether the consumer has failed and not been joined. -/
def hasFailed : Consumer → Bool
  | leaving (.failed _) | ended (.failed _) => true
  | _ => false

/-- The batch that the consumer hands on. -/
def inHand? : Consumer → Option (List UInt8)
  | handling batch _ => some batch.bytes
  | _ => none

end Consumer

/-- Whether the producer has failed and not been joined. -/
def Producer.hasFailed : Producer → Bool
  | ended (.failed _) => true
  | _ => false

namespace BatchRun

variable {limits : BatchLimits} {input : Decoded} {s s' : BatchRun} {a : Action}

/-! ## Failures are not forgotten -/

/-- Whether somebody has failed. -/
def Doomed (s : BatchRun) : Prop :=
  s.error.isSome = true ∨ s.producer.hasFailed = true ∨ s.consumers.any Consumer.hasFailed = true

theorem Step.isSome_error (hstep : Step s a s') (h : s.error.isSome = true) : s'.error.isSome = true := by
  cases hstep with
  | joinFailedProducer | joinFailedConsumer => rfl
  | detach | abortConsumer | abortHandling => exact (error_detach ..).symm ▸ h
  | _ => exact h

theorem exists_of_hasFailed {p : Producer} (h : p.hasFailed = true) : ∃ error, p = .ended (.failed error) := by
  unfold Producer.hasFailed at h
  split at h
  · exact ⟨_, rfl⟩
  · cases h

theorem Step.hasFailed_producer (hstep : Step s a s') (h : s.producer.hasFailed = true) :
    s'.error.isSome = true ∨ s'.producer.hasFailed = true := by
  obtain ⟨error, herror⟩ := exists_of_hasFailed h
  cases hstep with
  | joinFailedProducer | joinFailedConsumer => exact .inl rfl
  | joinProducer conclusion hp hq => exact .inl (hq error (by simpa [hp] using herror))
  | claim | leaveCancelled | leaveDrained | take | deliver | fail | joinConsumer | cancel => exact .inr h
  | detach | abortConsumer | abortHandling => exact .inr ((producer_detach ..).symm ▸ h)
  | _ => simp_all -- the producer's own steps, which it has before it ends

theorem Step.hasFailed_consumers (hstep : Step s a s') (h : s.consumers.any Consumer.hasFailed = true) :
    s'.error.isSome = true ∨ s'.consumers.any Consumer.hasFailed = true := by
  cases hstep with
  | joinFailedProducer | joinFailedConsumer => exact .inl rfl
  | claim i hi | leaveDrained i hi | take i batch waiting hi | deliver i batch number handling hi
  | fail i batch number handling error hi => exact .inr (any_set_of_imp hi (fun hc => nomatch hc) h)
  | leaveCancelled i hi =>
    rcases hi with hi | hi <;> exact .inr (any_set_of_imp hi (fun hc => nomatch hc) h)
  | detach i conclusion hi =>
    refine .inr (consumers_detach .. ▸ any_set_of_imp hi (fun hc => ?_) h)
    cases conclusion <;> exact hc
  | joinConsumer i conclusion hi hq =>
    cases conclusion with
    | failed error => exact .inl (hq error rfl)
    | done | aborted => exact .inr (any_set_of_imp hi (fun hc => nomatch hc) h)
  | abortConsumer i he | abortHandling i batch number he => exact .inl ((error_detach ..).symm ▸ he)
  | _ => exact .inr h

/-- **A doomed run stays doomed.** -/
theorem Doomed.step (h : Doomed s) (hstep : Step s a s') : Doomed s' := by
  rcases h with h | h | h
  · exact .inl (hstep.isSome_error h)
  · exact (hstep.hasFailed_producer h).imp_right .inl
  · exact (hstep.hasFailed_consumers h).imp_right .inr

/-! ## Nothing has failed -/

/-- What the producer has not looked at yet. -/
def ahead (s : BatchRun) : Decoded :=
  match s.producer with
  | .looking (.ok r) => ⟨r :: s.input.records, s.input.error⟩
  | .looking (.error error) => ⟨[], some error⟩
  | .offering _ none => ⟨[], none⟩
  | _ => s.input

/-- The batches that consumers have in hand. -/
def inHand (s : BatchRun) : List (List UInt8) := s.consumers.filterMap Consumer.inHand?

/-- Whether nothing more can reach a consumer. -/
def IsDrained (s : BatchRun) : Prop := s.producer.isLive = false ∧ s.queue.waiting = []

/-- **A run in which nothing has failed.** -/
structure Tidy (limits : BatchLimits) (input : Decoded) (s : BatchRun) : Prop where
  error_eq : s.error = none
  eq_done : ∀ conclusion, s.producer = .ended conclusion → conclusion = .done
  consumers : ∀ c ∈ s.consumers, c.isWorking = true ∨ c.isDone = true ∧ s.IsDrained
  isReceiving : s.producer.isLive = true → s.queue.isReceiving = true
  canDeliver_iff : s.producer.isLive = true → (limits.CanDeliver s.ahead ↔ limits.CanDeliver input)
  complete : s.producer.isLive = false → s.sent = limits.batches input.records ∧ limits.CanDeliver input
  books : s.handed.Perm (s.delivered ++ s.inHand)

theorem tidy_start (limits : BatchLimits) (pool : BufferPool) (input : Decoded) :
    Tidy limits input (start limits pool input) where
  error_eq := rfl
  eq_done _ h := nomatch h
  consumers c hc := by
    rw [List.eq_of_mem_replicate hc]
    exact .inl rfl
  isReceiving _ := rfl
  canDeliver_iff _ := Iff.rfl
  complete h := nomatch h
  books := by simp [start, inHand, Consumer.inHand?]

/-- What can doom a tidy run. -/
def IsCause (limits : BatchLimits) (s : BatchRun) (a : Action) : Prop :=
  s.queue.isCancelled = true ∨ s.producer.isLive = true ∧ ¬limits.CanDeliver s.ahead ∨
    ∃ i handling error, a = .finishBatch i handling ∧ handling.result = .error error

namespace Tidy

/-- The producer ends with a failure. -/
theorem doomed_endProducer (s : BatchRun) (error : BatchError) : Doomed (s.endProducer (.failed error)) :=
  .inr (.inl rfl)

/-- A consumer leaves with a failure. -/
theorem doomed_setConsumer {i : Nat} {c c' : Consumer} (hi : s.consumers[i]? = some c)
    (hc : c'.hasFailed = true) : Doomed (s.setConsumer i c') := by
  obtain ⟨hlt, -⟩ := List.getElem?_eq_some_iff.1 hi
  exact .inr (.inr (List.any_eq_true.2 ⟨c', List.mem_set hlt c', hc⟩))

/-- As long as the producer lives, nobody has left. -/
theorem isWorking (h : Tidy limits input s) (hlive : s.producer.isLive = true) :
    ∀ c ∈ s.consumers, c.isWorking = true := by
  intro c hc
  rcases h.consumers c hc with hw | ⟨-, hdrained, -⟩
  · exact hw
  · rw [hlive] at hdrained
    cases hdrained

/-- The producer goes on. -/
theorem of_live (h : Tidy limits input s) (hlive : s.producer.isLive = true) (hlive' : s'.producer.isLive = true)
    (herror : s'.error = s.error) (hconsumers : s'.consumers = s.consumers)
    (hrecv : s'.queue.isReceiving = s.queue.isReceiving) (hhanded : s'.handed = s.handed)
    (hdelivered : s'.delivered = s.delivered)
    (hahead : limits.CanDeliver s'.ahead ↔ limits.CanDeliver s.ahead) : Tidy limits input s' where
  error_eq := herror.trans h.error_eq
  eq_done conclusion hp := by rw [hp] at hlive'; cases hlive'
  consumers c hc := .inl (h.isWorking hlive c (hconsumers ▸ hc))
  isReceiving _ := hrecv.trans (h.isReceiving hlive)
  canDeliver_iff _ := hahead.trans (h.canDeliver_iff hlive)
  complete hdead := by rw [hlive'] at hdead; cases hdead
  books := by
    rw [hhanded, hdelivered, inHand, hconsumers]
    exact h.books

/-- The producer ends, with everything handed over. -/
theorem of_done (h : Tidy limits input s) (hlive : s.producer.isLive = true)
    (hproducer : s'.producer = .ended .done) (herror : s'.error = s.error) (hconsumers : s'.consumers = s.consumers)
    (hhanded : s'.handed = s.handed) (hdelivered : s'.delivered = s.delivered)
    (hsent : s'.sent = limits.batches input.records) (hahead : limits.CanDeliver s.ahead) :
    Tidy limits input s' where
  error_eq := herror.trans h.error_eq
  eq_done conclusion hp := by
    rw [hproducer] at hp
    exact (Producer.ended.inj hp).symm
  consumers c hc := .inl (h.isWorking hlive c (hconsumers ▸ hc))
  isReceiving hl := by rw [hproducer] at hl; cases hl
  canDeliver_iff hl := by rw [hproducer] at hl; cases hl
  complete _ := ⟨hsent, (h.canDeliver_iff hlive).1 hahead⟩
  books := by
    rw [hhanded, hdelivered, inHand, hconsumers]
    exact h.books

/-- A consumer goes on. -/
theorem of_consumer (h : Tidy limits input s) {i : Nat} {c' : Consumer}
    (hconsumers : s'.consumers = s.consumers.set i c')
    (hc' : c'.isWorking = true ∨ c'.isDone = true ∧ s.IsDrained) (hproducer : s'.producer = s.producer)
    (hinput : s'.input = s.input) (herror : s'.error = s.error)
    (hrecv : s'.queue.isReceiving = s.queue.isReceiving ∨ s.producer.isLive = false)
    (hwaiting : s.queue.waiting = [] → s'.queue.waiting = []) (hsent : s'.sent = s.sent)
    (hbooks : s'.handed.Perm (s'.delivered ++ s'.inHand)) : Tidy limits input s' where
  error_eq := herror.trans h.error_eq
  eq_done conclusion hp := h.eq_done conclusion (hproducer ▸ hp)
  consumers c hc := by
    have hdrained : s.IsDrained → s'.IsDrained := fun hd => ⟨hproducer ▸ hd.1, hwaiting hd.2⟩
    rw [hconsumers] at hc
    rcases List.mem_or_eq_of_mem_set hc with hc | rfl
    · exact (h.consumers c hc).imp_right (And.imp_right hdrained)
    · exact hc'.imp_right (And.imp_right hdrained)
  isReceiving hl := by
    rw [hproducer] at hl
    rcases hrecv with hrecv | hdead
    · exact hrecv.trans (h.isReceiving hl)
    · rw [hl] at hdead
      cases hdead
  canDeliver_iff hl := by
    rw [ahead, hproducer, hinput]
    exact h.canDeliver_iff (hproducer ▸ hl)
  complete hdead := by
    rw [hsent]
    exact h.complete (hproducer ▸ hdead)
  books := hbooks

/-- A consumer that has stopped working has found the queue drained. -/
theorem isDrained_of_getElem? (h : Tidy limits input s) {i : Nat} {c : Consumer} (hi : s.consumers[i]? = some c)
    (hc : c.isWorking = false) : c.isDone = true ∧ s.IsDrained := by
  rcases h.consumers c (List.mem_of_getElem? hi) with hw | hd
  · rw [hc] at hw
    cases hw
  · exact hd

/-- The books stay right while consumers have the same batches in hand. -/
theorem books_set (h : Tidy limits input s) {i : Nat} {c c' : Consumer} (hi : s.consumers[i]? = some c)
    (hc : c.inHand? = none) (hc' : c'.inHand? = none) :
    s.handed.Perm (s.delivered ++ (s.consumers.set i c').filterMap Consumer.inHand?) := by
  have hperm := perm_filterMap_set Consumer.inHand? hi c'
  rw [hc, hc'] at hperm
  exact h.books.trans (hperm.symm.append_left _)

/-- **A step of a tidy run leaves it tidy, or dooms it for a reason.** -/
theorem step (h : Tidy limits input s) (hset : Setup limits s) (hledger : Ledger limits input.records s)
    (hstep : Step s a s') : Tidy limits input s' ∨ Doomed s' ∧ s.IsCause limits a := by
  cases hstep with
  | readRecord r rs e hp hi =>
    refine .inl (h.of_live (by rw [hp]; rfl) rfl rfl rfl rfl rfl rfl ?_)
    rw [ahead, ahead, hp, hi]
  | readError e hp hi =>
    refine .inl (h.of_live (by rw [hp]; rfl) rfl rfl rfl rfl rfl rfl ?_)
    rw [ahead, ahead, hp, hi]
  | readNothing hp hi hn =>
    have hlive : s.producer.isLive = true := by rw [hp]; rfl
    have hall := hledger.sent_append_future hlive (h.isReceiving hlive)
    refine .inl (h.of_done hlive rfl rfl rfl rfl rfl ?_ ?_)
    · have hsent : s.sent = limits.batches input.records := by
        simpa [future, hp, hi, hn, BatchLimits.kept, BatchLimits.keepable, batchesFrom] using hall
      exact hsent
    · rw [ahead, hp, hi]
      exact canDeliver_nil limits
  | readLast hp hi hn =>
    refine .inl (h.of_live (by rw [hp]; rfl) rfl rfl rfl rfl rfl rfl ?_)
    rw [ahead, ahead, hp, hi]
    rfl
  | lookCancelled item hp hc => exact .inr ⟨doomed_endProducer .., .inl hc⟩
  | lookError e hp hc =>
    refine .inr ⟨doomed_endProducer .., .inr (.inl ⟨by rw [hp]; rfl, ?_⟩)⟩
    rw [ahead, hp]
    exact fun hcan => by cases hcan.1
  | lookLarge r hp hc hr =>
    rw [hset.limits_eq] at hr
    refine .inl (h.of_live (by rw [hp]; rfl) rfl rfl rfl rfl rfl rfl ?_)
    rw [ahead, ahead, hp]
    exact (canDeliver_cons_of_lt hr).symm
  | lookTooLong r hp hc hr hl =>
    rw [hset.limits_eq] at hr
    rw [hset.maxBatchSize_eq] at hl
    refine .inr ⟨doomed_endProducer .., .inr (.inl ⟨by rw [hp]; rfl, ?_⟩)⟩
    rw [ahead, hp]
    exact fun hcan => Nat.not_le_of_lt hl ((canDeliver_cons_of_le hr).1 hcan).1
  | lookAppend r hp hc hr hl hroom =>
    rw [hset.limits_eq] at hr
    rw [hset.maxBatchSize_eq] at hl
    refine .inl (h.of_live (by rw [hp]; rfl) rfl rfl rfl rfl rfl rfl ?_)
    rw [ahead, ahead, hp]
    exact ((canDeliver_cons_of_le hr).trans (and_iff_right hl)).symm
  | lookFlush r hp hc hr hl hroom =>
    rw [hset.limits_eq] at hr
    rw [hset.maxBatchSize_eq] at hl
    refine .inl (h.of_live (by rw [hp]; rfl) rfl rfl rfl rfl rfl rfl ?_)
    rw [ahead, ahead, hp]
    exact ((canDeliver_cons_of_le hr).trans (and_iff_right hl)).symm
  | offerCancelled batch next hp hc => exact .inr ⟨doomed_endProducer .., .inl hc⟩
  | offerClosed batch next hp hc hrecv =>
    have hopen := h.isReceiving (by rw [hp]; rfl)
    rw [hrecv] at hopen
    cases hopen
  | offerRecord batch r hp hc hrecv hslot =>
    refine .inl (h.of_live (by rw [hp]; rfl) rfl rfl rfl rfl rfl rfl ?_)
    rw [ahead, ahead, hp]
  | offerLast batch hp hc hrecv hslot =>
    have hlive : s.producer.isLive = true := by rw [hp]; rfl
    have hall := hledger.sent_append_future hlive hrecv
    refine .inl (h.of_done hlive rfl rfl rfl rfl rfl ?_ ?_)
    · rw [← hall, future, hp]
      simp [sent, endProducer, BatchQueue.dropSender]
    · rw [ahead, hp]
      exact canDeliver_nil limits
  | claim i hi hc hfree =>
    exact .inl (h.of_consumer rfl (.inl rfl) rfl rfl rfl (.inl rfl) id rfl (h.books_set hi rfl rfl))
  | leaveCancelled i hi hc =>
    rcases hi with hi | hi <;> exact .inr ⟨doomed_setConsumer hi rfl, .inl hc⟩
  | leaveDrained i hi hc hw hs =>
    have hdrained : s.IsDrained := ⟨hset.isSending_eq.symm.trans hs, hw⟩
    exact .inl (h.of_consumer rfl (.inr ⟨rfl, hdrained⟩) rfl rfl rfl (.inl rfl) id rfl
      (h.books_set hi rfl rfl))
  | take i batch waiting hi hc hw =>
    have hperm := perm_filterMap_set Consumer.inHand? hi (.handling batch s.handed.length)
    refine .inl (h.of_consumer rfl (.inl rfl) rfl rfl rfl (.inl rfl) (fun he => ?_) ?_ ?_)
    · rw [hw] at he
      cases he
    · simp [sent, setConsumer, hw]
    · refine (h.books.append_right [batch.bytes]).trans ?_
      rw [List.append_assoc]
      exact (List.perm_append_comm.trans hperm.symm).append_left _
  | detach i conclusion hi =>
    obtain ⟨hdone, hdrained⟩ := h.isDrained_of_getElem? hi rfl
    obtain rfl : conclusion = .done := by cases conclusion <;> first | rfl | cases hdone
    have hwaiting : s.queue.waiting = [] → (s.detach i .done).queue.waiting = [] := fun hw => by
      unfold BatchRun.detach
      dsimp only
      split
      · exact hw
      · rfl
    refine .inl (h.of_consumer (consumers_detach ..) (.inr ⟨rfl, hdrained⟩) (producer_detach ..)
      (input_detach ..) (error_detach ..) (.inr hdrained.1) hwaiting ?_ ?_)
    · rw [sent, sent, hwaiting hdrained.2, hdrained.2, handed_detach]
    · rw [handed_detach, delivered_detach, inHand, consumers_detach]
      exact h.books_set hi rfl rfl
  | deliver i batch number handling hi hr =>
    have hperm := perm_filterMap_set Consumer.inHand? hi .idle
    refine .inl (h.of_consumer rfl (.inl rfl) rfl rfl rfl (.inl rfl) id rfl ?_)
    refine (h.books.trans (hperm.symm.append_left _)).trans ?_
    rw [← List.append_assoc]
    rfl
  | fail i batch number handling error hi hr =>
    refine .inr ⟨?_, .inr (.inr ⟨i, handling, error, rfl, hr⟩)⟩
    refine doomed_setConsumer (c := .handling batch number) ?_ rfl
    exact hi
  | joinProducer conclusion hp hq =>
    have hdead : s.producer.isLive = false := by rw [hp]; rfl
    exact .inl {
      error_eq := h.error_eq
      eq_done := fun _ hp' => by cases hp'
      consumers := fun c hc => (h.consumers c hc).imp_right (And.imp_right fun hd => ⟨rfl, hd.2⟩)
      isReceiving := fun hl => by cases hl
      canDeliver_iff := fun hl => by cases hl
      complete := fun _ => h.complete hdead
      books := h.books }
  | joinFailedProducer error hp he => cases h.eq_done _ hp
  | joinConsumer i conclusion hi hq =>
    obtain ⟨-, hdrained⟩ := h.isDrained_of_getElem? hi rfl
    exact .inl (h.of_consumer rfl (.inr ⟨rfl, hdrained⟩) rfl rfl rfl (.inl rfl) id rfl
      (h.books_set hi rfl rfl))
  | joinFailedConsumer i error hi he => cases (h.isDrained_of_getElem? hi rfl).1
  | abortProducer he | abortOffer batch next he | abortConsumer i he | abortHandling i batch number he =>
    rw [h.error_eq] at he
    cases he
  | cancel => exact .inl { h with }

end Tidy

/-! ## Steps that cannot doom a run -/

/-- Whether a step is no cancellation and no failure of a handler. -/
def Action.IsQuiet : Action → Prop
  | .cancel => False
  | .finishBatch _ handling => handling.result = .ok () ∧ handling.isCancelling = false
  | _ => True

/-- A tidy run that nobody has cancelled. -/
structure Calm (limits : BatchLimits) (input : Decoded) (s : BatchRun) : Prop extends Tidy limits input s where
  not_cancelled : s.queue.isCancelled = false

/-- **Quiet steps keep a run calm that can deliver all it keeps.** -/
theorem Calm.step (h : Calm limits input s) (hinput : limits.CanDeliver input) (hset : Setup limits s)
    (hledger : Ledger limits input.records s) (hquiet : a.IsQuiet) (hstep : Step s a s') : Calm limits input s' := by
  have htidy : Tidy limits input s' := by
    rcases h.toTidy.step hset hledger hstep with ht | ⟨-, hc | ⟨hlive, hcan⟩ | ⟨i, handling, error, rfl, hr⟩⟩
    · exact ht
    · rw [h.not_cancelled] at hc
      cases hc
    · exact absurd ((h.canDeliver_iff hlive).2 hinput) hcan
    · rw [hquiet.1] at hr
      cases hr
  refine ⟨htidy, ?_⟩
  have hcancelled := h.not_cancelled
  cases hstep with
  | deliver | fail => exact (Bool.or_eq_false_iff.2 ⟨hcancelled, hquiet.2⟩)
  | joinFailedProducer | joinFailedConsumer => exact nomatch htidy.error_eq
  | abortConsumer i he | abortHandling i batch number he =>
    rw [h.error_eq] at he
    cases he
  | detach =>
    unfold BatchRun.detach
    dsimp only
    split <;> exact hcancelled
  | cancel => exact hquiet.elim
  | _ => exact hcancelled

end BatchRun
end ObjectRelay

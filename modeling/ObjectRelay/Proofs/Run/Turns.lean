import ObjectRelay.Batch.Turns
import ObjectRelay.Proofs.Run.Roundtrip
/-!
# Runs and their handlers

A handler answers a batch by its number and its bytes.  `Heeded` are the states that a run can reach, in any order of
its steps, if nobody cancels it and every consumer hears from the handler; participants that take turns reach one of
them, and it is the end (`heeded_finish`).  Batches have the same numbers in every order, so it is decided by the
handler, and not by the order, whether a run ends well (`Heeded.result_ok_iff`).
-/
namespace ObjectRelay
namespace BatchRun

/-- Whether nobody cancels, and a consumer that is done with a batch has heard from the handler. -/
def Action.Heeds (handler : BatchHandler) (s : BatchRun) : Action → Prop
  | .finishBatch i handling => ∃ batch number, s.consumers[i]? = some (.handling batch number) ∧
      handling = handler.handle number batch.bytes
  | .cancel => False
  | _ => True

/-- **The states that a run can reach with a handler**, from `s` on. -/
inductive Heeded (handler : BatchHandler) (s : BatchRun) : BatchRun → Prop
  | refl : Heeded handler s s
  | step {t u : BatchRun} {a : Action} (h : Heeded handler s t) (ha : a.Heeds handler t) (hstep : t.step? a = some u) :
      Heeded handler s u

variable {handler : BatchHandler} {limits : BatchLimits} {pool : BufferPool} {input : Decoded} {s s' t : BatchRun}
  {turn turn' : Turn} {a : Action}

/-! ## Taking turns -/

theorem orElse_eq_some {α : Type} {a b : Option α} {x : α} (h : (a <|> b) = some x) : a = some x ∨ b = some x := by
  cases a with
  | none => exact .inr h
  | some a => exact .inl h

theorem orElse_eq_none {α : Type} {a b : Option α} (h : (a <|> b) = none) : a = none ∧ b = none := by
  cases a with
  | none => exact ⟨rfl, h⟩
  | some a => cases h

theorem exists_of_firstConsumer? {first : Nat} {step? : Nat → Option BatchRun}
    (h : s.firstConsumer? first step? = some (turn, t)) : ∃ i, step? i = some t := by
  obtain ⟨k, -, hk⟩ := List.exists_of_findSome?_eq_some h
  obtain ⟨next, hnext, heq⟩ := Option.map_eq_some_iff.1 hk
  obtain ⟨-, rfl⟩ := Prod.mk.inj heq
  exact ⟨_, hnext⟩

/-- The circle of consumers passes every one of them. -/
theorem eq_none_of_firstConsumer? {first : Nat} {step? : Nat → Option BatchRun}
    (h : s.firstConsumer? first step? = none) {i : Nat} (hi : i < s.consumers.length) : step? i = none := by
  obtain ⟨k, hk, hturn⟩ : ∃ k < s.consumers.length, (first + k) % s.consumers.length = i := by
    have hpos : 0 < s.consumers.length := Nat.lt_of_le_of_lt (Nat.zero_le i) hi
    have hlt := Nat.mod_lt first hpos
    have hsplit := Nat.div_add_mod first s.consumers.length
    have hround : first + (i + (s.consumers.length - first % s.consumers.length)) =
        s.consumers.length * (first / s.consumers.length + 1) + i := by
      rw [Nat.mul_succ]
      omega
    refine ⟨(i + (s.consumers.length - first % s.consumers.length)) % s.consumers.length, Nat.mod_lt _ hpos, ?_⟩
    rw [Nat.add_mod_mod, hround, Nat.mul_add_mod, Nat.mod_eq_of_lt hi]
  have hnone := List.findSome?_eq_none_iff.1 h k (List.mem_range.2 hk)
  simp only [hturn] at hnone
  exact Option.map_eq_none_iff.1 hnone

theorem exists_of_settle? (h : s.settle? = some t) : ∃ a, a.Heeds handler s ∧ s.step? a = some t := by
  have hfirst : ∀ {step? : Nat → Option BatchRun}, (s.firstConsumer? 0 step?).map (·.2) = some t →
      ∃ i, step? i = some t := fun hmap => by
    obtain ⟨⟨turn, u⟩, hu, rfl⟩ := Option.map_eq_some_iff.1 hmap
    exact exists_of_firstConsumer? hu
  rcases orElse_eq_some h with h | h
  · exact ⟨.joinProducer, trivial, h⟩
  rcases orElse_eq_some h with h | h
  · obtain ⟨i, hi⟩ := hfirst h
    exact ⟨.joinConsumer i, trivial, hi⟩
  rcases orElse_eq_some h with h | h
  · exact ⟨.abortProducer, trivial, h⟩
  · obtain ⟨i, hi⟩ := hfirst h
    exact ⟨.abortConsumer i, trivial, hi⟩

theorem handle?_eq {i number : Nat} {batch : Batch} (hi : s.consumers[i]? = some (.handling batch number)) :
    s.handle? handler i = s.finishBatch? i (handler.handle number batch.bytes) := by
  rw [handle?, hi]

theorem exists_of_handle? {i : Nat} (h : s.handle? handler i = some t) :
    ∃ a, a.Heeds handler s ∧ s.step? a = some t := by
  unfold handle? at h
  split at h
  · rename_i batch number hi
    exact ⟨.finishBatch i (handler.handle number batch.bytes), ⟨batch, number, hi, rfl⟩, h⟩
  · cases h

theorem exists_of_goOn? (h : s.goOn? handler turn = some t) : ∃ a, a.Heeds handler s ∧ s.step? a = some t := by
  cases turn with
  | producer => exact ⟨.produce, trivial, h⟩
  | consumer i =>
    rcases orElse_eq_some h with h | h
    · split at h
      · exact exists_of_handle? h
      · cases h
    · split at h
      · cases h
      · exact ⟨.consume i, trivial, h⟩

/-- **Whoever has the turn makes a step.** -/
theorem exists_of_advance? (h : s.advance? handler turn = some (turn', t)) :
    ∃ a, a.Heeds handler s ∧ s.step? a = some t := by
  have hmap : ∀ {turn : Turn} {u? : Option BatchRun}, u?.map (fun s => (turn, s)) = some (turn', t) → u? = some t :=
    fun hu => by
      obtain ⟨u, hu, heq⟩ := Option.map_eq_some_iff.1 hu
      rw [hu, (Prod.mk.inj heq).2]
  rcases orElse_eq_some h with h | h
  · exact exists_of_settle? (hmap h)
  rcases orElse_eq_some h with h | h
  · exact exists_of_goOn? (hmap h)
  rcases orElse_eq_some h with h | h
  · exact ⟨.produce, trivial, hmap h⟩
  rcases orElse_eq_some h with h | h
  · obtain ⟨i, hi⟩ := exists_of_firstConsumer? h
    exact ⟨.consume i, trivial, hi⟩
  · obtain ⟨i, hi⟩ := exists_of_firstConsumer? h
    exact exists_of_handle? hi

/-- The handler has an answer to every consumer's batch. -/
theorem exists_answers (s : BatchRun) (handler : BatchHandler) : ∃ answer : Nat → BatchQueue.Handling,
    ∀ (i : Nat) (batch : Batch) (number : Nat), s.consumers[i]? = some (.handling batch number) →
      answer i = handler.handle number batch.bytes := by
  have hone : ∀ i : Nat, ∃ handling, ∀ (batch : Batch) (number : Nat),
      s.consumers[i]? = some (.handling batch number) → handling = handler.handle number batch.bytes := fun i => by
    by_cases hi : ∃ batch number, s.consumers[i]? = some (Consumer.handling batch number)
    · obtain ⟨batch, number, hi⟩ := hi
      refine ⟨handler.handle number batch.bytes, fun _ _ hi' => ?_⟩
      cases hi.symm.trans hi'
      rfl
    · exact ⟨{}, fun batch number hi' => absurd ⟨batch, number, hi'⟩ hi⟩
  choose answer hanswer using hone
  exact ⟨answer, hanswer⟩

/-- **Nobody has a turn only when the run is over.** -/
theorem isOver_of_advance? (hset : Setup limits s) (h : s.advance? handler turn = none) : s.isOver = true := by
  obtain ⟨hsettle, h⟩ := orElse_eq_none h
  obtain ⟨-, h⟩ := orElse_eq_none h
  obtain ⟨hproduce, h⟩ := orElse_eq_none h
  obtain ⟨hconsume, hhandle⟩ := orElse_eq_none h
  obtain ⟨hjoin, hsettle⟩ := orElse_eq_none (Option.map_eq_none_iff.1 hsettle)
  obtain ⟨hjoins, hsettle⟩ := orElse_eq_none hsettle
  obtain ⟨habort, haborts⟩ := orElse_eq_none hsettle
  by_contra hover
  obtain ⟨answer, hanswer⟩ := s.exists_answers handler
  -- whoever could make a step has been asked for it
  obtain ⟨a, hsome, hfollows⟩ := exists_step hset (Bool.eq_false_iff.2 hover) answer
  have hlt : ∀ {i : Nat} {c : Consumer}, s.consumers[i]? = some c → i < s.consumers.length := fun hi =>
    (List.getElem?_eq_some_iff.1 hi).1
  have hnone : s.step? a = none := by
    cases a with
    | produce => exact Option.map_eq_none_iff.1 hproduce
    | joinProducer => exact hjoin
    | abortProducer => exact habort
    | consume i =>
      by_cases hi : i < s.consumers.length
      · exact eq_none_of_firstConsumer? hconsume hi
      · simp [step?, consume?, List.getElem?_eq_none (Nat.le_of_not_lt hi)]
    | joinConsumer i =>
      by_cases hi : i < s.consumers.length
      · exact eq_none_of_firstConsumer? (Option.map_eq_none_iff.1 hjoins) hi
      · simp [step?, joinConsumer?, List.getElem?_eq_none (Nat.le_of_not_lt hi)]
    | abortConsumer i =>
      by_cases hi : i < s.consumers.length
      · exact eq_none_of_firstConsumer? (Option.map_eq_none_iff.1 haborts) hi
      · simp [step?, abortConsumer?, List.getElem?_eq_none (Nat.le_of_not_lt hi)]
    | finishBatch i handling =>
      obtain ⟨t, ht⟩ := Option.isSome_iff_exists.1 hsome
      have hstep := step?_sound ht
      obtain ⟨batch, number, hi⟩ : ∃ batch number, s.consumers[i]? = some (.handling batch number) := by
        cases hstep with
        | deliver i batch number handling hi | fail i batch number handling error hi => exact ⟨batch, number, hi⟩
      have hgiven : handling = answer i := hfollows
      have hnone := eq_none_of_firstConsumer? hhandle (hlt hi)
      rwa [handle?_eq hi, ← hanswer i batch number hi, ← hgiven] at hnone
    | cancel => exact hfollows.elim
  rw [hnone] at hsome
  cases hsome

theorem Action.Heeds.ne_cancel (h : a.Heeds handler s) : a ≠ .cancel := fun heq => by
  rw [heq] at h
  exact h

theorem Heeded.reached (hpool : pool.IsClean) (h : Heeded handler (start limits pool input) s) :
    Reached limits input s := by
  induction h with
  | refl => exact reached_start limits hpool input
  | step _ _ hstep ih => exact ih.step (step?_sound hstep)

/-- Turns are taken to the end, if there are more of them than steps to be made. -/
theorem heeded_play : ∀ {steps : Nat} {s t : BatchRun} {turn : Turn}, Heeded handler s t → Setup limits t →
    t.work < steps → Heeded handler s (t.play handler steps turn) ∧ (t.play handler steps turn).isOver = true
  | 0, _, _, _, _, _, hwork => absurd hwork (Nat.not_lt_zero _)
  | steps + 1, s, t, turn, h, hset, hwork => by
    unfold play
    cases hnext : t.advance? handler turn with
    | none => exact ⟨h, isOver_of_advance? hset hnext⟩
    | some next =>
      obtain ⟨turn', u⟩ := next
      obtain ⟨a, ha, hstep⟩ := exists_of_advance? hnext
      have hsound := step?_sound hstep
      have hlt := hsound.work_lt ha.ne_cancel
      exact heeded_play (h.step ha hstep) (hset.step hsound) (by omega)

/-- **Participants that take turns make one of the runs**, from the beginning to the end. -/
theorem heeded_finish (handler : BatchHandler) (limits : BatchLimits) (hpool : pool.IsClean) (input : Decoded) :
    Heeded handler (start limits pool input) ((start limits pool input).finish handler) ∧
      ((start limits pool input).finish handler).isOver = true := by
  refine heeded_play .refl (setup_start limits hpool input) ?_
  have hwork := work_start limits pool input
  have hbound : (start limits pool input).stepBound = 8 * (input.records.length + limits.consumers) + 16 := by
    rw [stepBound, start, List.length_replicate]
  have hitems : itemsOf input ≤ input.records.length + 1 := by
    unfold itemsOf
    cases input.error <;> simp
  omega

/-! ## What a handler decides -/

/-- **What is known of the batches that have been handed on**: a consumer that has one in hand knows its number, and
the handler has taken the others unless the run is doomed. -/
structure Numbered (handler : BatchHandler) (s : BatchRun) : Prop where
  inHand : ∀ (i : Nat) batch number, s.consumers[i]? = some (.handling batch number) →
    s.handed[number]? = some batch.bytes
  taken : ∀ (number : Nat) bytes, s.handed[number]? = some bytes → (handler.handle number bytes).result = .ok () ∨
    (∃ (i : Nat) (batch : Batch), s.consumers[i]? = some (.handling batch number)) ∨ Doomed s

theorem numbered_start (handler : BatchHandler) (limits : BatchLimits) (pool : BufferPool) (input : Decoded) :
    Numbered handler (start limits pool input) where
  inHand i batch number hi := by
    have hidle := List.eq_of_mem_replicate (List.mem_of_getElem? hi)
    cases hidle
  taken _ _ h := nomatch h

namespace Numbered

theorem of_eq (h : Numbered handler s) (hconsumers : s'.consumers = s.consumers) (hhanded : s'.handed = s.handed)
    (hdoomed : Doomed s → Doomed s') : Numbered handler s' where
  inHand := by
    rw [hconsumers, hhanded]
    exact h.inHand
  taken number bytes hn := by
    rw [hhanded] at hn
    rw [hconsumers]
    exact (h.taken number bytes hn).imp_right (Or.imp_right hdoomed)

/-- A consumer goes on with nothing in hand; what it had in hand has been taken, or the run is doomed. -/
theorem set (h : Numbered handler s) {i : Nat} {c c' : Consumer} (hi : s.consumers[i]? = some c)
    (hc' : c'.inHand? = none) (hconsumers : s'.consumers = s.consumers.set i c')
    (hhanded : s'.handed = s.handed) (hdoomed : Doomed s → Doomed s')
    (hdone : ∀ batch number, c = .handling batch number →
      (handler.handle number batch.bytes).result = .ok () ∨ Doomed s') : Numbered handler s' where
  inHand j batch number hj := by
    rw [hconsumers] at hj
    rw [hhanded]
    by_cases hij : i = j
    · subst hij
      obtain ⟨hlt, -⟩ := List.getElem?_eq_some_iff.1 hi
      rw [List.getElem?_set_self hlt] at hj
      rw [Option.some.inj hj] at hc'
      cases hc'
    · rw [List.getElem?_set_ne hij] at hj
      exact h.inHand j batch number hj
  taken number bytes hn := by
    rw [hhanded] at hn
    rcases h.taken number bytes hn with hok | ⟨j, batch, hj⟩ | hd
    · exact .inl hok
    · by_cases hij : i = j
      · subst hij
        obtain rfl := Option.some.inj (hi.symm.trans hj)
        obtain rfl := Option.some.inj (hn.symm.trans (h.inHand i batch number hj))
        exact (hdone batch number rfl).imp_right .inr
      · refine .inr (.inl ⟨j, batch, ?_⟩)
        rw [hconsumers, List.getElem?_set_ne hij]
        exact hj
    · exact .inr (.inr (hdoomed hd))

/-- A consumer takes a batch, which gets the next number. -/
theorem take (h : Numbered handler s) {i : Nat} {c : Consumer} (hi : s.consumers[i]? = some c) (hc : c.inHand? = none)
    {batch : Batch}
    (hconsumers : s'.consumers = s.consumers.set i (.handling batch s.handed.length))
    (hhanded : s'.handed = s.handed ++ [batch.bytes]) (hdoomed : Doomed s → Doomed s') : Numbered handler s' := by
  obtain ⟨hlt, -⟩ := List.getElem?_eq_some_iff.1 hi
  constructor
  · intro j other number hj
    rw [hconsumers] at hj
    rw [hhanded]
    by_cases hij : i = j
    · subst hij
      rw [List.getElem?_set_self hlt] at hj
      obtain ⟨rfl, rfl⟩ := Consumer.handling.inj (Option.some.inj hj)
      exact List.getElem?_concat_length
    · rw [List.getElem?_set_ne hij] at hj
      have hold := h.inHand j other number hj
      obtain ⟨hn, -⟩ := List.getElem?_eq_some_iff.1 hold
      rw [List.getElem?_append_left hn]
      exact hold
  · intro number bytes hn
    rw [hhanded] at hn
    rw [hconsumers]
    by_cases hlast : number < s.handed.length
    · rw [List.getElem?_append_left hlast] at hn
      rcases h.taken number bytes hn with hok | ⟨j, other, hj⟩ | hd
      · exact .inl hok
      · have hij : i ≠ j := fun hij => by
          rw [Option.some.inj (hi.symm.trans (hij ▸ hj))] at hc
          cases hc
        exact .inr (.inl ⟨j, other, (List.getElem?_set_ne hij).trans hj⟩)
      · exact .inr (.inr (hdoomed hd))
    · have hnumber : number < s.handed.length + 1 := by
        simpa using (List.getElem?_eq_some_iff.1 hn).1
      obtain rfl : number = s.handed.length := by omega
      exact .inr (.inl ⟨i, batch, List.getElem?_set_self hlt⟩)

/-- **Every step keeps the numbers.** -/
theorem step (h : Numbered handler s) (ha : a.Heeds handler s) (hstep : Step s a s') : Numbered handler s' := by
  have hdoomed : Doomed s → Doomed s' := fun hd => hd.step hstep
  have hfree : ∀ {i : Nat} {c c' : Consumer}, s.consumers[i]? = some c → c.inHand? = none → c'.inHand? = none →
      s'.consumers = s.consumers.set i c' → s'.handed = s.handed → Numbered handler s' :=
    fun hi hc hc' hconsumers hhanded => h.set hi hc' hconsumers hhanded hdoomed fun batch number heq => by
      rw [heq] at hc
      cases hc
  cases hstep with
  | claim i hi | leaveDrained i hi => exact hfree hi rfl rfl rfl rfl
  | leaveCancelled i hi => rcases hi with hi | hi <;> exact hfree hi rfl rfl rfl rfl
  | take i batch waiting hi => exact h.take hi rfl rfl rfl hdoomed
  | detach i conclusion hi => exact hfree hi rfl rfl (consumers_detach ..) (handed_detach ..)
  | deliver i batch number handling hi hr =>
    refine h.set hi rfl rfl rfl hdoomed fun other n heq => .inl ?_
    obtain ⟨heard, k, hk, rfl⟩ := ha
    obtain ⟨rfl, rfl⟩ := Consumer.handling.inj ((Option.some.inj (hi.symm.trans hk)).symm.trans heq)
    exact hr
  | fail i batch number handling error hi hr =>
    exact h.set hi rfl rfl rfl hdoomed fun _ _ _ => .inr (Tidy.doomed_setConsumer hi rfl)
  | joinConsumer i conclusion hi | joinFailedConsumer i error hi => exact hfree hi rfl rfl rfl rfl
  | abortConsumer i he hi =>
    rcases hi with hi | hi <;> exact hfree hi rfl rfl (consumers_detach ..) (handed_detach ..)
  | abortHandling i batch number he hi =>
    exact h.set hi rfl (consumers_detach ..) (handed_detach ..) hdoomed fun _ _ _ => .inr (hdoomed (.inl he))
  | _ => exact h.of_eq rfl rfl hdoomed

end Numbered

theorem Heeded.numbered (h : Heeded handler (start limits pool input) s) : Numbered handler s := by
  induction h with
  | refl => exact numbered_start handler limits pool input
  | step _ ha hstep ih => exact ih.step ha (step?_sound hstep)

/-- A run goes on calmly if the handler takes all batches. -/
theorem Heeded.calm (hpool : pool.IsClean) (hcan : limits.CanDeliver input)
    (htaken : ∀ (number : Nat) bytes, (limits.batches input.records)[number]? = some bytes →
      (handler.handle number bytes).result = .ok () ∧ (handler.handle number bytes).isCancelling = false)
    (h : Heeded handler (start limits pool input) s) : Calm limits input s := by
  induction h with
  | refl => exact ⟨tidy_start limits pool input, rfl⟩
  | @step t u a h ha hstep ih =>
    have hreached := Heeded.reached hpool h
    refine ih.step hcan hreached.setup hreached.ledger ?_ (step?_sound hstep)
    cases a with
    | finishBatch i handling =>
      obtain ⟨batch, number, hi, rfl⟩ := ha
      refine htaken number batch.bytes ?_
      obtain ⟨hn, hbytes⟩ := List.getElem?_eq_some_iff.1 (h.numbered.inHand i batch number hi)
      rw [List.prefix_iff_getElem?.1 hreached.handed_prefix number hn, hbytes]
    | cancel => exact ha.elim
    | _ => trivial

/-- **It is the handler that decides whether a run ends well**, and not the order of the steps: the run does exactly if
all that is kept can be delivered and the handler takes every batch.  Then every batch has been handed on, in order. -/
theorem Heeded.result_ok_iff (hpool : pool.IsClean) (h : Heeded handler (start limits pool input) s)
    (hover : s.isOver = true) (hcancel : ∀ number bytes, (handler.handle number bytes).isCancelling = false) :
    (s.result = .ok () ↔ limits.CanDeliver input ∧ ∀ (number : Nat) bytes,
      (limits.batches input.records)[number]? = some bytes → (handler.handle number bytes).result = .ok ()) ∧
    (s.result = .ok () → s.handed = limits.batches input.records) := by
  have hreached := h.reached hpool
  refine ⟨⟨fun hresult => ?_, ?_⟩, fun hresult => (hreached.handed_eq hover hresult).1⟩
  · obtain ⟨hhanded, hcan⟩ := hreached.handed_eq hover hresult
    refine ⟨hcan, fun number bytes hn => ?_⟩
    rcases h.numbered.taken number bytes (hhanded ▸ hn) with hok | ⟨i, batch, hi⟩ | hd
    · exact hok
    · have hjoined := (isOver_iff.1 hover).2 _ (List.mem_of_getElem? hi)
      cases hjoined
    · exact absurd hd (not_doomed hover hresult)
  · rintro ⟨hcan, htaken⟩
    have hcalm := h.calm hpool hcan fun number bytes hn => ⟨htaken number bytes hn, hcancel number bytes⟩
    rw [result, hcalm.error_eq]

end BatchRun
end ObjectRelay

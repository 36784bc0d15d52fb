import ObjectRelay.Proofs.Run.Cause
/-!
# Who is joined first

The participants of a run are tasks of a set.  A task that ends drops what it holds, then completes, and the set
hands back the tasks in the order in which they have completed (`OrderedRun`).  Between the two another task may
make steps: a producer finds the queue closed when the last consumer has dropped the receiving side, and it may
complete before any of the consumers does (`Overtaken`).  Then the run fails with the closed queue, and in no other
way with an error that is nobody's own (`error_isRaised_or_closed`).
-/
namespace ObjectRelay

inductive Participant where
  | producer
  | consumer (i : Nat)
deriving DecidableEq, Repr

def Producer.conclusion? : Producer → Option Conclusion
  | ended conclusion => some conclusion
  | _ => none

def Consumer.conclusion? : Consumer → Option Conclusion
  | ended conclusion => some conclusion
  | _ => none

theorem Producer.conclusion?_of_isLive {p : Producer} (h : p.isLive = true) : p.conclusion? = none := by
  cases p <;> first | rfl | cases h

theorem Producer.conclusion?_eq_some {p : Producer} {conclusion : Conclusion} :
    p.conclusion? = some conclusion ↔ p = .ended conclusion := by
  cases p <;> simp [Producer.conclusion?]

theorem Consumer.conclusion?_eq_some {c : Consumer} {conclusion : Conclusion} :
    c.conclusion? = some conclusion ↔ c = .ended conclusion := by
  cases c <;> simp [Consumer.conclusion?]

namespace BatchRun

/-- How a participant has ended that has not been joined. -/
def conclusion? (s : BatchRun) : Participant → Option Conclusion
  | .producer => s.producer.conclusion?
  | .consumer i => s.consumers[i]?.bind Consumer.conclusion?

/-- Whom a step joins. -/
def Action.joins? : Action → Option Participant
  | .joinProducer => some .producer
  | .joinConsumer i => some (.consumer i)
  | _ => none

end BatchRun

open BatchRun (Action)

/-- A step of a run whose participants are tasks. -/
inductive TaskStep where
  | act (a : Action)
  /-- A participant that has ended completes. -/
  | complete (p : Participant)

namespace TaskStep

/-- The steps that the participants and who joins them make. -/
def actions (steps : List TaskStep) : List Action :=
  steps.filterMap fun
    | act a => some a
    | complete _ => none

theorem mem_actions {a : Action} {steps : List TaskStep} (h : act a ∈ steps) : a ∈ actions steps :=
  List.mem_filterMap.2 ⟨act a, h, rfl⟩

end TaskStep

/-- A run whose participants are joined in the order in which they have completed. -/
structure OrderedRun where
  run : BatchRun
  /-- Who has completed and not been joined, the first one first. -/
  completed : List Participant := []

namespace OrderedRun

/-- The state behind a step, `none` if the step cannot be made: only who has ended completes, once, and only the
first one that has completed is joined. -/
def step? (o : OrderedRun) : TaskStep → Option OrderedRun
  | .complete p =>
    if (o.run.conclusion? p).isSome && !o.completed.contains p then some { o with completed := o.completed ++ [p] }
    else none
  | .act a => (o.run.step? a).bind fun run => match a.joins?, o.completed with
    | none, completed => some ⟨run, completed⟩
    | some p, q :: rest => if p = q then some ⟨run, rest⟩ else none
    | some _, [] => none

def replay? : OrderedRun → List TaskStep → Option OrderedRun
  | o, [] => some o
  | o, step :: rest => (o.step? step).bind fun o => replay? o rest

/-- Whether all consumers that have ended have completed. -/
def allComplete (o : OrderedRun) : Bool :=
  (List.range o.run.consumers.length).all fun i =>
    (o.run.conclusion? (.consumer i)).isNone || o.completed.contains (.consumer i)

/-- Whether the producer completes behind all consumers that have ended before, as it does when one thread makes
all the steps. -/
def isPrompt : OrderedRun → List TaskStep → Bool
  | _, [] => true
  | o, step :: rest =>
    (match step with
      | .complete .producer => o.allComplete
      | _ => true) &&
    (o.step? step).all fun o => isPrompt o rest

variable {o o' : OrderedRun} {a : Action} {p : Participant}

theorem step?_complete (h : o.step? (.complete p) = some o') :
    (∃ conclusion, o.run.conclusion? p = some conclusion) ∧ p ∉ o.completed ∧ o'.run = o.run ∧
      o'.completed = o.completed ++ [p] := by
  rw [step?] at h
  split at h
  · rename_i hp
    obtain ⟨hsome, hnot⟩ := Bool.and_eq_true_iff.1 hp
    rw [Bool.not_eq_true', List.contains_eq_mem, decide_eq_false_iff_not] at hnot
    cases h
    exact ⟨Option.isSome_iff_exists.1 hsome, hnot, rfl, rfl⟩
  · cases h

/-- **What a step of the run does to the list of those who have completed.** -/
theorem step?_act (h : o.step? (.act a) = some o') : o.run.step? a = some o'.run ∧
    (a.joins? = none ∧ o'.completed = o.completed ∨
      ∃ p, a.joins? = some p ∧ o.completed = p :: o'.completed) := by
  obtain ⟨run, hrun, hrest⟩ := Option.bind_eq_some_iff.1 h
  split at hrest
  · rename_i hjoins
    cases hrest
    exact ⟨hrun, .inl ⟨hjoins, rfl⟩⟩
  · rename_i p q rest hjoins hcompleted
    split at hrest
    · rename_i hpq
      cases hrest
      exact ⟨hrun, .inr ⟨p, hjoins, hpq ▸ hcompleted⟩⟩
    · cases hrest
  · cases hrest

theorem mem_of_allComplete (h : o.allComplete = true) {i : Nat} {conclusion : Conclusion}
    (hi : o.run.conclusion? (.consumer i) = some conclusion) : .consumer i ∈ o.completed := by
  obtain ⟨c, hc, -⟩ := Option.bind_eq_some_iff.1 hi
  obtain ⟨hlt, -⟩ := List.getElem?_eq_some_iff.1 hc
  have hcomplete := List.all_eq_true.1 h i (List.mem_range.2 hlt)
  rw [hi] at hcomplete
  exact List.contains_iff_mem.1 hcomplete

theorem isPrompt_of_append : ∀ {before after : List TaskStep} {o : OrderedRun},
    o.isPrompt (before ++ after) = true → o.isPrompt before = true
  | [], _, _, _ => rfl
  | step :: before, after, o, h => by
    obtain ⟨hstep, hrest⟩ := Bool.and_eq_true_iff.1 h
    refine Bool.and_eq_true_iff.2 ⟨hstep, ?_⟩
    cases hnext : o.step? step with
    | none => rfl
    | some next =>
      rw [hnext] at hrest
      exact isPrompt_of_append hrest

end OrderedRun

namespace BatchRun

variable {limits : BatchLimits} {input : Decoded} {actions : List Action} {s s' : BatchRun} {a : Action}

theorem conclusion?_eq_of_set {i : Nat} {c : Consumer} (hproducer : s'.producer = s.producer)
    (hconsumers : s'.consumers = s.consumers.set i c) {p : Participant} (hp : p ≠ .consumer i) :
    s'.conclusion? p = s.conclusion? p := by
  cases p with
  | producer => exact congrArg Producer.conclusion? hproducer
  | consumer j =>
    have hne : i ≠ j := fun h => hp (h ▸ rfl)
    rw [conclusion?, conclusion?, hconsumers, List.getElem?_set_ne hne]

theorem conclusion?_of_set {i : Nat} {c c' : Consumer} (hi : s.consumers[i]? = some c)
    (hconsumers : s'.consumers = s.consumers.set i c') : s'.conclusion? (.consumer i) = c'.conclusion? := by
  obtain ⟨hlt, -⟩ := List.getElem?_eq_some_iff.1 hi
  rw [conclusion?, hconsumers, List.getElem?_set_self hlt, Option.bind_some]

theorem conclusion?_of_live (hlive : s.producer.isLive = true) (hconsumers : s'.consumers = s.consumers)
    {p : Participant} {conclusion : Conclusion} (h : s.conclusion? p = some conclusion) :
    s'.conclusion? p = some conclusion := by
  cases p with
  | producer =>
    rw [conclusion?, Producer.conclusion?_of_isLive hlive] at h
    cases h
  | consumer i =>
    rw [conclusion?, hconsumers]
    exact h

theorem conclusion?_of_consumer {i : Nat} {c c' : Consumer} (hi : s.consumers[i]? = some c) (hc : c.conclusion? = none)
    (hproducer : s'.producer = s.producer) (hconsumers : s'.consumers = s.consumers.set i c') {p : Participant}
    {conclusion : Conclusion} (h : s.conclusion? p = some conclusion) : s'.conclusion? p = some conclusion := by
  by_cases hp : p = .consumer i
  · rw [hp, conclusion?, hi, Option.bind_some, hc] at h
    cases h
  · exact (conclusion?_eq_of_set hproducer hconsumers hp).trans h

theorem conclusion?_detach {i : Nat} {c : Consumer} (hi : s.consumers[i]? = some c) (hc : c.conclusion? = none)
    {p : Participant} {conclusion conclusion' : Conclusion} (h : s.conclusion? p = some conclusion) :
    (s.detach i conclusion').conclusion? p = some conclusion :=
  conclusion?_of_consumer hi hc (producer_detach ..) (consumers_detach ..) h

/-- **Who has ended stays as it is** until it is joined. -/
theorem Step.conclusion?_eq (hstep : Step s a s') (hjoins : a.joins? = none) {p : Participant}
    {conclusion : Conclusion} (h : s.conclusion? p = some conclusion) : s'.conclusion? p = some conclusion := by
  cases hstep with
  | readRecord r rs e hp | readError e hp | readNothing hp | readLast hp | lookCancelled item hp | lookError e hp
  | lookLarge r hp | lookTooLong r hp | lookAppend r hp | lookFlush r hp | offerCancelled batch next hp
  | offerClosed batch next hp | offerRecord batch r hp | offerLast batch hp | abortOffer batch next he hp =>
    exact conclusion?_of_live (by rw [hp]; rfl) (by rfl) h
  | abortProducer he hp =>
    rcases hp with hp | ⟨item, hp⟩
    · exact conclusion?_of_live (by rw [hp]; rfl) (by rfl) h
    · exact conclusion?_of_live (by rw [hp]; rfl) (by rfl) h
  | claim i hi | leaveDrained i hi | take i batch waiting hi | deliver i batch number handling hi
  | fail i batch number handling error hi => exact conclusion?_of_consumer hi (by rfl) (by rfl) (by rfl) h
  | leaveCancelled i hi =>
    rcases hi with hi | hi
    · exact conclusion?_of_consumer hi (by rfl) (by rfl) (by rfl) h
    · exact conclusion?_of_consumer hi (by rfl) (by rfl) (by rfl) h
  | detach i conclusion hi =>
    exact conclusion?_detach hi (by rfl) h
  | abortConsumer i he hi =>
    rcases hi with hi | hi
    · exact conclusion?_detach hi (by rfl) h
    · exact conclusion?_detach hi (by rfl) h
  | abortHandling i batch number he hi =>
    exact conclusion?_detach (s := { s with queue.pool := s.queue.pool.give batch }) hi (by rfl) h
  | cancel => exact h
  | joinProducer | joinFailedProducer | joinConsumer | joinFailedConsumer => cases hjoins

/-- **What joining a participant does**: it is no longer among those who have ended, and its failure is not
lost. -/
theorem Step.joining (hstep : Step s a s') {p : Participant} (hjoins : a.joins? = some p) :
    (∀ q, q ≠ p → s'.conclusion? q = s.conclusion? q) ∧ s'.conclusion? p = none ∧
      ∀ error, s.conclusion? p = some (.failed error) → s'.error.isSome = true := by
  have hothers : ∀ {t : BatchRun}, t.consumers = s.consumers → ∀ q, q ≠ .producer →
      t.conclusion? q = s.conclusion? q := by
    intro t hconsumers q hq
    cases q with
    | producer => exact absurd rfl hq
    | consumer i => rw [conclusion?, conclusion?, hconsumers]
  cases hstep with
  | joinProducer conclusion hp hq =>
    cases hjoins
    refine ⟨hothers rfl, rfl, fun error hf => hq error ?_⟩
    rw [conclusion?, hp] at hf
    exact Option.some.inj hf
  | joinFailedProducer error hp he =>
    cases hjoins
    exact ⟨hothers rfl, rfl, fun _ _ => rfl⟩
  | joinConsumer i conclusion hi hq =>
    cases hjoins
    have hnone : Consumer.joined.conclusion? = none := rfl
    refine ⟨fun q hq => ?_, (conclusion?_of_set hi (by rfl)).trans hnone, fun error hf => hq error ?_⟩
    · exact conclusion?_eq_of_set (c := .joined) (by rfl) (by rfl) hq
    · rw [conclusion?, hi, Option.bind_some] at hf
      exact Option.some.inj hf
  | joinFailedConsumer i error hi he =>
    cases hjoins
    have hnone : Consumer.joined.conclusion? = none := rfl
    refine ⟨fun q hq => ?_, (conclusion?_of_set hi (by rfl)).trans hnone, fun _ _ => rfl⟩
    exact conclusion?_eq_of_set (c := .joined) (by rfl) (by rfl) hq
  | _ => cases hjoins

theorem Step.error_eq_some (hstep : Step s a s') {error : BatchError} (h : s.error = some error) :
    s'.error = some error := by
  cases hstep with
  | joinFailedProducer other hp he | joinFailedConsumer i other hi he =>
    rw [h] at he
    cases he
  | detach | abortConsumer | abortHandling => exact (error_detach ..).trans h
  | _ => exact h

theorem Blameless.not_aborted (h : Blameless limits input actions s) (p : Participant) :
    s.conclusion? p ≠ some .aborted := by
  intro hp
  cases p with
  | producer =>
    rcases h.producer _ (Producer.conclusion?_eq_some.1 hp) with hdone | ⟨error, herror, -⟩ | ⟨hclosed, -⟩
    · cases hdone
    · cases herror
    · cases hclosed
  | consumer i =>
    obtain ⟨c, hi, hc⟩ := Option.bind_eq_some_iff.1 hp
    obtain rfl := Consumer.conclusion?_eq_some.1 hc
    rcases h.consumers _ (List.mem_of_getElem? hi) with hw | ⟨hdone, -⟩ | ⟨error, hf, -⟩
    · cases hw
    · cases hdone
    · cases hf

end BatchRun

/-! ## Who is in front of the producer -/

theorem mem_takeWhile_append {α : Type} {p : α → Bool} {l : List α} {x : α} (h : x ∈ l.takeWhile p) (rest : List α) :
    x ∈ (l ++ rest).takeWhile p := by
  rw [List.takeWhile_append]
  split
  · exact List.mem_append_left _ ((List.takeWhile_prefix p).mem h)
  · exact h

namespace OrderedRun

open BatchRun (Blameless Raised Wiring step?_sound)

variable {limits : BatchLimits} {input : Decoded} {actions : List Action} {o o' : OrderedRun}

/-- **Those who have completed are listed once each**, and a producer that has failed for another's sake comes
behind a consumer that has failed. -/
structure Listed (limits : BatchLimits) (input : Decoded) (actions : List Action) (o : OrderedRun) : Prop where
  nodup : o.completed.Nodup
  ended : ∀ p ∈ o.completed, ∃ conclusion, o.run.conclusion? p = some conclusion
  behind : ∀ error, .producer ∈ o.completed → o.run.conclusion? .producer = some (.failed error) →
    Raised limits input actions error ∨ ∃ i cause, o.run.conclusion? (.consumer i) = some (.failed cause) ∧
      .consumer i ∈ o.completed.takeWhile (· ≠ .producer)

/-- Whether the producer is the next to be joined, because it has found the queue closed, and every consumer has
failed by itself and comes behind it. -/
structure Overtaken (limits : BatchLimits) (input : Decoded) (actions : List Action) (o : OrderedRun) : Prop where
  error_eq : o.run.error = none
  first : o.completed.head? = some .producer
  producer_eq : o.run.producer = .ended (.failed .closed)
  consumers_ne : o.run.consumers ≠ []
  failed : ∀ c ∈ o.run.consumers, ∃ cause, c = .ended (.failed cause) ∧ Raised limits input actions cause

theorem step?_run {step : TaskStep} (h : o.step? step = some o') :
    o'.run = o.run ∨ ∃ a, step = .act a ∧ BatchRun.Step o.run a o'.run := by
  cases step with
  | complete p => exact .inl (step?_complete h).2.2.1
  | act a => exact .inr ⟨a, rfl, step?_sound (step?_act h).1⟩

theorem wiring_step {step : TaskStep} (hwiring : Wiring limits o.run) (h : o.step? step = some o') :
    Wiring limits o'.run := by
  rcases step?_run h with hrun | ⟨a, -, hstep⟩
  · exact hrun ▸ hwiring
  · exact hwiring.step hstep

theorem error_step {step : TaskStep} {error : BatchError} (herror : o.run.error = some error)
    (h : o.step? step = some o') : o'.run.error = some error := by
  rcases step?_run h with hrun | ⟨a, -, hstep⟩
  · exact hrun ▸ herror
  · exact hstep.error_eq_some herror

theorem error_of_replay? {error : BatchError} : ∀ {steps : List TaskStep} {o o' : OrderedRun},
    o.replay? steps = some o' → o.run.error = some error → o'.run.error = some error
  | [], _, _, h, herror => Option.some.inj h ▸ herror
  | _ :: _, _, _, h, herror => by
    obtain ⟨next, hnext, hrest⟩ := Option.bind_eq_some_iff.1 h
    exact error_of_replay? hrest (error_step herror hnext)

namespace Listed

theorem start (limits : BatchLimits) (pool : BufferPool) (input : Decoded) (actions : List Action) :
    Listed limits input actions ⟨.start limits pool input, []⟩ where
  nodup := List.nodup_nil
  ended _ hp := nomatch hp
  behind _ hp := nomatch hp

theorem complete {p : Participant} (h : Listed limits input actions o) (hb : Blameless limits input actions o.run)
    (hwiring : Wiring limits o.run) (hstep : o.step? (.complete p) = some o')
    (hprompt : p = .producer → o.allComplete = true) : Listed limits input actions o' := by
  obtain ⟨hp, hnot, hrun, hcompleted⟩ := step?_complete hstep
  refine ⟨?_, fun q hq => ?_, fun error hmem herror => ?_⟩
  · rw [hcompleted]
    refine List.nodup_append.2 ⟨h.nodup, List.pairwise_singleton _ p, fun q hq r hr heq => hnot ?_⟩
    exact List.mem_singleton.1 hr ▸ heq ▸ hq
  · rw [hcompleted, List.mem_append, List.mem_singleton] at hq
    rw [hrun]
    rcases hq with hq | rfl
    · exact h.ended q hq
    · exact hp
  · rw [hrun] at herror ⊢
    rw [hcompleted] at hmem ⊢
    by_cases hbefore : .producer ∈ o.completed
    · refine (h.behind error hbefore herror).imp_right ?_
      rintro ⟨i, cause, hcause, hi⟩
      exact ⟨i, cause, hcause, mem_takeWhile_append hi _⟩
    · rcases hb.raised_or_closed (Producer.conclusion?_eq_some.1 herror) with hraised | ⟨-, hfailed⟩
      · exact .inl hraised
      · -- the queue was closed by consumers that have ended, and all of these have completed
        have hproducer : p = .producer :=
          (List.mem_singleton.1 ((List.mem_append.1 hmem).resolve_left hbefore)).symm
        have hpos : 0 < o.run.consumers.length := hwiring.consumers_pos
        obtain ⟨cause, hcause⟩ := hfailed _ (List.getElem_mem hpos)
        have hzero : o.run.conclusion? (.consumer 0) = some (.failed cause) := by
          rw [BatchRun.conclusion?, List.getElem?_eq_getElem hpos, Option.bind_some, hcause]
          rfl
        have hall : o.completed.takeWhile (· ≠ .producer) = o.completed :=
          List.takeWhile_eq_self_iff.2 fun q hq => decide_eq_true fun heq => hbefore (heq ▸ hq)
        refine .inr ⟨0, cause, hzero, mem_takeWhile_append ?_ _⟩
        rw [hall]
        exact mem_of_allComplete (hprompt hproducer) hzero

theorem act {a : Action} (h : Listed limits input actions o) (hstep : o.step? (.act a) = some o')
    (herror : o'.run.error = none) : Listed limits input actions o' := by
  obtain ⟨hrun, hcases⟩ := step?_act hstep
  have hrun := step?_sound hrun
  rcases hcases with ⟨hjoins, hcompleted⟩ | ⟨p, hjoins, hcompleted⟩
  · refine ⟨hcompleted ▸ h.nodup, fun q hq => ?_, fun error hmem hfailed => ?_⟩
    · obtain ⟨conclusion, hq⟩ := h.ended q (hcompleted ▸ hq)
      exact ⟨conclusion, hrun.conclusion?_eq hjoins hq⟩
    · rw [hcompleted] at hmem ⊢
      obtain ⟨conclusion, hconclusion⟩ := h.ended _ hmem
      obtain rfl := Option.some.inj ((hrun.conclusion?_eq hjoins hconclusion).symm.trans hfailed)
      refine (h.behind error hmem hconclusion).imp_right ?_
      rintro ⟨i, cause, hcause, hi⟩
      exact ⟨i, cause, hrun.conclusion?_eq hjoins hcause, hi⟩
  · obtain ⟨hsame, -, hfailure⟩ := hrun.joining hjoins
    obtain ⟨hnot, hnodup⟩ := List.nodup_cons.1 (hcompleted ▸ h.nodup)
    have hne : ∀ {q}, q ∈ o'.completed → q ≠ p := fun hq heq => hnot (heq ▸ hq)
    refine ⟨hnodup, fun q hq => ?_, fun error hmem hfailed => ?_⟩
    · rw [hsame q (hne hq)]
      exact h.ended q (hcompleted ▸ List.mem_cons_of_mem _ hq)
    · rw [hsame _ (hne hmem)] at hfailed
      refine (h.behind error (hcompleted ▸ List.mem_cons_of_mem _ hmem) hfailed).imp_right ?_
      rintro ⟨i, cause, hcause, hi⟩
      have hip : Participant.consumer i ≠ p := fun heq => by
        have hsome := hfailure cause (heq ▸ hcause)
        rw [herror] at hsome
        cases hsome
      have htake : (p :: o'.completed).takeWhile (· ≠ .producer) = p :: o'.completed.takeWhile (· ≠ .producer) :=
        List.takeWhile_cons_of_pos (decide_eq_true (hne hmem).symm)
      rw [hcompleted, htake] at hi
      exact ⟨i, cause, (hsame _ hip).trans hcause, (List.mem_cons.1 hi).resolve_left hip⟩

/-- Whoever has overtaken the consumers has not come behind one. -/
theorem not_overtaken (h : Listed limits input actions o) : ¬o.Overtaken limits input actions := by
  intro hover
  have hfirst := hover.first
  obtain ⟨rest, hcompleted⟩ := List.head?_eq_some_iff.1 hfirst
  have hmem : .producer ∈ o.completed := hcompleted ▸ List.mem_cons_self
  rcases h.behind .closed hmem (Producer.conclusion?_eq_some.2 hover.producer_eq) with hraised | ⟨i, cause, -, hi⟩
  · cases hraised
  · rw [hcompleted] at hi
    cases hi

end Listed

/-! ## What a run fails with -/

/-- **A step before the first failure is joined** leaves it to be seen who fails first, or joins one that has failed
by itself, or a producer that has overtaken the consumers. -/
theorem step_of_blameless {step : TaskStep} (hb : Blameless limits input actions o.run) (hwiring : Wiring limits o.run)
    (hquiet : ∀ a, step = .act a → a ∈ actions ∧ ¬a.IsCancelling) (h : o.step? step = some o') :
    Blameless limits input actions o'.run ∨ ∃ error, o'.run.error = some error ∧
      (Raised limits input actions error ∨
        error = .closed ∧ step = .act .joinProducer ∧ o.Overtaken limits input actions) := by
  cases step with
  | complete p => exact .inl ((step?_complete h).2.2.1 ▸ hb)
  | act a =>
    obtain ⟨hrun, hcases⟩ := step?_act h
    obtain ⟨hmem, hnot⟩ := hquiet a rfl
    refine (hb.step hwiring hmem hnot (step?_sound hrun)).imp_right ?_
    rintro ⟨error, herror, hraised | ⟨rfl, rfl, hproducer, hfailed⟩⟩
    · exact ⟨error, herror, .inl hraised⟩
    · have hpos : 0 < o.run.consumers.length := hwiring.consumers_pos
      have hfirst : o.completed.head? = some .producer := by
        rcases hcases with ⟨hjoins, -⟩ | ⟨p, hjoins, hcompleted⟩
        · cases hjoins
        · cases hjoins
          rw [hcompleted, List.head?_cons]
      exact ⟨_, herror, .inr ⟨rfl, rfl, hb.error_eq, hfirst, hproducer, List.ne_nil_of_length_pos hpos,
        hb.raised_of_consumersFailed hfailed⟩⟩

theorem quiet_of_cons {step : TaskStep} {rest : List TaskStep} (hquiet : ∀ a ∈ actions, ¬a.IsCancelling)
    (hmem : ∀ a, .act a ∈ step :: rest → a ∈ actions) : ∀ a, step = .act a → a ∈ actions ∧ ¬a.IsCancelling := by
  rintro a rfl
  have hin := hmem a List.mem_cons_self
  exact ⟨hin, hquiet a hin⟩

theorem outcome_of_replay? (hquiet : ∀ a ∈ actions, ¬a.IsCancelling) : ∀ {steps : List TaskStep} {o o' : OrderedRun},
    o.replay? steps = some o' → (∀ a, .act a ∈ steps → a ∈ actions) → Wiring limits o.run →
    Blameless limits input actions o.run →
    Blameless limits input actions o'.run ∨ ∃ error, o'.run.error = some error ∧
      (Raised limits input actions error ∨ error = .closed ∧ ∃ before after next,
        steps = before ++ .act .joinProducer :: after ∧ o.replay? before = some next ∧
          next.Overtaken limits input actions)
  | [], _, _, h, _, _, hb => .inl (Option.some.inj h ▸ hb)
  | step :: rest, o, o', h, hmem, hwiring, hb => by
    obtain ⟨next, hnext, hrest⟩ := Option.bind_eq_some_iff.1 h
    rcases step_of_blameless hb hwiring (quiet_of_cons hquiet hmem) hnext with
      hb' | ⟨error, herror, hraised | ⟨hclosed, hjoin, hover⟩⟩
    · refine (outcome_of_replay? hquiet hrest (fun a ha => hmem a (List.mem_cons_of_mem _ ha))
        (wiring_step hwiring hnext) hb').imp_right ?_
      rintro ⟨error, herror, hraised | ⟨hclosed, before, after, last, rfl, hlast, hover⟩⟩
      · exact ⟨error, herror, .inl hraised⟩
      · refine ⟨error, herror, .inr ⟨hclosed, step :: before, after, last, rfl, ?_, hover⟩⟩
        exact Option.bind_eq_some_iff.2 ⟨next, hnext, hlast⟩
    · exact .inr ⟨error, error_of_replay? hrest herror, .inl hraised⟩
    · exact .inr ⟨error, error_of_replay? hrest herror, .inr ⟨hclosed, [], rest, o, hjoin ▸ rfl, rfl, hover⟩⟩

theorem listed_of_replay? (hquiet : ∀ a ∈ actions, ¬a.IsCancelling) : ∀ {steps : List TaskStep} {o o' : OrderedRun},
    o.replay? steps = some o' → o'.run.error = none → (∀ a, .act a ∈ steps → a ∈ actions) → Wiring limits o.run →
    Blameless limits input actions o.run → o.isPrompt steps = true → Listed limits input actions o →
    Listed limits input actions o'
  | [], _, _, h, _, _, _, _, _, hlisted => Option.some.inj h ▸ hlisted
  | step :: rest, o, o', h, hnone, hmem, hwiring, hb, hprompt, hlisted => by
    obtain ⟨next, hnext, hrest⟩ := Option.bind_eq_some_iff.1 h
    obtain ⟨hnow, hlater⟩ := Bool.and_eq_true_iff.1 hprompt
    rw [hnext] at hlater
    -- a failure that has been joined is still there at the end
    have hnone' : next.run.error = none := by
      cases herror : next.run.error with
      | none => rfl
      | some error => cases hnone.symm.trans (error_of_replay? hrest herror)
    have hb' : Blameless limits input actions next.run := by
      rcases step_of_blameless hb hwiring (quiet_of_cons hquiet hmem) hnext with hb' | ⟨error, herror, -⟩
      · exact hb'
      · cases hnone'.symm.trans herror
    refine listed_of_replay? hquiet hrest hnone (fun a ha => hmem a (List.mem_cons_of_mem _ ha))
      (wiring_step hwiring hnext) hb' hlater ?_
    cases step with
    | complete p => exact hlisted.complete hb hwiring hnext fun hp => by subst hp; exact hnow
    | act a => exact hlisted.act hnext hnone'

end OrderedRun

namespace BatchRun

open TaskStep (actions)

theorem error_eq_some_of_result {s : BatchRun} {error : BatchError} (h : s.result = .error error) :
    s.error = some error := by
  unfold result at h
  split at h
  · rename_i other hother
    rw [hother, Except.error.inj h]
  · cases h

/-- **What a run fails with**, for every order in which the participants make their steps, complete and are joined,
when nobody cancels it from outside.  Nobody has been stopped before a failure is joined, and that is an error which
somebody has by itself, unless the producer has overtaken the consumers: every one of them has failed by itself, and
comes behind the producer, for which they have closed the queue.  That never happens where the producer completes
behind the consumers that have ended before. -/
theorem error_isRaised_or_closed (limits : BatchLimits) (pool : BufferPool) (input : Decoded) (steps : List TaskStep)
    (hquiet : ∀ a ∈ actions steps, ¬a.IsCancelling) (o : OrderedRun)
    (ho : OrderedRun.replay? ⟨start limits pool input, []⟩ steps = some o) :
    (o.run.error = none → ∀ p, o.run.conclusion? p ≠ some .aborted) ∧
      ∀ error, o.run.result = .error error → Raised limits input (actions steps) error ∨
        error = .closed ∧ OrderedRun.isPrompt ⟨start limits pool input, []⟩ steps = false ∧
          ∃ before after next, steps = before ++ .act .joinProducer :: after ∧
            OrderedRun.replay? ⟨start limits pool input, []⟩ before = some next ∧
              next.Overtaken limits input (actions steps) := by
  have hwiring := wiring_start limits pool input
  have hblameless := blameless_start limits pool input (actions steps)
  have hmem : ∀ a, .act a ∈ steps → a ∈ actions steps := fun a ha => TaskStep.mem_actions ha
  rcases OrderedRun.outcome_of_replay? hquiet ho hmem hwiring hblameless with hb | ⟨first, hfirst, houtcome⟩
  · refine ⟨fun _ => hb.not_aborted, fun error herror => ?_⟩
    cases hb.error_eq.symm.trans (error_eq_some_of_result herror)
  · refine ⟨fun hnone => ?_, fun error herror => ?_⟩
    · cases hnone.symm.trans hfirst
    obtain rfl := Option.some.inj (hfirst.symm.trans (error_eq_some_of_result herror))
    refine houtcome.imp_right ?_
    rintro ⟨hclosed, before, after, next, hsteps, hnext, hover⟩
    refine ⟨hclosed, Bool.eq_false_iff.2 fun hprompt => ?_, before, after, next, hsteps, hnext, hover⟩
    rw [hsteps] at hprompt
    have hbefore : ∀ a, .act a ∈ before → a ∈ actions steps := fun a ha =>
      hmem a (hsteps ▸ List.mem_append_left _ ha)
    exact (OrderedRun.listed_of_replay? hquiet hnext hover.error_eq hbefore hwiring hblameless
      (OrderedRun.isPrompt_of_append hprompt) (.start ..)).not_overtaken hover

/-- Limits under which every short record needs a batch of its own, and one consumer. -/
def singleLimits : BatchLimits := { maxRecordSize := 4, maxBatchSize := 6, maxConcurrency := 1 }

/-- More records than can wait. -/
def fiveRecords : Decoded := { records := [.null, .null, .null, .null, .null] }

/-- What a handler does that takes nothing. -/
def refusing : BatchQueue.Handling := { result := .error (.status 400 "bad request") }

/-- Steps in which the only consumer has failed, and the producer has found the queue closed. -/
def refused : List TaskStep :=
  List.map .act [.produce, .produce, .produce, .produce, .produce, .consume 0, .consume 0, .produce, .produce, .produce,
    .produce, .produce, .produce, .produce, .produce, .finishBatch 0 refusing, .consume 0, .produce]

/-- The consumer completes before the producer. -/
def inTurn : List TaskStep :=
  refused ++ [TaskStep.complete (.consumer 0), .complete .producer, .act (.joinConsumer 0), .act .joinProducer]

/-- The producer completes before the consumer. -/
def overtaking : List TaskStep :=
  refused ++ [TaskStep.complete .producer, .act .joinProducer, .complete (.consumer 0), .act (.joinConsumer 0)]

theorem error_isRaised_or_closed_refused :
    (∃ o, OrderedRun.replay? ⟨start singleLimits {} fiveRecords, []⟩ inTurn = some o ∧ o.run.isOver = true ∧
      o.run.result = .error (.delivery (.status 400 "bad request")) ∧
      OrderedRun.isPrompt ⟨start singleLimits {} fiveRecords, []⟩ inTurn = true ∧
      Raised singleLimits fiveRecords (actions inTurn) (.delivery (.status 400 "bad request"))) ∧
    ∃ o, OrderedRun.replay? ⟨start singleLimits {} fiveRecords, []⟩ overtaking = some o ∧ o.run.isOver = true ∧
      o.run.result = .error .closed ∧ ∃ before after next, overtaking = before ++ .act .joinProducer :: after ∧
        OrderedRun.replay? ⟨start singleLimits {} fiveRecords, []⟩ before = some next ∧
          next.Overtaken singleLimits fiveRecords (actions overtaking) := by
  have hfirst : ∀ a ∈ actions inTurn, ¬a.IsCancelling := by
    simp [actions, inTurn, refused, Action.IsCancelling, refusing]
  have hsecond : ∀ a ∈ actions overtaking, ¬a.IsCancelling := by
    simp [actions, overtaking, refused, Action.IsCancelling, refusing]
  refine ⟨⟨_, rfl, rfl, rfl, rfl, ?_⟩, _, rfl, rfl, rfl, ?_⟩
  · rcases (error_isRaised_or_closed singleLimits {} fiveRecords inTurn hfirst _ rfl).2 _ rfl with
      hraised | ⟨hclosed, -⟩
    · exact hraised
    · cases hclosed
  · rcases (error_isRaised_or_closed singleLimits {} fiveRecords overtaking hsecond _ rfl).2 _ rfl with
      hraised | ⟨-, -, hover⟩
    · cases hraised
    · exact hover

theorem closed_isReported : ∃ o, OrderedRun.replay? ⟨start singleLimits {} fiveRecords, []⟩ overtaking = some o ∧
    (∀ a ∈ actions overtaking, ¬a.IsCancelling) ∧ o.run.isOver = true ∧ o.run.result = .error .closed ∧
      ¬Raised singleLimits fiveRecords (actions overtaking) .closed := by
  refine ⟨_, rfl, ?_, rfl, rfl, nofun⟩
  simp [actions, overtaking, refused, Action.IsCancelling, refusing]

end BatchRun

end ObjectRelay

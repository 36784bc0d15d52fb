import ObjectRelay.Proofs.Relay.SideBySide
/-!
# Cancelled invocations

`Change` lists what a step of a dispatch can be, cancelled or not, and `step?_sound` opens the steps.  Every state
keeps the account `Counted`: unless somebody cancels, as many tasks have ended as reports were made, so the invocation
never waits in vain for one; a cancellation ends it at its next look.  Dispatches that share permits are followed
through `Event`s, the steps of all of them and further arrivals, in any order (`no_report_lost`).
-/
namespace ObjectRelay
namespace Dispatch

/-- **What a step can be** while `free` permits are left. -/
inductive Change (free : Nat) (d : Dispatch) : Action → Dispatch → Prop
  | began (i records) (hfree : free ≠ 0) (hc : d.isCancelled = false) (ht : d.tasks[i]? = some .waiting) :
      Change free d (.begin i) (d.setTask i (.looking records))
  | gaveUp (i) (hc : d.isCancelled = true) (ht : d.tasks[i]? = some .waiting) :
      Change free d (.giveUp i) (d.setTask i .ended)
  | looked (i task task' activities) (ht : d.tasks[i]? = some task) (hwork : task.isAtWork = true)
      (hwork' : task'.isAtWork = true) (hput : activities.filterMap Activity.put? = []) :
      Change free d (.look i) ((d.note activities).setTask i task')
  | answered (i answer task task') (ht : d.tasks[i]? = some task) (hwork : task.isAtWork = true)
      (hwork' : task'.isAtWork = true) :
      Change free d (.answer i answer)
        ({ d with isCancelled := d.isCancelled || answer.isCancelling }.setTask i task')
  | reported (i outcome) (ht : d.tasks[i]? = some (.finishing outcome)) :
      Change free d (.report i) ({ d with reports := d.reports ++ [(i, outcome)] }.setTask i .ended)
  | finished (hr : d.result = none) (hall : d.collected = d.messages.length) :
      Change free d .collect { d with result := some (.ok d.outcomes) }
  | observed (hr : d.result = none) (hsome : d.collected ≠ d.messages.length) (hc : d.isCancelled = true) :
      Change free d .collect { d with result := some (.error .cancelled) }
  | collected (i outcome reports) (hr : d.result = none) (hsome : d.collected ≠ d.messages.length)
      (hc : d.isCancelled = false) (hreports : d.reports = (i, outcome) :: reports) :
      Change free d .collect { d with reports, collected := d.collected + 1, outcomes := d.outcomes.set i outcome }
  | lost (hr : d.result = none) (hsome : d.collected ≠ d.messages.length) (hc : d.isCancelled = false)
      (hreports : d.reports = []) (hended : d.tasks.all (· == .ended) = true) :
      Change free d .collect { d with result := some (.error (.resultsLost d.messages.length)) }
  | cancelled : Change free d .cancel { d with isCancelled := true }

variable {relay : Relay} {free : Nat} {d d' : Dispatch} {i : Nat} {action : Action}

theorem change_look (h : d.look? relay i = some d') : Change free d (.look i) d' := by
  have hquiet : ∀ {task task'}, d.tasks[i]? = some task → task.isAtWork = true → task'.isAtWork = true →
      Change free d (.look i) (d.setTask i task') := fun {task task'} ht hwork hwork' => by
    have hlooked : Change free d (.look i) ((d.note []).setTask i task') := .looked i task task' [] ht hwork hwork' rfl
    rwa [note_nil] at hlooked
  unfold look? at h
  split at h
  · rename_i ht
    exact Option.some.inj h ▸ hquiet ht rfl rfl
  · rename_i record rest ht
    rw [← Option.some.inj h]
    cases relay.treat record with
    | unreadable error => exact hquiet ht rfl rfl
    | skipped source reason => exact .looked i _ (.looking rest) _ ht rfl rfl rfl
    | copied op => exact .looked i _ (.copying record.uri op rest) _ ht rfl rfl rfl
  · cases h

theorem change_answer {answer : StoreAnswer} (h : d.answer? i answer = some d') :
    Change free d (.answer i answer) d' := by
  unfold answer? at h
  split at h
  · rename_i uri operation rest ht
    rw [← Option.some.inj h]
    refine .answered i answer _ _ ht rfl ?_
    cases answer.result <;> rfl
  · cases h

theorem change_collect (h : d.collect? = some d') : Change free d .collect d' := by
  unfold collect? at h
  split at h
  · cases h
  rename_i hr
  have hr : d.result = none := by simpa using hr
  split at h
  · rename_i hall
    exact Option.some.inj h ▸ .finished hr hall
  rename_i hsome
  split at h
  · rename_i hc
    exact Option.some.inj h ▸ .observed hr hsome hc
  rename_i hc
  have hc : d.isCancelled = false := by simpa using hc
  split at h
  · rename_i i outcome reports hreports
    exact Option.some.inj h ▸ .collected i outcome reports hr hsome hc hreports
  · rename_i hreports
    split at h
    · rename_i hended
      exact Option.some.inj h ▸ .lost hr hsome hc hreports hended
    · cases h

/-- **A step is one of the changes.** -/
theorem step?_sound (h : d.step? relay free action = some d') : Change free d action d' := by
  cases action with
  | begin i =>
    simp only [step?] at h
    split at h
    · cases h
    rename_i hfree
    unfold begin? at h
    split at h
    · rename_i message hc hm ht
      exact Option.some.inj h ▸ .began i _ hfree hc ht
    · cases h
  | giveUp i =>
    simp only [step?, giveUp?] at h
    split at h
    · rename_i hc ht
      exact Option.some.inj h ▸ .gaveUp i hc ht
    · cases h
  | look i => exact change_look h
  | answer i answer => exact change_answer h
  | report i =>
    simp only [step?, report?] at h
    split at h
    · rename_i outcome ht
      exact Option.some.inj h ▸ .reported i outcome ht
    · cases h
  | collect => exact change_collect h
  | cancel => exact Option.some.inj h ▸ .cancelled

/-! ## What has been counted -/

/-- How many tasks have ended. -/
def ended (d : Dispatch) : Nat := d.tasks.countP (· == .ended)

/-- **The account of a dispatch.**  A task that gives up leaves no report, and does so only behind a cancellation. -/
structure Counted (d : Dispatch) : Prop where
  length_tasks : d.tasks.length = d.messages.length
  reports_le : d.collected + d.reports.length ≤ d.ended
  reports_eq : d.isCancelled = false → d.collected + d.reports.length = d.ended
  result : d.result = none ∨ d.result = some (.ok d.outcomes) ∨
    d.result = some (.error .cancelled) ∧ d.isCancelled = true ∧ d.collected < d.messages.length
  puts : d.activities.filterMap Activity.put? = []

theorem counted_start (messages : List Message) : Counted (start messages) where
  length_tasks := List.length_map _
  reports_le := Nat.zero_le _
  reports_eq _ := by
    have hzero : (start messages).ended = 0 := List.countP_eq_zero.2 fun task ht => by
      obtain ⟨_, _, rfl⟩ := List.mem_map.1 ht
      decide
    rw [hzero]
    rfl
  result := .inl rfl
  puts := rfl

theorem ended_setTask {task task' : MessageTask} (ht : d.tasks[i]? = some task) (hne : task ≠ .ended)
    (hne' : task' ≠ .ended) : (d.setTask i task').ended = d.ended := by
  have hcount := countP_set_add (· == MessageTask.ended) ht task'
  simpa [ended, Dispatch.setTask, hne, hne'] using hcount

theorem ended_setTask_ended {task : MessageTask} (ht : d.tasks[i]? = some task) (hne : task ≠ .ended) :
    (d.setTask i .ended).ended = d.ended + 1 := by
  have hcount := countP_set_add (· == MessageTask.ended) ht .ended
  simpa [ended, Dispatch.setTask, hne] using hcount

theorem atWork_setTask {task : MessageTask} (ht : d.tasks[i]? = some task) (task' : MessageTask) :
    (d.setTask i task').atWork + (if task.isAtWork then 1 else 0) = d.atWork + if task'.isAtWork then 1 else 0 :=
  countP_set_add _ ht task'

namespace Counted

theorem length_setTask (h : Counted d) (i : Nat) (task : MessageTask) :
    (d.setTask i task).tasks.length = d.messages.length := List.length_set.trans h.length_tasks

theorem collected_le (h : Counted d) : d.collected ≤ d.messages.length := by
  have hended : d.ended ≤ d.tasks.length := List.countP_le_length
  have hreports := h.reports_le
  have hlength := h.length_tasks
  omega

/-- When nobody will report any more, nothing is missing. -/
theorem collected_eq (h : Counted d) (hc : d.isCancelled = false) (hreports : d.reports = [])
    (hended : d.tasks.all (· == .ended) = true) : d.collected = d.messages.length := by
  have hall : d.ended = d.tasks.length := List.countP_eq_length.2 (List.all_eq_true.1 hended)
  have hcount := h.reports_eq hc
  rw [hreports, hall, h.length_tasks] at hcount
  exact hcount

theorem note (h : Counted d) {activities : List Activity} (hput : activities.filterMap Activity.put? = []) :
    Counted (d.note activities) :=
  { h with
    puts := by
      show (d.activities ++ activities).filterMap Activity.put? = []
      rw [List.filterMap_append, h.puts, hput, List.append_nil] }

theorem setCancelled (h : Counted d) {isCancelled : Bool} (hc : d.isCancelled = true → isCancelled = true) :
    Counted { d with isCancelled } :=
  { h with
    reports_eq := fun hnot => h.reports_eq (by
      rw [← Bool.not_eq_true] at hnot ⊢
      exact fun hyes => hnot (hc hyes))
    result := h.result.imp_right (Or.imp_right fun hresult => ⟨hresult.1, hc hresult.2.1, hresult.2.2⟩) }

/-- A task goes on and has not ended. -/
theorem setTask (h : Counted d) {task task' : MessageTask} (ht : d.tasks[i]? = some task) (hne : task ≠ .ended)
    (hne' : task' ≠ .ended) : Counted (d.setTask i task') := by
  have hended := ended_setTask ht hne hne'
  exact { h with
    length_tasks := h.length_setTask i task'
    reports_le := hended ▸ h.reports_le
    reports_eq := hended ▸ h.reports_eq }

/-- **Every step keeps the account.** -/
theorem change (h : Counted d) (hchange : Change free d action d') : Counted d' := by
  have hne : ∀ {task : MessageTask}, task.isAtWork = true → task ≠ .ended := fun hwork hended => by
    rw [hended] at hwork
    cases hwork
  cases hchange with
  | began i records hfree hc ht => exact h.setTask ht nofun nofun
  | looked i task task' activities ht hwork hwork' hput => exact (h.note hput).setTask ht (hne hwork) (hne hwork')
  | answered i answer task task' ht hwork hwork' =>
    have hcancelled : Counted { d with isCancelled := d.isCancelled || answer.isCancelling } :=
      h.setCancelled fun hc => by rw [hc, Bool.true_or]
    exact hcancelled.setTask ht (hne hwork) (hne hwork')
  | gaveUp i hc ht =>
    have hended := ended_setTask_ended ht nofun
    exact { h with
      length_tasks := h.length_setTask i .ended
      reports_le := hended ▸ Nat.le_succ_of_le h.reports_le
      reports_eq := fun hnot => absurd (hc.symm.trans hnot) nofun }
  | reported i outcome ht =>
    have hended := ended_setTask_ended ht nofun
    have hlength : (d.reports ++ [(i, outcome)]).length = d.reports.length + 1 := List.length_append
    exact { h with
      length_tasks := h.length_setTask i .ended
      reports_le := by
        show d.collected + (d.reports ++ [(i, outcome)]).length ≤ (d.setTask i .ended).ended
        have hle := h.reports_le
        omega
      reports_eq := fun hnot => by
        show d.collected + (d.reports ++ [(i, outcome)]).length = (d.setTask i .ended).ended
        have heq := h.reports_eq hnot
        omega }
  | finished hr hall => exact { h with result := .inr (.inl rfl) }
  | observed hr hsome hc =>
    exact { h with result := .inr (.inr ⟨rfl, hc, Nat.lt_of_le_of_ne h.collected_le hsome⟩) }
  | collected i outcome reports hr hsome hc hreports =>
    have hlength : d.reports.length = reports.length + 1 := by rw [hreports, List.length_cons]
    have hle := h.reports_le
    exact { h with
      reports_le := by
        show d.collected + 1 + reports.length ≤ d.ended
        omega
      reports_eq := fun hnot => by
        show d.collected + 1 + reports.length = d.ended
        have heq := h.reports_eq hnot
        omega
      result := .inl hr }
  | lost hr hsome hc hreports hended => exact absurd (h.collected_eq hc hreports hended) hsome
  | cancelled => exact h.setCancelled fun _ => rfl

end Counted

/-! ## Results -/

namespace Change

theorem result_eq (hchange : Change free d action d') {result : Except InvocationError (List (Option MessageError))}
    (h : d.result = some result) : d'.result = some result := by
  cases hchange with
  | finished hr | observed hr | collected _ _ _ hr | lost hr => exact absurd (hr.symm.trans h) nofun
  | _ => exact h

/-- Who looks when it is cancelled with reports outstanding is told so. -/
theorem result_cancelled (hchange : Change free d .collect d') (hc : d.isCancelled = true)
    (hsome : d.collected < d.messages.length) : d'.result = some (.error .cancelled) := by
  cases hchange with
  | finished hr hall => exact absurd hall (Nat.ne_of_lt hsome)
  | observed => rfl
  | collected _ _ _ _ _ hnot | lost _ _ hnot => exact absurd (hc.symm.trans hnot) nofun

theorem eq_collect (hchange : Change free d action d') (h : d'.result = some (.error .cancelled))
    (hnew : d.result ≠ some (.error .cancelled)) :
    action = .collect ∧ d.isCancelled = true ∧ d.collected ≠ d.messages.length := by
  cases hchange with
  | observed hr hsome hc => exact ⟨rfl, hc, hsome⟩
  | finished | lost => cases h
  | _ => exact absurd h hnew

/-- A permit is taken only if one is free. -/
theorem atWork_le (hchange : Change free d action d') : d'.atWork ≤ d.atWork + min free 1 := by
  cases hchange with
  | began i records hfree hc ht =>
    have hcount := atWork_setTask ht (.looking records)
    simp only [MessageTask.isAtWork, if_true, Bool.false_eq_true, if_false] at hcount
    omega
  | gaveUp i hc ht =>
    have hcount := atWork_setTask ht .ended
    simp only [MessageTask.isAtWork, Bool.false_eq_true, if_false] at hcount
    omega
  | looked i task task' activities ht hwork hwork' =>
    have hcount : _ = d.atWork + _ := atWork_setTask (d := d.note activities) ht task'
    rw [if_pos hwork, if_pos hwork'] at hcount
    omega
  | answered i answer task task' ht hwork hwork' =>
    have hcount : _ = d.atWork + _ :=
      atWork_setTask (d := { d with isCancelled := d.isCancelled || answer.isCancelling }) ht task'
    rw [if_pos hwork, if_pos hwork'] at hcount
    omega
  | reported i outcome ht =>
    have hcount : _ = d.atWork + _ :=
      atWork_setTask (d := { d with reports := d.reports ++ [(i, outcome)] }) ht .ended
    simp only [MessageTask.isAtWork, if_true, Bool.false_eq_true, if_false] at hcount
    omega
  | _ => exact Nat.le_add_right _ _

end Change

/-- A task that has a permit can go on, cancelled or not. -/
theorem exists_step_of_isAtWork (relay : Relay) (free : Nat) {task : MessageTask} (ht : d.tasks[i]? = some task)
    (hwork : task.isAtWork = true) :
    ∃ action, action ≠ .cancel ∧ (d.step? relay free action).isSome = true := by
  cases task with
  | looking records =>
    refine ⟨.look i, by simp, ?_⟩
    cases records <;> simp [step?, look?, ht]
  | copying uri op rest => exact ⟨.answer i {}, by simp, by simp [step?, answer?, ht]⟩
  | finishing outcome => exact ⟨.report i, by simp, by simp [step?, report?, ht]⟩
  | waiting | ended => cases hwork

/-- Nobody waits in vain who is cancelled, or whose tasks have all ended. -/
theorem isSome_collect? (hr : d.result = none) (h : d.isCancelled = true ∨ d.tasks.all (· == .ended) = true) :
    d.collect?.isSome = true := by
  unfold collect?
  rw [hr, if_neg (by simp)]
  split
  · rfl
  split
  · rfl
  rename_i hc
  split
  · rfl
  · rw [if_pos (h.resolve_left hc)]
    rfl

/-- An invocation whose tasks wait or have ended can go on if a permit is free. -/
theorem exists_step_of_idle (relay : Relay) (hfree : free ≠ 0) (h : Counted d) (hr : d.result = none)
    (hidle : ∀ task ∈ d.tasks, task.isAtWork = false) :
    ∃ action, action ≠ .cancel ∧ (d.step? relay free action).isSome = true := by
  by_cases hlook : d.isCancelled = true ∨ d.tasks.all (· == .ended) = true
  · exact ⟨.collect, nofun, isSome_collect? hr hlook⟩
  push Not at hlook
  obtain ⟨hc, hended⟩ := hlook
  obtain ⟨task, hmem, hne⟩ : ∃ task ∈ d.tasks, task ≠ .ended := by simpa using hended
  obtain rfl : task = .waiting := by
    have hrest := hidle task hmem
    cases task <;> first | rfl | exact absurd rfl hne | cases hrest
  obtain ⟨i, ht⟩ := List.mem_iff_getElem?.1 hmem
  obtain ⟨hlt, -⟩ := List.getElem?_eq_some_iff.1 ht
  have hm := List.getElem?_eq_getElem (h.length_tasks ▸ hlt : i < d.messages.length)
  exact ⟨.begin i, nofun, by simp [step?, begin?, hfree, hc, ht, hm]⟩

end Dispatch

/-! ## What an invocation comes to -/

namespace Relay

variable {σ : Type} {relay : Relay} {d : Dispatch}

theorem outcome_conclude (relay : Relay) (store : Store σ) (home : FunctionHome) (requestId : String) (now : Int)
    (outcomes : List (Message × Option MessageError)) (isCancelled : Bool) (state : σ) :
    (∃ ids, (relay.conclude store home requestId now outcomes isCancelled state).outcome = .ok ids) ∨
      ∃ key error, (relay.conclude store home requestId now outcomes isCancelled state).outcome =
        .error (.auditPut key error) := by
  unfold conclude
  dsimp only
  split
  · exact .inl ⟨_, rfl⟩
  · split
    · exact .inr ⟨_, _, rfl⟩
    · exact .inl ⟨_, rfl⟩

theorem handleDispatched_cancelled (store : Store σ) {context : InvocationContext} (hhome : context.home.isOk = true)
    (now : Int) (state : σ) (h : d.result = some (.error .cancelled)) :
    relay.handleDispatched store context now d state =
      some ⟨d.activities, .error .cancelled, d.isCancelled, state⟩ := by
  cases hcontext : context.home with
  | error fault =>
    rw [hcontext] at hhome
    cases hhome
  | ok home => simp [handleDispatched, hcontext, h]

/-- **An invocation is told that it was cancelled if its dispatch was**, and then nothing is stored; of other losses
it is told nothing. -/
theorem handleDispatched_outcome (h : d.Counted) (store : Store σ) (context : InvocationContext) (now : Int)
    (state : σ) {handled : Handled σ} (hhandled : relay.handleDispatched store context now d state = some handled) :
    (∀ expected, handled.outcome ≠ .error (.resultsLost expected)) ∧
      (handled.outcome = .error .cancelled → (context.home.isOk = true ∧ d.result = some (.error .cancelled)) ∧
        handled.activities.filterMap Activity.put? = [] ∧ handled.state = state) := by
  unfold handleDispatched at hhandled
  cases hhome : context.home with
  | error fault =>
    rw [hhome] at hhandled
    rw [← Option.some.inj hhandled]
    exact by simp
  | ok home =>
    rw [hhome] at hhandled
    obtain ⟨result, hresult, hhandled⟩ := Option.map_eq_some_iff.1 hhandled
    obtain hr | hr | ⟨hr, -⟩ := h.result
    · cases hr.symm.trans hresult
    · obtain rfl := Option.some.inj (hresult.symm.trans hr)
      rw [← hhandled]
      obtain ⟨ids, hids⟩ | ⟨key, error, herror⟩ := outcome_conclude relay store home context.requestId now
        (d.messages.zip d.outcomes) d.isCancelled state
      · simp [Walk.prepend, hids]
      · simp [Walk.prepend, herror]
    · obtain rfl := Option.some.inj (hresult.symm.trans hr)
      rw [← hhandled]
      exact ⟨by simp, fun _ => ⟨⟨rfl, hresult⟩, h.puts, rfl⟩⟩

end Relay

namespace Dispatches

/-- What happens to dispatches that share permits. -/
inductive Event where
  /-- Another invocation brings messages. -/
  | arrive (messages : List Message)
  /-- One of the dispatches makes a step. -/
  | act (n : Nat) (action : Dispatch.Action)

/-- The state behind an event, `none` if it cannot happen. -/
def next? (relay : Relay) (s : Dispatches) : Event → Option Dispatches
  | .arrive messages => some (s.arrive messages)
  | .act n action => s.step? relay n action

/-- The state behind events in a row. -/
def play? (relay : Relay) : Dispatches → List Event → Option Dispatches
  | s, [] => some s
  | s, event :: rest => (s.next? relay event).bind fun s => play? relay s rest

/-- In the course of the events, an invocation looks for the next report and sees that it is cancelled, while reports
are outstanding. -/
def CutShort (relay : Relay) (s : Dispatches) (events : List Event) (n : Nat) : Prop :=
  ∃ before after t d, events = before ++ .act n .collect :: after ∧ s.play? relay before = some t ∧
    t.all[n]? = some d ∧ d.isCancelled = true ∧ d.collected < d.messages.length

variable {relay : Relay} {s t : Dispatches} {n : Nat} {action : Dispatch.Action} {event : Event}
  {events rest : List Event}

theorem play?_append : ∀ (events : List Event) (s : Dispatches),
    s.play? relay (events ++ rest) = (s.play? relay events).bind fun t => t.play? relay rest
  | [], s => rfl
  | event :: events, s => by
    simp only [List.cons_append, play?, Option.bind_assoc]
    congr 1
    funext t
    exact play?_append events t

/-- A step changes one dispatch. -/
theorem step?_eq_some (h : s.step? relay n action = some t) :
    ∃ d d', s.all[n]? = some d ∧ Dispatch.Change (s.permits - s.atWork) d action d' ∧
      t = { s with all := s.all.set n d' } := by
  obtain ⟨d, hd, h⟩ := Option.bind_eq_some_iff.1 h
  obtain ⟨d', hd', h⟩ := Option.bind_eq_some_iff.1 h
  exact ⟨d, d', hd, Dispatch.step?_sound hd', (Option.some.inj h).symm⟩

theorem atWork_eq_sum (s : Dispatches) : s.atWork = (s.all.map Dispatch.atWork).sum := by
  rw [atWork, List.countP_flatMap]
  rfl

/-- **What dispatches keep that share permits.** -/
structure Orderly (s : Dispatches) : Prop where
  atWork_le : s.atWork ≤ s.permits
  counted : ∀ (n : Nat) d, s.all[n]? = some d → d.Counted

theorem orderly_start (permits : Nat) : Orderly ⟨permits, []⟩ where
  atWork_le := Nat.zero_le _
  counted _ _ h := by cases h

namespace Orderly

theorem arrive (h : Orderly s) (messages : List Message) : Orderly (s.arrive messages) where
  atWork_le := by
    have hzero : (Dispatch.start messages).atWork = 0 := List.countP_eq_zero.2 fun task ht => by
      obtain ⟨_, _, rfl⟩ := List.mem_map.1 ht
      decide
    have hle := h.atWork_le
    rw [atWork_eq_sum] at hle ⊢
    simpa [Dispatches.arrive, hzero] using hle
  counted n d hd := by
    rcases List.mem_append.1 (List.mem_of_getElem? hd) with hold | hnew
    · obtain ⟨m, hm⟩ := List.mem_iff_getElem?.1 hold
      exact h.counted m d hm
    · exact List.mem_singleton.1 hnew ▸ Dispatch.counted_start messages

theorem step (h : Orderly s) (hstep : s.step? relay n action = some t) : Orderly t := by
  obtain ⟨d, d', hd, hchange, rfl⟩ := step?_eq_some hstep
  constructor
  · have hsum := sum_map_set Dispatch.atWork hd d'
    have hle := h.atWork_le
    have hchange := hchange.atWork_le
    simp only [atWork_eq_sum] at hle hchange ⊢
    omega
  · intro m e he
    by_cases hm : n = m
    · subst hm
      obtain ⟨hlt, -⟩ := List.getElem?_eq_some_iff.1 hd
      rw [List.getElem?_set_self hlt] at he
      exact Option.some.inj he ▸ (h.counted n d hd).change hchange
    · rw [List.getElem?_set_ne hm] at he
      exact h.counted m e he

/-- Every event keeps dispatches orderly, and the number of permits. -/
theorem next (h : Orderly s) (hnext : s.next? relay event = some t) : Orderly t ∧ t.permits = s.permits := by
  cases event with
  | arrive messages =>
    rw [← Option.some.inj hnext]
    exact ⟨h.arrive messages, rfl⟩
  | act n action =>
    have hpermits : t.permits = s.permits := by
      obtain ⟨d, d', hd, hchange, rfl⟩ := step?_eq_some hnext
      rfl
    exact ⟨h.step hnext, hpermits⟩

theorem play : ∀ {events : List Event} {s : Dispatches}, Orderly s → s.play? relay events = some t →
    Orderly t ∧ t.permits = s.permits
  | [], s, h, hplay => by
    rw [← Option.some.inj hplay]
    exact ⟨h, rfl⟩
  | event :: events, s, h, hplay => by
    obtain ⟨u, hnext, hrest⟩ := Option.bind_eq_some_iff.1 hplay
    obtain ⟨hu, hpermits⟩ := h.next hnext
    obtain ⟨ht, hpermits'⟩ := hu.play hrest
    exact ⟨ht, hpermits'.trans hpermits⟩

/-- **While an invocation has no result, something can happen** that is not a cancellation: whoever has a permit can
go on, and if nobody has one, the invocation itself can. -/
theorem exists_step (relay : Relay) (hpermits : 0 < s.permits) (h : Orderly s) {d : Dispatch} (hd : s.all[n]? = some d)
    (hr : d.result = none) : ∃ m action, action ≠ .cancel ∧ (s.step? relay m action).isSome = true := by
  have hstep : ∀ {m : Nat} {e : Dispatch} {action : Dispatch.Action}, s.all[m]? = some e →
      (e.step? relay (s.permits - s.atWork) action).isSome = true → (s.step? relay m action).isSome = true := by
    intro m e action he hsome
    obtain ⟨e', he'⟩ := Option.isSome_iff_exists.1 hsome
    simp [step?, he, he']
  by_cases hany : ∃ e ∈ s.all, ∃ task ∈ e.tasks, task.isAtWork = true
  · obtain ⟨e, he, task, ht, hwork⟩ := hany
    obtain ⟨m, hm⟩ := List.mem_iff_getElem?.1 he
    obtain ⟨i, hi⟩ := List.mem_iff_getElem?.1 ht
    obtain ⟨action, hne, hsome⟩ := Dispatch.exists_step_of_isAtWork relay (s.permits - s.atWork) hi hwork
    exact ⟨m, action, hne, hstep hm hsome⟩
  · push Not at hany
    have hidle : ∀ e ∈ s.all, ∀ task ∈ e.tasks, task.isAtWork = false := by simpa using hany
    have hzero : s.atWork = 0 := List.countP_eq_zero.2 fun task ht => by
      obtain ⟨e, he, hmem⟩ := List.mem_flatMap.1 ht
      simp [hidle e he task hmem]
    have hfree : s.permits - s.atWork ≠ 0 := by omega
    obtain ⟨action, hne, hsome⟩ := Dispatch.exists_step_of_idle relay hfree (h.counted n d hd) hr
      (hidle d (List.mem_of_getElem? hd))
    exact ⟨n, action, hne, hstep hd hsome⟩

end Orderly

/-! ## Who is told of a cancellation -/

/-- An invocation that has been told something is not told anything else. -/
theorem result_next {result : Except InvocationError (List (Option MessageError))}
    (hnext : s.next? relay event = some t) (h : ∃ d, s.all[n]? = some d ∧ d.result = some result) :
    ∃ d, t.all[n]? = some d ∧ d.result = some result := by
  obtain ⟨d, hd, hr⟩ := h
  obtain ⟨hlt, -⟩ := List.getElem?_eq_some_iff.1 hd
  cases event with
  | arrive messages =>
    rw [← Option.some.inj hnext]
    exact ⟨d, (List.getElem?_append_left hlt).trans hd, hr⟩
  | act m action =>
    obtain ⟨e, e', he, hchange, rfl⟩ := step?_eq_some hnext
    by_cases hm : m = n
    · subst hm
      obtain rfl := Option.some.inj (hd.symm.trans he)
      exact ⟨e', List.getElem?_set_self hlt, hchange.result_eq hr⟩
    · exact ⟨d, (List.getElem?_set_ne hm).trans hd, hr⟩

theorem result_play {result : Except InvocationError (List (Option MessageError))} :
    ∀ {events : List Event} {s : Dispatches}, s.play? relay events = some t →
    (∃ d, s.all[n]? = some d ∧ d.result = some result) → ∃ d, t.all[n]? = some d ∧ d.result = some result
  | [], s, hplay, h => Option.some.inj hplay ▸ h
  | event :: events, s, hplay, h => by
    obtain ⟨u, hnext, hrest⟩ := Option.bind_eq_some_iff.1 hplay
    exact result_play hrest (result_next hnext h)

/-- The event at which an invocation is told that it was cancelled. -/
theorem eq_act_collect (hs : Orderly s) (hnext : s.next? relay event = some t)
    (h : ∃ d, t.all[n]? = some d ∧ d.result = some (.error .cancelled))
    (hnew : ¬ ∃ d, s.all[n]? = some d ∧ d.result = some (.error .cancelled)) :
    event = .act n .collect ∧
      ∃ d, s.all[n]? = some d ∧ d.isCancelled = true ∧ d.collected < d.messages.length := by
  obtain ⟨d', hd', hr⟩ := h
  cases event with
  | arrive messages =>
    rw [← Option.some.inj hnext] at hd'
    by_cases hlt : n < s.all.length
    · exact absurd ⟨d', (List.getElem?_append_left hlt).symm.trans hd', hr⟩ hnew
    · have hmem : d' ∈ [Dispatch.start messages] :=
        List.mem_of_getElem? ((List.getElem?_append_right (Nat.le_of_not_lt hlt)).symm.trans hd')
      rw [List.mem_singleton.1 hmem] at hr
      cases hr
  | act m action =>
    obtain ⟨d, e, hd, hchange, rfl⟩ := step?_eq_some hnext
    by_cases hm : m = n
    · subst hm
      obtain ⟨hlt, -⟩ := List.getElem?_eq_some_iff.1 hd
      obtain rfl := Option.some.inj ((List.getElem?_set_self hlt).symm.trans hd')
      obtain ⟨rfl, hc, hsome⟩ := hchange.eq_collect hr fun hold => hnew ⟨d, hd, hold⟩
      exact ⟨rfl, d, hd, hc, Nat.lt_of_le_of_ne (hs.counted m d hd).collected_le hsome⟩
    · exact absurd ⟨d', (List.getElem?_set_ne hm).symm.trans hd', hr⟩ hnew

theorem cutShort_of_result : ∀ {events : List Event} {s : Dispatches}, Orderly s → s.play? relay events = some t →
    (∃ d, t.all[n]? = some d ∧ d.result = some (.error .cancelled)) →
    (¬ ∃ d, s.all[n]? = some d ∧ d.result = some (.error .cancelled)) → CutShort relay s events n
  | [], s, _, hplay, h, hnew => absurd (Option.some.inj hplay ▸ h) hnew
  | event :: events, s, hs, hplay, h, hnew => by
    obtain ⟨u, hnext, hrest⟩ := Option.bind_eq_some_iff.1 hplay
    by_cases hu : ∃ d, u.all[n]? = some d ∧ d.result = some (.error .cancelled)
    · obtain ⟨rfl, d, hd, hc, hlt⟩ := eq_act_collect hs hnext hu hnew
      exact ⟨[], events, s, d, rfl, rfl, hd, hc, hlt⟩
    · obtain ⟨before, after, v, d, rfl, hbefore, hv⟩ := cutShort_of_result (hs.next hnext).1 hrest h hu
      exact ⟨event :: before, after, v, d, rfl, Option.bind_eq_some_iff.2 ⟨u, hnext, hbefore⟩, hv⟩

theorem CutShort.result (h : CutShort relay s events n) (hplay : s.play? relay events = some t) :
    ∃ d, t.all[n]? = some d ∧ d.result = some (.error .cancelled) := by
  obtain ⟨before, after, u, d, rfl, hbefore, hd, hc, hlt⟩ := h
  rw [play?_append, hbefore, Option.bind_some] at hplay
  obtain ⟨v, hnext, hafter⟩ := Option.bind_eq_some_iff.1 hplay
  obtain ⟨e, e', he, hchange, rfl⟩ := step?_eq_some hnext
  obtain rfl := Option.some.inj (hd.symm.trans he)
  obtain ⟨hn, -⟩ := List.getElem?_eq_some_iff.1 hd
  exact result_play hafter ⟨e', List.getElem?_set_self hn, hchange.result_cancelled hc hlt⟩

/-- **No report is lost, and permits are kept to.**  Whatever invocations arrive and however their tasks take turns and
are cancelled, as many messages are handled at once as there are permits, at most, and while an invocation has no
result, something can happen.  An invocation never misses reports; it says that it was cancelled exactly if it looked
for a report, saw the cancellation and had not taken all of them, and then it has not stored an audit log. -/
theorem no_report_lost (relay : Relay) (permits : Nat) (hpermits : 0 < permits) (events : List Event) (s : Dispatches)
    (hplay : (Dispatches.mk permits []).play? relay events = some s) :
    s.atWork ≤ permits ∧
    ∀ (n : Nat) (d : Dispatch), s.all[n]? = some d →
      (d.result = none → ∃ m action, action ≠ .cancel ∧ (s.step? relay m action).isSome = true) ∧
      ∀ {σ : Type} (store : Store σ) (context : InvocationContext) (now : Int) (state : σ),
        ((∃ handled, relay.handleDispatched store context now d state = some handled ∧
            handled.outcome = .error .cancelled) ↔
          context.home.isOk = true ∧ CutShort relay ⟨permits, []⟩ events n) ∧
        ∀ handled, relay.handleDispatched store context now d state = some handled →
          (∀ expected, handled.outcome ≠ .error (.resultsLost expected)) ∧
          (handled.outcome = .error .cancelled →
            handled.activities.filterMap Activity.put? = [] ∧ handled.state = state) := by
  have hstart : Orderly ⟨permits, []⟩ := orderly_start permits
  obtain ⟨hs, rfl⟩ := hstart.play hplay
  refine ⟨hs.atWork_le, fun n d hd => ⟨hs.exists_step relay hpermits hd, fun store context now state => ?_⟩⟩
  refine ⟨⟨?_, ?_⟩, ?_⟩
  · rintro ⟨handled, hhandled, houtcome⟩
    obtain ⟨-, htold⟩ := Relay.handleDispatched_outcome (hs.counted n d hd) store context now state hhandled
    obtain ⟨⟨hhome, hr⟩, -⟩ := htold houtcome
    exact ⟨hhome, cutShort_of_result hstart hplay ⟨d, hd, hr⟩ nofun⟩
  · rintro ⟨hhome, hcut⟩
    obtain ⟨e, he, hr⟩ := hcut.result hplay
    obtain rfl := Option.some.inj (hd.symm.trans he)
    exact ⟨_, Relay.handleDispatched_cancelled store hhome now state hr, rfl⟩
  · intro handled hhandled
    obtain ⟨hlost, htold⟩ := Relay.handleDispatched_outcome (hs.counted n d hd) store context now state hhandled
    exact ⟨hlost, fun houtcome => (htold houtcome).2⟩

/-- Two invocations share a permit.  The second one is cancelled while it waits for the permit, and looks. -/
def cancelledWaiting : List Event :=
  [.arrive Relay.twoMessages, .arrive Relay.twoMessages, .act 0 (.begin 0), .act 1 .cancel, .act 1 (.giveUp 1)]

theorem no_report_lost_cancelledWaiting : ∃ s d handled,
    (Dispatches.mk 1 []).play? Relay.openRelay (cancelledWaiting ++ [.act 1 .collect]) = some s ∧ s.atWork ≤ 1 ∧
    s.all[1]? = some d ∧
    Relay.openRelay.handleDispatched (.answering Relay.refuseX fun _ => .ok ()) Relay.someContext 0 d () =
      some handled ∧
    handled.outcome = .error .cancelled ∧ handled.activities.filterMap Activity.put? = [] := by
  have hbefore : ((Dispatches.mk 1 []).play? Relay.openRelay cancelledWaiting).bind (fun t => t.all[1]?.map fun d =>
      (d.isCancelled, d.collected, d.messages.length)) = some (true, 0, 2) := by decide
  have hafter : ((Dispatches.mk 1 []).play? Relay.openRelay (cancelledWaiting ++ [.act 1 .collect])).bind
      (fun s => s.all[1]?.map fun _ => ()) = some () := by decide
  obtain ⟨t, ht, hshown⟩ := Option.bind_eq_some_iff.1 hbefore
  obtain ⟨e, he, hshown⟩ := Option.map_eq_some_iff.1 hshown
  obtain ⟨hc, hcollected, hlength⟩ : e.isCancelled = true ∧ e.collected = 0 ∧ e.messages.length = 2 := by
    simpa using hshown
  obtain ⟨s, hs, hshown⟩ := Option.bind_eq_some_iff.1 hafter
  obtain ⟨d, hd, -⟩ := Option.map_eq_some_iff.1 hshown
  have hhome : Relay.someContext.home.isOk = true := by decide
  have hcut : CutShort Relay.openRelay ⟨1, []⟩ (cancelledWaiting ++ [.act 1 .collect]) 1 :=
    ⟨cancelledWaiting, [], t, e, rfl, ht, he, hc, by omega⟩
  obtain ⟨hwork, hall⟩ := no_report_lost Relay.openRelay 1 (by decide) _ s hs
  obtain ⟨-, hanswer⟩ := hall 1 d hd
  obtain ⟨htold, hrest⟩ := hanswer (.answering Relay.refuseX fun _ => .ok ()) Relay.someContext 0 ()
  obtain ⟨handled, hhandled, houtcome⟩ := htold.2 ⟨hhome, hcut⟩
  exact ⟨s, d, handled, hs, hwork, hd, hhandled, houtcome, ((hrest handled hhandled).2 houtcome).1⟩

end Dispatches
end ObjectRelay

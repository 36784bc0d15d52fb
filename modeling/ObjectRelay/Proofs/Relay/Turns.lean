import ObjectRelay.Proofs.Lists
import ObjectRelay.Proofs.Relay.Sequential
import ObjectRelay.Relay.Dispatch
/-!
# Dispatches that nobody cancels

When nobody cancels and the store answers a request always alike, a step of a dispatch is told by whose turn it is
(`Turn`).  What a task still has to do is what is left of handling its message alone (`left`), and every step of a
task does a first part of that: `Outcome` lists the five things that a turn can come to, and
`turn?_sound` is the only proof that opens the steps of a dispatch.
-/
namespace ObjectRelay
namespace Dispatch

variable (relay : Relay) (copier : CopyRequest → Except StorageError Unit)
  (putter : PutRequest → Except StorageError Unit)

/-- Who makes the next step. -/
inductive Turn where
  | begin (i : Nat)
  | look (i : Nat)
  /-- The store answers a task. -/
  | answer (i : Nat)
  | report (i : Nat)
  | collect
deriving DecidableEq, Repr

/-- What the store answers a task. -/
def answerFor (d : Dispatch) (i : Nat) : StoreAnswer :=
  match d.tasks[i]? with
  | some (.copying _ op _) => { result := copier { operation := op } }
  | _ => {}

/-- The step of a turn. -/
def Turn.action (d : Dispatch) : Turn → Action
  | .begin i => .begin i
  | .look i => .look i
  | .answer i => .answer i (d.answerFor copier i)
  | .report i => .report i
  | .collect => .collect

/-- The state behind a turn with a number of permits, `none` if there is nothing to do. -/
def turn? (permits : Nat) (d : Dispatch) (turn : Turn) : Option Dispatch :=
  d.step? relay (permits - d.atWork) (turn.action copier d)

/-- The state behind turns in a row. -/
def play? (permits : Nat) : Dispatch → List Turn → Option Dispatch
  | d, [] => some d
  | d, turn :: rest => (d.turn? relay copier permits turn).bind fun d => play? permits d rest

/-- What is left of handling a message alone, where its task stands. -/
def left (message : Message) : MessageTask → Walk Unit (Option MessageError)
  | .waiting => relay.alone copier putter message
  | .looking records => relay.walkAlone copier putter records
  | .copying uri op rest => relay.walkCopying copier putter uri op rest
  | .finishing outcome => ⟨[], outcome, false, ()⟩
  | .ended => ⟨[], (relay.alone copier putter message).outcome, false, ()⟩

/-- How many steps a task still has to make, and one more for its report. -/
def taskWork (message : Message) : MessageTask → Nat
  | .waiting => 2 * (Notification.copyRecords message.body).length + 4
  | .looking records => 2 * records.length + 3
  | .copying _ _ rest => 2 * rest.length + 4
  | .finishing _ => 2
  | .ended => 0

/-- **What a turn can come to.** -/
inductive Outcome (d : Dispatch) : Dispatch → Prop
  /-- A task does a first part of what is left to it. -/
  | moved (i message task task' activities) (hm : d.messages[i]? = some message) (ht : d.tasks[i]? = some task)
      (hne : task ≠ .ended) (hne' : task' ≠ .ended)
      (hleft : left relay copier putter message task =
        (left relay copier putter message task').prepend activities)
      (hwork : taskWork message task' < taskWork message task) :
      Outcome d ((d.note activities).setTask i task')
  | reported (i outcome) (ht : d.tasks[i]? = some (.finishing outcome)) :
      Outcome d ({ d with reports := d.reports ++ [(i, outcome)] }.setTask i .ended)
  | collected (i outcome reports) (hr : d.result = none) (hc : d.collected ≠ d.messages.length)
      (hreports : d.reports = (i, outcome) :: reports) :
      Outcome d { d with reports, collected := d.collected + 1, outcomes := d.outcomes.set i outcome }
  | finished (hr : d.result = none) (hc : d.collected = d.messages.length) :
      Outcome d { d with result := some (.ok d.outcomes) }
  | lost (hr : d.result = none) (hc : d.collected ≠ d.messages.length) (hreports : d.reports = [])
      (hall : ∀ task ∈ d.tasks, task = .ended) :
      Outcome d { d with result := some (.error (.resultsLost d.messages.length)) }

variable {relay copier putter} {permits : Nat} {d d' : Dispatch} {i : Nat}

theorem note_nil (d : Dispatch) : d.note [] = d := by rw [note, List.append_nil]

/-- A task goes on without doing anything that shows. -/
theorem Outcome.quiet {message : Message} {task task' : MessageTask} (hm : d.messages[i]? = some message)
    (ht : d.tasks[i]? = some task) (hne : task ≠ .ended) (hne' : task' ≠ .ended)
    (hleft : left relay copier putter message task = left relay copier putter message task')
    (hwork : taskWork message task' < taskWork message task) :
    Outcome relay copier putter d (d.setTask i task') := by
  have h := Outcome.moved i message task task' [] hm ht hne hne' hleft hwork
  rwa [note_nil] at h

theorem outcome_begin (h : d.begin? i = some d') : Outcome relay copier putter d d' := by
  unfold begin? at h
  split at h
  · rename_i message hc hm ht
    refine Option.some.inj h ▸ .quiet hm ht nofun nofun rfl ?_
    simp only [taskWork]
    omega
  · cases h

/-- A task looks at an object, or finds that there are no more. -/
theorem outcome_look {message : Message} (hm : d.messages[i]? = some message) (h : d.look? relay i = some d') :
    Outcome relay copier putter d d' := by
  unfold look? at h
  split at h
  · rename_i ht
    refine Option.some.inj h ▸ .quiet hm ht nofun nofun rfl ?_
    simp [taskWork]
  · rename_i record rest ht
    have hwork : ∀ n ≤ 2 * rest.length + 4, n < taskWork message (.looking (record :: rest)) := fun n hn => by
      simp only [taskWork, List.length_cons]
      omega
    rw [← Option.some.inj h]
    cases htreat : relay.treat record with
    | unreadable error =>
      refine .quiet hm ht nofun nofun (relay.walkAlone_unreadable copier putter htreat rest) (hwork _ ?_)
      simp only [taskWork]
      omega
    | skipped source reason =>
      refine .moved i message _ (.looking rest) _ hm ht nofun nofun
        (relay.walkAlone_skipped copier putter htreat rest) (hwork _ ?_)
      simp only [taskWork]
      omega
    | copied op =>
      exact .moved i message _ (.copying record.uri op rest) _ hm ht nofun nofun
        (relay.walkAlone_copied copier putter htreat rest) (hwork _ (Nat.le_refl _))
  · cases h

theorem outcome_answer {message : Message} (hm : d.messages[i]? = some message)
    (h : d.answer? i (d.answerFor copier i) = some d') : Outcome relay copier putter d d' := by
  unfold answer? at h
  split at h
  · rename_i uri op rest ht
    have hanswer : d.answerFor copier i = { result := copier { operation := op } } := by rw [answerFor, ht]
    rw [hanswer] at h
    simp only [Bool.or_false] at h
    rw [← Option.some.inj h]
    have hne : MessageTask.copying uri op rest ≠ .ended := fun h => by cases h
    cases hresult : copier { operation := op } with
    | error error =>
      refine .quiet hm ht hne (fun h => by cases h) ?_ ?_
      · simp only [left, Relay.walkCopying, hresult]
      · simp [taskWork]
    | ok u =>
      refine .quiet hm ht hne (fun h => by cases h) ?_ ?_
      · simp only [left, Relay.walkCopying, hresult]
      · simp [taskWork]
  · cases h

theorem outcome_collect (hc : d.isCancelled = false) (h : d.collect? = some d') :
    Outcome relay copier putter d d' := by
  unfold collect? at h
  split at h
  · cases h
  rename_i hr
  have hr : d.result = none := by simpa using hr
  split at h
  · rename_i hall
    exact Option.some.inj h ▸ .finished hr hall
  rename_i hsome
  rw [if_neg (by simp [hc])] at h
  split at h
  · rename_i i outcome reports hreports
    exact Option.some.inj h ▸ .collected i outcome reports hr hsome hreports
  · rename_i hreports
    split at h
    · rename_i hended
      refine Option.some.inj h ▸ .lost hr hsome hreports fun task ht => ?_
      simpa using List.all_eq_true.1 hended task ht
    · cases h

variable (putter) in
/-- **A turn comes to one of the five things.** -/
theorem turn?_sound (hlength : d.tasks.length = d.messages.length) (hc : d.isCancelled = false) {turn : Turn}
    (h : d.turn? relay copier permits turn = some d') : Outcome relay copier putter d d' := by
  have hmessage : ∀ {j : Nat} {task}, d.tasks[j]? = some task → ∃ message, d.messages[j]? = some message := by
    intro j task ht
    obtain ⟨hlt, -⟩ := List.getElem?_eq_some_iff.1 ht
    exact ⟨_, List.getElem?_eq_getElem (hlength ▸ hlt)⟩
  cases turn with
  | begin i =>
    simp only [turn?, Turn.action, step?] at h
    split at h
    · cases h
    · exact outcome_begin h
  | look i =>
    have hlook : d.look? relay i = some d' := h
    cases ht : d.tasks[i]? with
    | none => simp [look?, ht] at hlook
    | some task =>
      obtain ⟨message, hm⟩ := hmessage ht
      exact outcome_look hm hlook
  | answer i =>
    have hanswer : d.answer? i (d.answerFor copier i) = some d' := h
    cases ht : d.tasks[i]? with
    | none => simp [answer?, ht] at hanswer
    | some task =>
      obtain ⟨message, hm⟩ := hmessage ht
      exact outcome_answer hm hanswer
  | report i =>
    have hreport : d.report? i = some d' := h
    unfold report? at hreport
    split at hreport
    · rename_i outcome ht
      exact Option.some.inj hreport ▸ .reported i outcome ht
    · cases hreport
  | collect => exact outcome_collect hc h

/-! ## Dispatches come to an end -/

/-- A task that has a permit can go on. -/
theorem exists_turn_of_isAtWork {task : MessageTask} (ht : d.tasks[i]? = some task) (hwork : task.isAtWork = true) :
    ∃ turn, (d.turn? relay copier permits turn).isSome = true := by
  cases task with
  | looking records =>
    cases records with
    | nil => exact ⟨.look i, by simp [turn?, Turn.action, step?, look?, ht]⟩
    | cons record rest => exact ⟨.look i, by simp [turn?, Turn.action, step?, look?, ht]⟩
  | copying uri op rest => exact ⟨.answer i, by simp [turn?, Turn.action, step?, answer?, ht]⟩
  | finishing outcome => exact ⟨.report i, by simp [turn?, Turn.action, step?, report?, ht]⟩
  | waiting | ended => cases hwork

/-- **A dispatch without a result can go on**, if there is a permit at all. -/
theorem exists_turn (hpermits : 0 < permits) (hlength : d.tasks.length = d.messages.length)
    (hc : d.isCancelled = false) (hr : d.result = none) :
    ∃ turn, (d.turn? relay copier permits turn).isSome = true := by
  by_cases hany : d.tasks.any MessageTask.isAtWork = true
  · obtain ⟨task, hmem, hwork⟩ := List.any_eq_true.1 hany
    obtain ⟨i, ht⟩ := List.mem_iff_getElem?.1 hmem
    exact exists_turn_of_isAtWork ht hwork
  have hnone : ∀ task ∈ d.tasks, task.isAtWork = false := by simpa using hany
  by_cases hended : ∀ task ∈ d.tasks, task = .ended
  · -- nobody will report any more: the invocation takes the next report, or ends
    refine ⟨.collect, ?_⟩
    have hall : d.tasks.all (· == .ended) = true := List.all_eq_true.2 fun task ht => by simp [hended task ht]
    simp only [turn?, Turn.action, step?, collect?, hr, hc, hall, Option.isSome_none, Bool.false_eq_true, if_false]
    split
    · rfl
    · cases d.reports <;> rfl
  · push Not at hended
    obtain ⟨task, hmem, hne⟩ := hended
    obtain ⟨i, ht⟩ := List.mem_iff_getElem?.1 hmem
    obtain rfl : task = .waiting := by
      have hidle := hnone task hmem
      cases task <;> first | rfl | exact absurd rfl hne | cases hidle
    obtain ⟨hlt, -⟩ := List.getElem?_eq_some_iff.1 ht
    have hfree : permits - d.atWork ≠ 0 := by
      have hzero : d.atWork = 0 := List.countP_eq_zero.2 fun task h => by simp [hnone task h]
      omega
    refine ⟨.begin i, ?_⟩
    simp [turn?, Turn.action, step?, begin?, hfree, hc, ht, List.getElem?_eq_getElem (hlength ▸ hlt)]

/-- **What is left to do** in a dispatch: steps of tasks, reports to take, and the result. -/
def work (d : Dispatch) : Nat :=
  ((d.messages.zip d.tasks).map fun p => taskWork p.1 p.2).sum + d.reports.length +
    d.result.elim 1 fun _ => 0

theorem work_start (messages : List Message) : (start messages).work =
    (messages.map fun m => 2 * (Notification.copyRecords m.body).length + 4).sum + 1 := by
  simp only [work, start, zip_map_self, List.map_map]
  rfl

theorem sum_setTask {message : Message} {task : MessageTask} (hm : d.messages[i]? = some message)
    (ht : d.tasks[i]? = some task) (task' : MessageTask) :
    ((d.messages.zip (d.tasks.set i task')).map fun p => taskWork p.1 p.2).sum + taskWork message task =
      ((d.messages.zip d.tasks).map fun p => taskWork p.1 p.2).sum + taskWork message task' := by
  rw [zip_set hm]
  exact sum_map_set (fun p : Message × MessageTask => taskWork p.1 p.2) (getElem?_zip_of_getElem? hm ht)
    (message, task')

/-- **Every turn uses work up.** -/
theorem Outcome.work_lt (hlength : d.tasks.length = d.messages.length)
    (h : Outcome relay copier putter d d') : d'.work < d.work := by
  cases h with
  | moved i message task task' activities hm ht hne hne' hleft hwork =>
    have hsum := sum_setTask hm ht task'
    simp only [work, setTask, note]
    omega
  | reported i outcome ht =>
    obtain ⟨hlt, -⟩ := List.getElem?_eq_some_iff.1 ht
    have hm := List.getElem?_eq_getElem (hlength ▸ hlt : i < d.messages.length)
    have hsum := sum_setTask hm ht .ended
    have hfinishing : taskWork d.messages[i] (.finishing outcome) = 2 := rfl
    have hended : taskWork d.messages[i] .ended = 0 := rfl
    simp only [work, setTask, List.length_append, List.length_singleton]
    omega
  | collected i outcome reports hr hc hreports =>
    simp only [work, hreports, List.length_cons]
    omega
  | finished hr hc => simp only [work, hr, Option.elim]; omega
  | lost hr hc hreports hall => simp only [work, hr, Option.elim]; omega

end Dispatch
end ObjectRelay

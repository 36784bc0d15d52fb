import ObjectRelay.Proofs.Relay.Turns
import Mathlib.Data.List.Range
/-!
# Reports are put back into order

Tasks report in whatever order they end.  `Sound` says what holds all the while: every task is somewhere in handling
its own message alone, every report is what its message comes to alone, and the places that have been taken note
of, together with those that are reported, are exactly those of the tasks that have ended, each once (`Taken`).
So when as many reports have been taken as there are messages, every place has been filled with its own outcome.
-/
namespace ObjectRelay
namespace Dispatch

variable (relay : Relay) (copier : CopyRequest → Except StorageError Unit)
  (putter : PutRequest → Except StorageError Unit)

/-- What the messages come to when each is handled alone. -/
def expected (messages : List Message) : List (Option MessageError) :=
  messages.map fun m => (relay.alone copier putter m).outcome

/-- **Which places the invocation has taken note of.** -/
structure Taken (messages : List Message) (taken : List Nat) (d : Dispatch) : Prop where
  nodup : (taken ++ d.reports.map (·.1)).Nodup
  mem_iff : ∀ i, i ∈ taken ++ d.reports.map (·.1) ↔ d.tasks[i]? = some .ended
  length_eq : taken.length = d.collected
  outcomes : ∀ (i : Nat) message, messages[i]? = some message →
    d.outcomes[i]? = some (if i ∈ taken then (relay.alone copier putter message).outcome else none)

/-- **What every state of a dispatch has** that nobody cancels. -/
structure Sound (messages : List Message) (d : Dispatch) : Prop where
  messages_eq : d.messages = messages
  length_tasks : d.tasks.length = messages.length
  length_outcomes : d.outcomes.length = messages.length
  not_cancelled : d.isCancelled = false
  left_outcome : ∀ (i : Nat) message task, messages[i]? = some message → d.tasks[i]? = some task →
    (left relay copier putter message task).outcome = (relay.alone copier putter message).outcome
  reports_outcome : ∀ (i : Nat) outcome message, (i, outcome) ∈ d.reports → messages[i]? = some message →
    outcome = (relay.alone copier putter message).outcome
  activities_perm : (d.activities ++
    (messages.zip d.tasks).flatMap fun p => (left relay copier putter p.1 p.2).activities).Perm
    (messages.flatMap fun m => (relay.alone copier putter m).activities)
  taken : ∃ taken, Taken relay copier putter messages taken d
  result : ∀ result, d.result = some result →
    result = .ok (expected relay copier putter messages) ∧ ∀ task ∈ d.tasks, task = .ended

variable {relay copier putter} {messages : List Message} {taken : List Nat} {d d' : Dispatch} {i : Nat}

theorem sound_start (messages : List Message) : Sound relay copier putter messages (start messages) where
  messages_eq := rfl
  length_tasks := List.length_map _
  length_outcomes := List.length_map _
  not_cancelled := rfl
  left_outcome i message task _ ht := by
    rw [start, List.getElem?_map, Option.map_eq_some_iff] at ht
    obtain ⟨_, _, rfl⟩ := ht
    rfl
  reports_outcome _ _ _ h := nomatch h
  activities_perm := by
    simp only [start, zip_map_self, List.flatMap_map, List.nil_append]
    exact .refl _
  taken := by
    refine ⟨[], List.nodup_nil, fun i => ?_, rfl, fun i message hm => ?_⟩
    · simp [start, List.getElem?_replicate]
    · obtain ⟨hlt, -⟩ := List.getElem?_eq_some_iff.1 hm
      simp [start, hlt]
  result _ h := nomatch h

namespace Taken

/-- When as many places have been taken note of as there are messages, every task has ended. -/
theorem all_of_length (h : Taken relay copier putter messages taken d) (hlength : d.tasks.length = messages.length)
    (hall : d.collected = messages.length) : ∀ i < messages.length, i ∈ taken := by
  have hsubset : taken ⊆ List.range messages.length := fun i hi => by
    obtain ⟨hlt, -⟩ := List.getElem?_eq_some_iff.1 ((h.mem_iff i).1 (List.mem_append_left _ hi))
    exact List.mem_range.2 (hlength ▸ hlt)
  have hperm : taken.Perm (List.range messages.length) :=
    (List.subperm_of_subset (List.nodup_append.1 h.nodup |>.1) hsubset).perm_of_length_le
      (by rw [List.length_range, h.length_eq, hall])
  exact fun i hi => hperm.mem_iff.2 (List.mem_range.2 hi)

/-- When nobody will report any more, nothing has been lost. -/
theorem length_of_all (h : Taken relay copier putter messages taken d) (hlength : d.tasks.length = messages.length)
    (hreports : d.reports = []) (hall : ∀ task ∈ d.tasks, task = .ended) : d.collected = messages.length := by
  have hnodup := h.nodup
  have hmem := h.mem_iff
  simp only [hreports, List.map_nil, List.append_nil] at hnodup hmem
  have hperm : taken.Perm (List.range messages.length) := by
    refine (List.perm_ext_iff_of_nodup hnodup List.nodup_range).2 fun i => ?_
    rw [hmem i, List.mem_range, ← hlength]
    constructor
    · intro ht
      exact (List.getElem?_eq_some_iff.1 ht).1
    · intro hlt
      rw [List.getElem?_eq_getElem hlt, hall _ (List.getElem_mem hlt)]
  rw [← h.length_eq, hperm.length_eq, List.length_range]

/-- A task goes on: no place changes. -/
theorem moved (h : Taken relay copier putter messages taken d) {task task' : MessageTask}
    (ht : d.tasks[i]? = some task) (hne : task ≠ .ended) (hne' : task' ≠ .ended) (activities : List Activity) :
    Taken relay copier putter messages taken ((d.note activities).setTask i task') where
  nodup := h.nodup
  mem_iff j := by
    refine (h.mem_iff j).trans ?_
    obtain ⟨hlt, hget⟩ := List.getElem?_eq_some_iff.1 ht
    rw [setTask, note, List.getElem?_set]
    split
    · rename_i hij
      subst hij
      simp [hlt, hget, hne, hne']
    · rfl
  length_eq := h.length_eq
  outcomes := h.outcomes

/-- A task reports: its place is new. -/
theorem reported (h : Taken relay copier putter messages taken d) {outcome : Option MessageError}
    (ht : d.tasks[i]? = some (.finishing outcome)) :
    Taken relay copier putter messages taken
      ({ d with reports := d.reports ++ [(i, outcome)] }.setTask i .ended) where
  nodup := by
    have hnew : i ∉ taken ++ d.reports.map (·.1) := fun hi => by
      have hended := ht.symm.trans ((h.mem_iff i).1 hi)
      cases hended
    rw [setTask, List.map_append, ← List.append_assoc]
    refine List.nodup_append.2 ⟨h.nodup, by simp, fun a ha b hb hab => hnew ?_⟩
    obtain rfl : b = i := List.mem_singleton.1 hb
    exact hab ▸ ha
  mem_iff j := by
    obtain ⟨hlt, -⟩ := List.getElem?_eq_some_iff.1 ht
    rw [setTask, List.map_append, ← List.append_assoc, List.mem_append, h.mem_iff j, List.getElem?_set]
    split
    · rename_i hij
      simp [hij]
    · rename_i hij
      simp [Ne.symm hij]
  length_eq := h.length_eq
  outcomes := h.outcomes

/-- The next report is taken: its place is filled. -/
theorem collected (h : Taken relay copier putter messages taken d) {outcome : Option MessageError}
    {reports : List (Nat × Option MessageError)} (hreports : d.reports = (i, outcome) :: reports)
    (houtcome : ∀ message, messages[i]? = some message → outcome = (relay.alone copier putter message).outcome)
    (hlength : d.outcomes.length = messages.length) :
    Taken relay copier putter messages (taken ++ [i])
      { d with reports, collected := d.collected + 1, outcomes := d.outcomes.set i outcome } where
  nodup := by
    have hnodup := h.nodup
    rw [hreports, List.map_cons] at hnodup
    rwa [List.append_assoc, List.singleton_append]
  mem_iff j := by
    have hmem := h.mem_iff j
    rw [hreports, List.map_cons] at hmem
    rwa [List.append_assoc, List.singleton_append]
  length_eq := by rw [List.length_append, h.length_eq, List.length_singleton]
  outcomes j message hm := by
    have hj := h.outcomes j message hm
    rw [List.getElem?_set]
    split
    · rename_i hij
      subst hij
      obtain ⟨hlt, -⟩ := List.getElem?_eq_some_iff.1 hm
      rw [if_pos (hlength ▸ hlt), if_pos (List.mem_append_right _ List.mem_cons_self), houtcome message hm]
    · rename_i hij
      rw [hj]
      simp [Ne.symm hij]

end Taken

namespace Sound

variable (h : Sound relay copier putter messages d)
include h

/-- As long as a task has not ended there is no result. -/
theorem result_eq_none {task : MessageTask} (ht : d.tasks[i]? = some task) (hne : task ≠ .ended) :
    d.result = none := by
  cases hr : d.result with
  | none => rfl
  | some result => exact absurd ((h.result result hr).2 task (List.mem_of_getElem? ht)) hne

theorem left_outcome_set {message : Message} {task task' : MessageTask} (hm : messages[i]? = some message)
    (ht : d.tasks[i]? = some task)
    (hleft : (left relay copier putter message task').outcome = (left relay copier putter message task).outcome) :
    ∀ (j : Nat) m t, messages[j]? = some m → (d.tasks.set i task')[j]? = some t →
      (left relay copier putter m t).outcome = (relay.alone copier putter m).outcome := by
  intro j m t hmj htj
  rw [List.getElem?_set] at htj
  split at htj
  · rename_i hij
    subst hij
    obtain ⟨hlt, -⟩ := List.getElem?_eq_some_iff.1 ht
    rw [if_pos hlt] at htj
    obtain rfl := Option.some.inj htj
    obtain rfl := Option.some.inj (hm.symm.trans hmj)
    exact hleft.trans (h.left_outcome i message task hm ht)
  · exact h.left_outcome j m t hmj htj

theorem activities_perm_set {message : Message} {task task' : MessageTask} {activities : List Activity}
    (hm : messages[i]? = some message) (ht : d.tasks[i]? = some task)
    (hleft : (left relay copier putter message task).activities =
      activities ++ (left relay copier putter message task').activities) :
    (d.activities ++ activities ++
      (messages.zip (d.tasks.set i task')).flatMap fun p => (left relay copier putter p.1 p.2).activities).Perm
      (messages.flatMap fun m => (relay.alone copier putter m).activities) := by
  refine .trans ?_ h.activities_perm
  rw [List.append_assoc, zip_set hm]
  exact (perm_flatMap_set (fun p : Message × MessageTask => (left relay copier putter p.1 p.2).activities)
    (getElem?_zip_of_getElem? hm ht) hleft).append_left _

end Sound

/-- **Every turn keeps a dispatch sound.** -/
theorem Sound.step (h : Sound relay copier putter messages d) (hstep : Outcome relay copier putter d d') :
    Sound relay copier putter messages d' := by
  obtain ⟨taken, htaken⟩ := h.taken
  cases hstep with
  | moved i message task task' activities hm ht hne hne' hleft hwork =>
    rw [h.messages_eq] at hm
    refine { h with
      length_tasks := List.length_set.trans h.length_tasks
      left_outcome := h.left_outcome_set hm ht (congrArg Walk.outcome hleft).symm
      activities_perm := h.activities_perm_set hm ht (congrArg Walk.activities hleft)
      taken := ⟨taken, htaken.moved ht hne hne' activities⟩
      result := fun result hr => ?_ }
    exact nomatch (h.result_eq_none ht hne).symm.trans hr
  | reported i outcome ht =>
    obtain ⟨hlt, -⟩ := List.getElem?_eq_some_iff.1 ht
    obtain ⟨message, hm⟩ : ∃ message, messages[i]? = some message :=
      ⟨_, List.getElem?_eq_getElem (h.length_tasks ▸ hlt)⟩
    refine { h with
      length_tasks := List.length_set.trans h.length_tasks
      left_outcome := h.left_outcome_set hm ht (h.left_outcome i _ _ hm ht).symm
      reports_outcome := fun j o m hmem hmj => ?_
      activities_perm := ?_
      taken := ⟨taken, htaken.reported ht⟩
      result := fun result hr => ?_ }
    · rcases List.mem_append.1 hmem with hmem | hmem
      · exact h.reports_outcome j o m hmem hmj
      · obtain ⟨rfl, rfl⟩ := Prod.mk.inj (List.mem_singleton.1 hmem)
        exact h.left_outcome _ m _ hmj ht
    · have hleft : (left relay copier putter message (.finishing outcome)).activities =
          [] ++ (left relay copier putter message .ended).activities := rfl
      have hperm := h.activities_perm_set hm ht hleft
      rwa [List.append_nil] at hperm
    · exact nomatch (h.result_eq_none ht nofun).symm.trans hr
  | collected i outcome reports hr hc hreports =>
    have hmem : (i, outcome) ∈ d.reports := hreports ▸ List.mem_cons_self
    exact { h with
      length_outcomes := List.length_set.trans h.length_outcomes
      reports_outcome := fun j o m hmem => h.reports_outcome j o m (hreports ▸ List.mem_cons_of_mem _ hmem)
      taken := ⟨_, htaken.collected hreports (fun m hm => h.reports_outcome i outcome m hmem hm) h.length_outcomes⟩
      result := fun result hresult => nomatch hr.symm.trans hresult }
  | finished hr hc =>
    rw [h.messages_eq] at hc
    have hall := htaken.all_of_length h.length_tasks hc
    refine { h with taken := ⟨taken, { htaken with }⟩, result := fun result hresult => ?_ }
    obtain rfl := Option.some.inj hresult
    refine ⟨congrArg Except.ok (List.ext_getElem? fun i => ?_), fun task hmem => ?_⟩
    · by_cases hlt : i < messages.length
      · have hm := List.getElem?_eq_getElem hlt
        rw [htaken.outcomes i _ hm, if_pos (hall i hlt), expected, List.getElem?_map, hm, Option.map_some]
      · rw [List.getElem?_eq_none (by rw [h.length_outcomes]; omega),
          List.getElem?_eq_none (by rw [expected, List.length_map]; omega)]
    · obtain ⟨i, ht⟩ := List.mem_iff_getElem?.1 hmem
      obtain ⟨hlt, -⟩ := List.getElem?_eq_some_iff.1 ht
      have hended := (htaken.mem_iff i).1 (List.mem_append_left _ (hall i (h.length_tasks ▸ hlt)))
      exact Option.some.inj (ht.symm.trans hended)
  | lost hr hc hreports hall =>
    rw [h.messages_eq] at hc
    exact absurd (htaken.length_of_all h.length_tasks hreports hall) hc

end Dispatch
end ObjectRelay

import Mathlib.Data.List.Chain
import Mathlib.Order.Bounds.Defs
import ObjectRelay.Proofs.Batch.Conservation
/-!
# How many buffers a queue needs

A batch is outstanding from the moment at which the pending buffer has been swapped for another one until it is dropped:
it is handed over, waits, or is held by a receiver.  In a call these moments follow each other, so a session goes through
more states than it has actions (`trail`), and each of them is a turnover of the one before it (`isChain_trail`): a batch is
given back exactly once, whoever drops it.  A buffer is taken from the pool whenever one is idle.  So there are never more
buffers than batches have been outstanding at one time (`buffers_eq_peak`).
-/
namespace ObjectRelay
namespace QueueSession

variable {s s' : QueueSession}

/-- The batches that are handed over, wait, or are held. -/
def outstanding (s : QueueSession) : List Batch := s.offered ++ s.queue.waiting ++ s.held

/-- How many buffers are idle. -/
def idle (s : QueueSession) : Nat := (s.queue.pool.idle s.queue.maxBatchSize).length

/-! ## The states of a session -/

/-- The state that a session goes through within an action: a call that hands pending bytes over has made a batch of them
before it knows what becomes of it. -/
def between (s : QueueSession) : Action → List QueueSession
  | .call errand => if errand.handsOver s.queue then [s.handingOver errand] else []
  | _ => []

/-- The states that a session goes through in actions in a row. -/
def trail : QueueSession → List Action → List QueueSession
  | s, [] => [s]
  | s, action :: rest => match s.step? action with
    | none => [s]
    | some next => s :: (s.between action ++ trail next rest)

/-- **Whether one state is a turnover of the one before it.** -/
structure Turns (s s' : QueueSession) : Prop where
  size_eq : s'.queue.maxBatchSize = s.queue.maxBatchSize
  turnover : BufferPool.Turnover s.queue.maxBatchSize s.outstanding s.queue.pool s'.outstanding s'.queue.pool

namespace Turns

/-- Nobody makes or drops a batch. -/
theorem same (hsize : s'.queue.maxBatchSize = s.queue.maxBatchSize) (hout : s.outstanding.Perm s'.outstanding)
    (hpool : s'.queue.pool = s.queue.pool) : Turns s s' := ⟨hsize, .returned [] hout hpool⟩

theorem handingOver (hcall : s.call = none) (errand : Errand) : Turns s (s.handingOver errand) := by
  refine ⟨rfl, .lent s.queue.pendingBatch rfl (.of_eq ?_) rfl⟩
  simp [outstanding, offered, QueueSession.handingOver, hcall]

/-- A call ends without handing anything over. -/
theorem make {errand : Errand} (hs : s.make? errand = some s') (h : errand.handsOver s.queue = false) :
    Turns s s' := by
  unfold make? at hs
  split at hs
  · cases hs
  rcases Errand.run_eq_of_not_handsOver h with ⟨record, -, -, hr⟩ | ⟨-, -, hr⟩ <;> rw [hr] at hs
  · exact Option.some.inj hs ▸ same rfl (.refl _) rfl
  · refine Option.some.inj hs ▸ same (errand.maxBatchSize_succeed _) (.of_eq ?_) (errand.pool_succeed _)
    simp [outstanding, offered]

/-- The call that waits drops its batch. -/
theorem loseCall {errand : Errand} {batch : Batch} (hcall : s.call = some (errand, batch))
    (lost : List (Loss × List UInt8)) :
    Turns s { s with queue := errand.fail (s.queue.release batch), call := none, lost } := by
  refine ⟨errand.maxBatchSize_fail _, .returned [batch] (.of_eq ?_) (errand.pool_fail _)⟩
  simp [outstanding, offered, hcall, BatchQueue.release]

theorem resume (hs : s.resume? = some s') : Turns s s' := by
  obtain ⟨errand, batch, hcall, ⟨-, rfl⟩ | rfl⟩ := resume_cases hs
  · exact loseCall hcall _
  · refine same (errand.maxBatchSize_succeed _) ?_ (errand.pool_succeed _)
    simp only [outstanding, offered, hcall, Errand.waiting_succeed, Option.toList, List.map_cons, List.map_nil,
      List.nil_append]
    exact List.perm_append_comm.append_right _

theorem giveUp (hs : s.giveUp? = some s') : Turns s s' := by
  unfold giveUp? at hs
  split at hs
  · cases hs
  · rename_i errand batch hcall
    exact Option.some.inj hs ▸ loseCall hcall _

theorem receive (hs : s.receive? = some s') : Turns s s' := by
  obtain rfl | ⟨batch, waiting, hw, rfl⟩ := receive_cases hs
  · exact same rfl (.refl _) rfl
  · refine same rfl (List.perm_iff_count.2 fun b => ?_) rfl
    simp only [outstanding, offered, hw, List.count_append, List.count_cons, List.count_nil]
    omega

theorem dropBatch {i : Nat} (hs : s.dropBatch? i = some s') : Turns s s' := by
  obtain ⟨batch, hi, rfl⟩ := Option.map_eq_some_iff.1 hs
  obtain ⟨hlt, rfl⟩ := List.getElem?_eq_some_iff.1 hi
  refine ⟨rfl, .returned [s.held[i]] (List.perm_iff_count.2 fun b => ?_) rfl⟩
  have hcount := (List.getElem_cons_eraseIdx_perm hlt).count_eq b
  simp only [outstanding, offered, BatchQueue.release, List.count_append, List.count_cons, List.count_nil] at hcount ⊢
  omega

theorem dropQueue (hs : s.dropQueue? = some s') : Turns s s' := by
  unfold dropQueue? at hs
  split at hs
  · cases hs
  · exact Option.some.inj hs ▸ same rfl (.refl _) rfl

theorem dropReceiver (hs : s.dropReceiver? = some s') : Turns s s' := by
  unfold dropReceiver? at hs
  split at hs
  · cases hs
  · obtain rfl := Option.some.inj hs
    refine ⟨rfl, .returned s.queue.waiting (List.perm_iff_count.2 fun b => ?_) rfl⟩
    simp only [outstanding, offered, BatchQueue.dropReceiver, List.count_append, List.count_nil]
    omega
  · exact Option.some.inj hs ▸ same rfl (.refl _) rfl

end Turns

/-- **Every action is a turnover**, or two, one after the other. -/
theorem isChain_between {a : Action} (hs : s.step? a = some s') : (s :: (s.between a ++ [s'])).IsChain Turns := by
  have hpair : Turns s s' → (s :: ([] ++ [s'])).IsChain Turns := fun h =>
    List.isChain_cons_cons.2 ⟨h, List.IsChain.singleton _⟩
  cases a with
  | call errand =>
    obtain ⟨hsend, hcall⟩ := call_eq_none_of_make hs
    cases h : errand.handsOver s.queue with
    | false =>
      rw [between, h, if_neg Bool.false_ne_true]
      exact hpair (.make hs h)
    | true =>
      have hmade := (make?_of_handsOver hsend hcall h).symm.trans hs
      rw [between, h, if_pos rfl]
      refine List.isChain_cons_cons.2 ⟨.handingOver hcall errand, List.isChain_cons_cons.2 ⟨?_, List.IsChain.singleton _⟩⟩
      cases hresume : (s.handingOver errand).resume? with
      | none =>
        rw [hresume] at hmade
        exact Option.some.inj hmade ▸ .same rfl (.refl _) rfl
      | some next =>
        rw [hresume] at hmade
        exact Option.some.inj hmade ▸ .resume hresume
  | resume => exact hpair (.resume hs)
  | giveUp => exact hpair (.giveUp hs)
  | receive => exact hpair (.receive hs)
  | dropBatch i => exact hpair (.dropBatch hs)
  | cancel => exact hpair (Option.some.inj hs ▸ .same rfl (.refl _) rfl)
  | dropQueue => exact hpair (.dropQueue hs)
  | cloneReceiver =>
    simp only [step?] at hs
    split at hs
    · cases hs
    · exact hpair (Option.some.inj hs ▸ .same rfl (.refl _) rfl)
  | dropReceiver => exact hpair (.dropReceiver hs)

theorem exists_trail_eq_cons (s : QueueSession) (actions : List Action) : ∃ later, s.trail actions = s :: later := by
  cases actions with
  | nil => exact ⟨[], rfl⟩
  | cons a rest =>
    rw [trail]
    split
    · exact ⟨[], rfl⟩
    · exact ⟨_, rfl⟩

theorem isChain_trail : ∀ {actions : List Action} {s s' : QueueSession}, s.replay? actions = some s' →
    (s.trail actions).IsChain Turns ∧ (s.trail actions).getLast? = some s'
  | [], s, s', hs => ⟨.singleton s, hs⟩
  | a :: rest, s, s', hs => by
    obtain ⟨next, hnext, hrest⟩ := Option.bind_eq_some_iff.1 hs
    obtain ⟨hchain, hlast⟩ := isChain_trail hrest
    obtain ⟨later, hlater⟩ := next.exists_trail_eq_cons rest
    have hfirst := isChain_between hnext
    rw [trail, hnext]
    dsimp only
    rw [hlater] at hchain hlast ⊢
    refine ⟨List.isChain_cons_split.2 ⟨hfirst, hchain⟩, ?_⟩
    rw [← List.cons_append, List.getLast?_append, hlast]
    rfl

/-! ## Buffers that there are -/

/-- How many buffers have been made into batches: those of outstanding batches, and the idle ones. -/
def buffers (s : QueueSession) : Nat := s.idle + s.outstanding.length

/-- Whether the pool serves no other batches than those that are outstanding. -/
def IsServed (s : QueueSession) : Prop := BufferPool.Serves s.queue.maxBatchSize s.outstanding s.queue.pool

theorem isServed_start (maxBatchSize slots : Nat) : IsServed (start maxBatchSize slots {}) :=
  ⟨nofun, BufferPool.isClean_empty, fun _ _ => rfl⟩

theorem Turns.isServed (h : Turns s s') (hs : s.IsServed) : s'.IsServed := by
  rw [IsServed, h.size_eq]
  exact BufferPool.Serves.turnover hs h.turnover

/-- **A further buffer is only made when all of them are outstanding.** -/
theorem Turns.buffers_eq (h : Turns s s') (hs : s.IsServed) :
    s'.buffers = s.buffers ∨ s'.buffers = s.buffers + 1 ∧ s'.outstanding.length = s'.buffers := by
  have hidle : s'.idle = (s'.queue.pool.idle s.queue.maxBatchSize).length := by rw [idle, h.size_eq]
  unfold buffers
  rw [hidle, idle]
  rcases BufferPool.Serves.length_turnover hs h.turnover with ⟨hout, hpool⟩ | ⟨n, hout, hpool⟩ <;> omega

/-- **The buffers behind a run of turnovers**: no fewer than before, as many as batches were ever outstanding, and if
there are more than before that many were outstanding at some time. -/
theorem buffers_of_isChain : ∀ {later : List QueueSession} {s last : QueueSession}, (s :: later).IsChain Turns →
    s.IsServed → (s :: later).getLast? = some last → last.IsServed ∧ s.buffers ≤ last.buffers ∧
      (∀ t ∈ s :: later, t.outstanding.length ≤ last.buffers) ∧
      (last.buffers = s.buffers ∨ ∃ t ∈ s :: later, t.outstanding.length = last.buffers)
  | [], s, last, _, hs, hlast => by
    obtain rfl : s = last := Option.some.inj hlast
    refine ⟨hs, Nat.le_refl _, fun t ht => ?_, .inl rfl⟩
    obtain rfl := List.mem_singleton.1 ht
    exact Nat.le_add_left _ _
  | next :: later, s, last, hchain, hs, hlast => by
    obtain ⟨hturn, hrest⟩ := List.isChain_cons_cons.1 hchain
    obtain ⟨hserved, hle, hall, hpeak⟩ :=
      buffers_of_isChain hrest (hturn.isServed hs) (by rwa [List.getLast?_cons_cons] at hlast)
    have hstep := hturn.buffers_eq hs
    have hout : s.outstanding.length ≤ s.buffers := Nat.le_add_left _ _
    refine ⟨hserved, by omega, fun t ht => ?_, ?_⟩
    · rcases List.mem_cons.1 ht with rfl | ht
      · omega
      · exact hall t ht
    · rcases hpeak with hsame | ⟨t, ht, heq⟩
      · rcases hstep with hstep | ⟨-, hstep⟩
        · exact .inl (hsame.trans hstep)
        · exact .inr ⟨next, List.mem_cons_of_mem _ List.mem_cons_self, hstep.trans hsame.symm⟩
      · exact .inr ⟨t, List.mem_cons_of_mem _ ht, heq⟩

/-! ## Handling -/

/-- Whether an action is one of those that handling batches is made of. -/
def Action.IsHandling : Action → Prop
  | .receive | .cancel | .dropBatch _ => True
  | _ => False

/-- What waits is told to `drain` apart from the queue. -/
theorem drain_waiting (handler : Nat → List UInt8 → BatchQueue.Handling) (other : List Batch) :
    ∀ (waiting : List Batch) (q : BatchQueue) (n : Nat),
      BatchQueue.drain handler { q with waiting := other } waiting n = BatchQueue.drain handler q waiting n
  | [], q, n => rfl
  | batch :: waiting, q, n => by
    have hq : (if (handler n batch.bytes).isCancelling then BatchQueue.cancel { q with waiting := other }
        else { q with waiting := other }).release batch =
        { (if (handler n batch.bytes).isCancelling then q.cancel else q).release batch with waiting := other } := by
      cases (handler n batch.bytes).isCancelling <;> rfl
    simp only [BatchQueue.drain, hq, drain_waiting handler other waiting]

/-- Taking a batch out, handling it and dropping it. -/
theorem replay_handled {batch : Batch} {waiting : List Batch} (hreceivers : s.receivers ≠ 0)
    (hcancelled : s.queue.isCancelled = false) (hw : s.queue.waiting = batch :: waiting) (isCancelling : Bool)
    (rest : List Action) :
    s.replay? (.receive :: ((if isCancelling then [.cancel] else []) ++ .dropBatch s.held.length :: rest)) =
      replay? { s with
        queue := { (if isCancelling then s.queue.cancel else s.queue).release batch with waiting }
        received := s.received ++ [batch] } rest := by
  have hreceive : s.step? .receive = some { s with
      queue.waiting := waiting
      held := s.held ++ [batch]
      received := s.received ++ [batch] } := by
    rcases s.queue.receive_cases with ⟨hc, _⟩ | ⟨b, w, _, hw', ho⟩ | ⟨_, hw', _⟩ | ⟨_, hw', _⟩
    · exact absurd (hcancelled.symm.trans hc) Bool.false_ne_true
    · obtain ⟨rfl, rfl⟩ := List.cons.inj (hw.symm.trans hw')
      rw [step?, receive?, if_neg hreceivers, ho]
    · exact absurd (hw.symm.trans hw') (List.cons_ne_nil _ _)
    · exact absurd (hw.symm.trans hw') (List.cons_ne_nil _ _)
  have hdrop : ∀ t : QueueSession, t.held = s.held ++ [batch] → t.step? (.dropBatch s.held.length) =
      some { t with queue := t.queue.release batch, held := s.held } := by
    intro t ht
    rw [step?, dropBatch?, ht, List.getElem?_concat_length, List.eraseIdx_append_of_length_le (Nat.le_refl _),
      Nat.sub_self]
    simp
  cases isCancelling with
  | false =>
    simp only [replay?, hreceive, Option.bind_some, Bool.false_eq_true, if_false, List.nil_append]
    rw [hdrop _ rfl]
    rfl
  | true =>
    simp only [replay?, hreceive, Option.bind_some, if_true, List.cons_append, List.nil_append]
    rw [step?, Option.bind_some, hdrop _ rfl]
    rfl

/-- **Handling batches until one fails or none is left is nothing but taking them out, maybe cancelling, and dropping
them**, the one that failed too. -/
theorem exists_replay_drain (handler : Nat → List UInt8 → BatchQueue.Handling) :
    ∀ (waiting : List Batch) (n : Nat) (s : QueueSession), s.receivers ≠ 0 → s.queue.waiting = waiting →
      ∃ actions, (∀ a ∈ actions, a.IsHandling) ∧ s.replay? actions = some { s with
        queue := (s.queue.drain handler waiting n).2.2
        received := s.received ++ (s.queue.drain handler waiting n).2.1 }
  | [], n, s, _, hw => by
    have hqueue : (s.queue.drain handler [] n).2.2 = s.queue := by
      rw [BatchQueue.drain, ← hw]
    have hhandled : (s.queue.drain handler [] n).2.1 = [] := rfl
    exact ⟨[], nofun, by rw [hqueue, hhandled, List.append_nil]; rfl⟩
  | batch :: waiting, n, s, hreceivers, hw => by
    cases hcancelled : s.queue.isCancelled with
    | true =>
      have hdrain : s.queue.drain handler (batch :: waiting) n = (.failed .cancelled, [], s.queue) := by
        rw [BatchQueue.drain, if_pos hcancelled, ← hw]
      exact ⟨[], nofun, by rw [hdrain, List.append_nil]; rfl⟩
    | false =>
      have hhandled := replay_handled hreceivers hcancelled hw (handler n batch.bytes).isCancelling
      have hshort : ∀ rest : List Action, (∀ a ∈ rest, a.IsHandling) →
          ∀ a ∈ Action.receive :: ((if (handler n batch.bytes).isCancelling then [Action.cancel] else []) ++
            .dropBatch s.held.length :: rest), a.IsHandling := by
        intro rest hrest a ha
        simp only [List.mem_cons, List.mem_append] at ha
        rcases ha with rfl | ha | rfl | ha
        · trivial
        · split at ha
          · obtain rfl := List.mem_singleton.1 ha
            trivial
          · cases ha
        · trivial
        · exact hrest a ha
      cases hresult : (handler n batch.bytes).result with
      | error error =>
        refine ⟨_, hshort [] nofun, (hhandled []).trans ?_⟩
        simp [replay?, BatchQueue.drain, hcancelled, hresult]
      | ok u =>
        obtain ⟨rest, hrest, hreplay⟩ := exists_replay_drain handler waiting (n + 1)
          { s with
            queue := { (if (handler n batch.bytes).isCancelling then s.queue.cancel else s.queue).release batch with
              waiting }
            received := s.received ++ [batch] } hreceivers rfl
        refine ⟨_, hshort rest hrest, (hhandled rest).trans (hreplay.trans ?_)⟩
        simp [BatchQueue.drain, hcancelled, hresult, drain_waiting]

/-! ## The account -/

/-- **Every buffer is accounted for**, whatever is done with a new queue on a new pool.  Idle buffers are empty, and there
are none for batches of another size.  The idle ones and those of the batches that wait, are held, or are handed over by a
call that waits are together as many as batches have been outstanding at most at any one time, the moments within a call
included; so between calls those that are idle, wait and are held are.  From one of these moments to the next a batch is
lent, or those that are outstanding no more are given back, once each.  And a receiver that hands batches to a handler, which
may cancel or fail, does nothing that is not such an action. -/
theorem buffers_eq_peak (maxBatchSize slots : Nat) (actions : List Action) (s : QueueSession)
    (hrun : (start maxBatchSize slots {}).replay? actions = some s) :
    (∀ capacity, ∀ buffer ∈ s.queue.pool.idle capacity, buffer = [] ∧ capacity = maxBatchSize) ∧
    (∃ peak, IsGreatest {n | ∃ t ∈ (start maxBatchSize slots {}).trail actions, t.outstanding.length = n} peak ∧
      (s.queue.pool.idle maxBatchSize).length + s.queue.waiting.length + s.held.length + s.offered.length = peak ∧
      (s.call = none → (s.queue.pool.idle maxBatchSize).length + s.queue.waiting.length + s.held.length = peak)) ∧
    ((start maxBatchSize slots {}).trail actions).IsChain Turns ∧
    ∀ handler, s.receivers ≠ 0 → ∃ more, (∀ a ∈ more, a.IsHandling) ∧ s.replay? more = some { s with
      queue := (s.queue.process handler).2.2
      received := s.received ++ (s.queue.process handler).2.1 } := by
  obtain ⟨hchain, hlast⟩ := isChain_trail hrun
  obtain ⟨later, hlater⟩ := (start maxBatchSize slots {}).exists_trail_eq_cons actions
  rw [hlater] at hchain hlast ⊢
  obtain ⟨hserved, -, hall, hpeak⟩ := buffers_of_isChain hchain (isServed_start maxBatchSize slots) hlast
  have hsize : s.queue.maxBatchSize = maxBatchSize :=
    (Invariant.replay hrun (.start maxBatchSize slots BufferPool.isClean_empty)).maxBatchSize_eq
  rw [IsServed, hsize] at hserved
  have hbuffers : s.buffers = (s.queue.pool.idle maxBatchSize).length + s.queue.waiting.length + s.held.length +
      s.offered.length := by
    rw [buffers, idle, hsize, outstanding, List.length_append, List.length_append]
    omega
  refine ⟨fun capacity buffer hmem => ⟨hserved.isClean capacity buffer hmem, ?_⟩, ⟨s.buffers, ⟨?_, ?_⟩, hbuffers.symm,
    fun hcall => ?_⟩, hchain, fun handler hreceivers => exists_replay_drain handler _ 0 s hreceivers rfl⟩
  · by_contra hne
    rw [hserved.idle_eq_nil capacity hne] at hmem
    cases hmem
  · -- at the start nothing is outstanding, and there is no buffer
    rcases hpeak with hnone | hpeak
    · exact ⟨_, List.mem_cons_self, hnone.symm⟩
    · exact hpeak
  · rintro n ⟨t, ht, rfl⟩
    exact hall t ht
  · rw [hbuffers, offered, hcall]
    rfl

/-- A push that waits, a push that is refused and a receiver that goes away with a batch: two buffers were enough. -/
theorem buffers_eq_peak_crowded : ∃ s, (start 5 1 {}).replay? crowdedActions = some s ∧ s.call = none ∧
    (s.queue.pool.idle 5).length = 2 ∧ s.queue.waiting = [] ∧ s.held = [] ∧
    IsGreatest {n | ∃ t ∈ (start 5 1 {}).trail crowdedActions, t.outstanding.length = n} 2 := by
  have hshown : ((start 5 1 {}).replay? crowdedActions).map
      (fun s => (s.call, (s.queue.pool.idle 5).length, s.queue.waiting, s.held)) = some (none, 2, [], []) := by
    decide
  obtain ⟨s, hrun, hs⟩ := Option.map_eq_some_iff.1 hshown
  obtain ⟨hcall, hidle, hwaiting, hheld⟩ :
      s.call = none ∧ (s.queue.pool.idle 5).length = 2 ∧ s.queue.waiting = [] ∧ s.held = [] := by
    simpa only [Prod.mk.injEq] using hs
  obtain ⟨-, ⟨peak, hpeak, -, hbetween⟩, -⟩ := buffers_eq_peak 5 1 crowdedActions s hrun
  obtain rfl : 2 = peak := by
    rw [← hbetween hcall, hidle, hwaiting, hheld]
    rfl
  exact ⟨s, hrun, hcall, hidle, hwaiting, hheld, hpeak⟩

end QueueSession
end ObjectRelay

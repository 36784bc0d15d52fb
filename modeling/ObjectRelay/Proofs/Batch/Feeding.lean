import Mathlib.Order.Bounds.Defs
import ObjectRelay.Proofs.Batch.Conservation
/-!
# Records that are pushed one after the other

Who pushes records into a new queue and closes it, while batches are taken out but nothing is cancelled or goes away,
gets the greedy groups of the records as batches (`Feeding`), however often a call has to wait.  So there are as few
batches as there can be, and none of the first ones could have held more (`batches_fewest`).
-/
namespace ObjectRelay

namespace Errand

variable {errand : Errand} {q : BatchQueue} {rest : List (List UInt8)}

/-- A call that hands over ends a batch. -/
theorem batchesFrom_of_handsOver (h : errand.handsOver q = true) (hlast : errand.records = [] → rest = []) :
    batchesFrom q.maxBatchSize q.pending (errand.records ++ rest) =
      q.pending :: batchesFrom q.maxBatchSize [] (errand.records ++ rest) := by
  have hpending := pending_ne_nil_of_handsOver h
  cases errand with
  | push record =>
    obtain ⟨hlong, hroom⟩ : record.length + 1 ≤ q.maxBatchSize ∧
        ¬q.pending.length + (record.length + 1) ≤ q.maxBatchSize := by
      simpa [handsOver, BatchQueue.isTooLong, BatchQueue.hasRoom] using h
    rw [records, List.singleton_append, batchesFrom, if_neg hroom, batchesFrom, List.length_nil, Nat.zero_add,
      if_pos hlong, List.nil_append]
  | flush | close =>
    obtain rfl := hlast rfl
    rw [records, List.nil_append, batchesFrom, if_neg (by simpa using hpending)]
    rfl

/-- A call that has nothing to hand over goes on with the batch that has been begun. -/
theorem batchesFrom_succeed
    (hroom : ∀ r ∈ errand.records, q.pending.length + (r.length + 1) ≤ q.maxBatchSize)
    (hempty : errand.records = [] → q.pending = []) :
    batchesFrom q.maxBatchSize (errand.succeed q).pending rest =
      batchesFrom q.maxBatchSize q.pending (errand.records ++ rest) := by
  cases errand with
  | push record =>
    rw [records, List.singleton_append, batchesFrom, if_pos (hroom record List.mem_cons_self)]
    rfl
  | flush => rfl
  | close =>
    rw [hempty rfl]
    rfl

end Errand

namespace QueueSession

/-! ## Pushing records and closing the queue -/

/-- The call that an action makes. -/
def Action.errand? : Action → Option Errand
  | .call errand => some errand
  | _ => none

/-- Whether an action neither cancels nor gives up nor drops a side of the queue. -/
def Action.IsGentle : Action → Prop
  | .giveUp | .cancel | .dropQueue | .dropReceiver => False
  | _ => True

/-- The calls that are made, in that order. -/
def calls (actions : List Action) : List Errand := actions.filterMap Action.errand?

/-- **Whether actions push records and close the queue**, and are otherwise gentle: calls that wait are looked at again,
batches are taken out and dropped, and there can be any number of receivers. -/
structure Feeds (records : List (List UInt8)) (actions : List Action) : Prop where
  calls_eq : calls actions = records.map .push ++ [.close]
  isGentle : ∀ a ∈ actions, a.IsGentle

theorem flatMap_records_feed (records : List (List UInt8)) :
    (records.map Errand.push ++ [Errand.close]).flatMap Errand.records = records := by
  induction records with
  | nil => rfl
  | cons r records ih => exact congrArg (r :: ·) ih

/-- The last call pushes no record, and each of the others one of the records. -/
theorem records_of_suffix {errand : Errand} {left : List Errand} : ∀ {records : List (List UInt8)},
    errand :: left <:+ records.map .push ++ [.close] →
      (errand.records = [] ↔ left = []) ∧ ∀ r ∈ errand.records, r ∈ records
  | [], h => by
    obtain ⟨rfl, rfl⟩ : errand = .close ∧ left = [] := by
      rcases List.suffix_cons_iff.1 h with h | h
      · exact List.cons.inj h
      · exact absurd (List.suffix_nil.1 h) (List.cons_ne_nil _ _)
    exact ⟨⟨fun _ => rfl, fun _ => rfl⟩, nofun⟩
  | r :: records, h => by
    rcases List.suffix_cons_iff.1 h with h | h
    · obtain ⟨rfl, rfl⟩ := List.cons.inj h
      refine ⟨⟨nofun, fun hnil => ?_⟩, fun r' hr' => ?_⟩
      · exact absurd (List.append_eq_nil_iff.1 hnil).2 (List.cons_ne_nil _ _)
      · obtain rfl := List.mem_singleton.1 hr'
        exact List.mem_cons_self
    · obtain ⟨hlast, hmem⟩ := records_of_suffix h
      exact ⟨hlast, fun r' hr' => List.mem_cons_of_mem _ (hmem r' hr')⟩

/-- The records that the call that waits still has to add. -/
def todo (s : QueueSession) : List (List UInt8) := s.call.toList.flatMap (·.1.records)

/-- **What is kept while records are pushed.**  The batches that there are, and those that are still to come of what is
pending and of the calls that are left, are the batches of all records. -/
structure Feeding (records : List (List UInt8)) (left : List Errand) (s : QueueSession) : Prop where
  isCancelled_eq : s.queue.isCancelled = false
  isReceiving_eq : s.queue.isReceiving = true
  accepted_eq : s.accepted ++ (s.todo ++ left.flatMap Errand.records) = records
  outgoing_eq : s.outgoing.map (·.bytes) ++
    batchesFrom s.queue.maxBatchSize s.queue.pending (s.todo ++ left.flatMap Errand.records) =
      batchesFrom s.queue.maxBatchSize [] records
  /-- The last call leaves nothing pending. -/
  last : left = [] → s.todo = [] ∧ s.queue.pending = []

namespace Feeding

variable {maxBatchSize : Nat} {records : List (List UInt8)} {errand : Errand} {left : List Errand}
  {s s' : QueueSession}

theorem start {pool : BufferPool} (hpool : pool.IsClean) (maxBatchSize slots : Nat) (records : List (List UInt8)) :
    Feeding records (records.map .push ++ [.close]) (.start maxBatchSize slots pool) where
  isCancelled_eq := rfl
  isReceiving_eq := rfl
  accepted_eq := flatMap_records_feed records
  outgoing_eq := by
    have hpending : (QueueSession.start maxBatchSize slots pool).queue.pending = [] :=
      BufferPool.take_fst_of_isClean hpool _
    rw [hpending, flatMap_records_feed]
    rfl
  last h := absurd (List.append_eq_nil_iff.1 h).2 (List.cons_ne_nil _ _)

/-- Only what is told of the queue and its batches counts. -/
theorem congr (h : Feeding records left s) (hcancelled : s'.queue.isCancelled = s.queue.isCancelled)
    (hreceiving : s'.queue.isReceiving = s.queue.isReceiving) (haccepted : s'.accepted = s.accepted)
    (hcall : s'.call = s.call) (hpending : s'.queue.pending = s.queue.pending) (houtgoing : s'.outgoing = s.outgoing)
    (hsize : s'.queue.maxBatchSize = s.queue.maxBatchSize) : Feeding records left s' where
  isCancelled_eq := hcancelled.trans h.isCancelled_eq
  isReceiving_eq := hreceiving.trans h.isReceiving_eq
  accepted_eq := by
    rw [haccepted, todo, hcall]
    exact h.accepted_eq
  outgoing_eq := by
    rw [houtgoing, hsize, hpending, todo, hcall]
    exact h.outgoing_eq
  last hleft := by
    rw [hpending, todo, hcall]
    exact h.last hleft

/-- A call that has nothing left to hand over succeeds. -/
theorem succeed (h : Feeding records (errand :: left) s) (hcall : s.call = none)
    (hroom : ∀ r ∈ errand.records, s.queue.pending.length + (r.length + 1) ≤ s.queue.maxBatchSize)
    (hempty : errand.records = [] → s.queue.pending = []) (hlast : left = [] → errand.records = []) :
    Feeding records left { s with queue := errand.succeed s.queue, accepted := s.accepted ++ errand.records } := by
  have htodo : s.todo = [] := by
    rw [todo, hcall]
    rfl
  obtain ⟨hcancelled, hreceiving, haccepted, houtgoing, -⟩ := h
  rw [htodo, List.nil_append, List.flatMap_cons] at haccepted houtgoing
  refine ⟨(errand.isCancelled_succeed _).trans hcancelled, (errand.isReceiving_succeed _).trans hreceiving, ?_, ?_,
    fun hleft => ⟨htodo, ?_⟩⟩
  · rw [← haccepted]
    simp [todo, hcall]
  · rw [← Errand.batchesFrom_succeed hroom hempty] at houtgoing
    simpa [todo, hcall, outgoing, offered] using houtgoing
  · cases errand with
    | push record => exact absurd (hlast hleft) (List.cons_ne_nil record [])
    | flush => exact hempty rfl
    | close => rfl

theorem handingOver (h : Feeding records (errand :: left) s) (hclean : s.queue.pool.IsClean) (hcall : s.call = none)
    (hands : errand.handsOver s.queue = true) (hlast : errand.records = [] ↔ left = []) :
    Feeding records left (s.handingOver errand) := by
  have hswap : s.queue.swapPending.pending = [] := BatchQueue.pending_swapPending hclean
  obtain ⟨hcancelled, hreceiving, haccepted, houtgoing, -⟩ := h
  have htodo : (s.handingOver errand).todo = errand.records := by simp [todo, QueueSession.handingOver]
  have hnone : s.todo = [] := by
    rw [todo, hcall]
    rfl
  rw [hnone, List.nil_append, List.flatMap_cons] at haccepted houtgoing
  refine ⟨hcancelled, hreceiving, by rwa [htodo], ?_, fun hleft => ⟨htodo.trans (hlast.2 hleft), hswap⟩⟩
  rw [Errand.batchesFrom_of_handsOver hands fun hnil => by rw [hlast.1 hnil]; rfl] at houtgoing
  rw [htodo]
  simpa [QueueSession.handingOver, outgoing, offered, hcall, hswap, BatchQueue.pendingBatch] using houtgoing

theorem resume (h : Feeding records left s) (hinv : Invariant maxBatchSize s) (hs : s.resume? = some s') :
    Feeding records left s' := by
  obtain ⟨errand, batch, hcall, ⟨hc | hr, -⟩ | rfl⟩ := resume_cases hs
  · exact absurd (h.isCancelled_eq.symm.trans hc) Bool.false_ne_true
  · exact absurd (hr.symm.trans h.isReceiving_eq) Bool.false_ne_true
  · obtain ⟨hpending, hfits⟩ := hinv.call_spec errand batch hcall
    have htodo : s.todo = errand.records := by simp [todo, hcall]
    -- the batch waits now, and the call is made as if there had been nothing to hand over
    have htaken : Feeding records (errand :: left)
        { s with queue.waiting := s.queue.waiting ++ [batch], call := none } := by
      refine ⟨h.isCancelled_eq, h.isReceiving_eq, ?_, ?_, nofun⟩
      · simpa [todo, hcall] using h.accepted_eq
      · simpa [todo, hcall, outgoing, offered] using h.outgoing_eq
    refine htaken.succeed rfl (fun r hr => ?_) (fun _ => hpending) fun hleft => htodo.symm.trans (h.last hleft).1
    simpa [hpending, hinv.maxBatchSize_eq] using hfits r hr

theorem make (h : Feeding records (errand :: left) s) (hinv : Invariant maxBatchSize s)
    (hfits : ∀ r ∈ errand.records, r.length + 1 ≤ maxBatchSize) (hlast : errand.records = [] ↔ left = [])
    (hs : s.make? errand = some s') : Feeding records left s' := by
  obtain ⟨hsend, hcall⟩ := call_eq_none_of_make hs
  cases hands : errand.handsOver s.queue with
  | false =>
    rcases Errand.run_eq_of_not_handsOver hands with ⟨record, rfl, hlong, -⟩ | ⟨hroom, hempty, hr⟩
    · have hrecord := hfits record List.mem_cons_self
      rw [hinv.maxBatchSize_eq] at hlong
      omega
    · rw [make?, if_neg (by simp [hsend, hcall]), hr] at hs
      exact Option.some.inj hs ▸ h.succeed hcall hroom hempty hlast.2
  | true =>
    have hwaits := h.handingOver hinv.isClean hcall hands hlast
    rw [make?_of_handsOver hsend hcall hands] at hs
    cases hresume : (s.handingOver errand).resume? with
    | none =>
      rw [hresume] at hs
      exact Option.some.inj hs ▸ hwaits
    | some next =>
      rw [hresume] at hs
      have hoffered : Invariant maxBatchSize (s.handingOver errand) := hinv.offerPending hcall
        (Errand.pending_ne_nil_of_handsOver hands) errand (hinv.maxBatchSize_eq.symm ▸ hfits)
      exact Option.some.inj hs ▸ hwaits.resume hoffered hresume

theorem receive (h : Feeding records left s) (hs : s.receive? = some s') : Feeding records left s' := by
  obtain rfl | ⟨batch, waiting, hw, rfl⟩ := receive_cases hs
  · exact h
  · refine h.congr rfl rfl rfl rfl rfl ?_ rfl
    simp [outgoing, hw, offered]

/-- **A gentle action keeps what is kept**; the call that it makes, if it makes one, is left no more. -/
theorem step {a : Action} (h : Feeding records (a.errand?.toList ++ left) s) (hinv : Invariant maxBatchSize s)
    (hgentle : a.IsGentle)
    (hcall : ∀ errand, a.errand? = some errand →
      (errand.records = [] ↔ left = []) ∧ ∀ r ∈ errand.records, r.length + 1 ≤ maxBatchSize)
    (hs : s.step? a = some s') : Feeding records left s' := by
  cases a with
  | call errand => exact h.make hinv (hcall errand rfl).2 (hcall errand rfl).1 hs
  | resume => exact h.resume hinv hs
  | receive => exact h.receive hs
  | dropBatch i =>
    obtain ⟨batch, -, rfl⟩ := Option.map_eq_some_iff.1 hs
    exact h.congr rfl rfl rfl rfl rfl rfl rfl
  | cloneReceiver =>
    simp only [step?] at hs
    split at hs
    · cases hs
    · exact Option.some.inj hs ▸ h.congr rfl rfl rfl rfl rfl rfl rfl
  | giveUp | cancel | dropQueue | dropReceiver => exact hgentle.elim

theorem replay (hfits : ∀ r ∈ records, r.length + 1 ≤ maxBatchSize) : ∀ {actions : List Action} {s s' : QueueSession},
    s.replay? actions = some s' → (∀ a ∈ actions, a.IsGentle) →
    calls actions <:+ records.map .push ++ [.close] → Invariant maxBatchSize s →
    Feeding records (calls actions) s → Feeding records [] s'
  | [], s, s', hs, _, _, _, h => Option.some.inj hs ▸ h
  | a :: rest, s, s', hs, hgentle, hcalls, hinv, h => by
    obtain ⟨next, hnext, hrest⟩ := Option.bind_eq_some_iff.1 hs
    have hsplit : calls (a :: rest) = a.errand?.toList ++ calls rest := by
      rw [calls, List.filterMap_cons]
      cases a.errand? <;> rfl
    rw [hsplit] at hcalls h
    refine replay hfits hrest (fun b hb => hgentle b (List.mem_cons_of_mem _ hb)) ((List.suffix_append _ _).trans hcalls)
      (hinv.step hnext) (h.step hinv (hgentle a List.mem_cons_self) (fun errand herrand => ?_) hnext)
    rw [herrand] at hcalls
    obtain ⟨hlast, hmem⟩ := records_of_suffix hcalls
    exact ⟨hlast, fun r hr => hfits r (hmem r hr)⟩

/-- When all calls have ended, everything has been handed over. -/
theorem eq_groups (h : Feeding records [] s) (hcall : s.call = none) : s.accepted = records ∧
    (s.received ++ s.queue.waiting).map (·.bytes) = (groups s.queue.maxBatchSize records).map framed := by
  obtain ⟨-, -, haccepted, houtgoing, hlast⟩ := h
  obtain ⟨htodo, hpending⟩ := hlast rfl
  rw [htodo] at haccepted houtgoing
  rw [hpending, batchesFrom_nil, batchesFrom_nil] at houtgoing
  refine ⟨by simpa using haccepted, ?_⟩
  simpa [outgoing, offered, hcall, groups, groupsFrom] using houtgoing

end Feeding

/-! ## A receiver that keeps up -/

/-- Whether a session can go on: no call waits, nobody has cancelled, and there is a receiver. -/
structure IsOpen (s : QueueSession) : Prop where
  call_eq : s.call = none
  isCancelled_eq : s.queue.isCancelled = false
  isReceiving_eq : s.queue.isReceiving = true
  slots_pos : 0 < s.queue.slots
  receivers_ne : s.receivers ≠ 0

namespace IsOpen

variable {s : QueueSession}

theorem start (maxBatchSize slots : Nat) (pool : BufferPool) : IsOpen (.start maxBatchSize slots pool) where
  call_eq := rfl
  isCancelled_eq := rfl
  isReceiving_eq := rfl
  slots_pos := Nat.lt_of_lt_of_le Nat.zero_lt_one (Nat.le_max_left 1 slots)
  receivers_ne := Nat.one_ne_zero

/-- What is left to do when the pending bytes have been handed over does not close anything else. -/
theorem succeed (h : IsOpen s) (errand : Errand) (accepted : List (List UInt8)) :
    IsOpen { s with queue := errand.succeed s.queue, accepted } where
  call_eq := h.call_eq
  isCancelled_eq := (errand.isCancelled_succeed _).trans h.isCancelled_eq
  isReceiving_eq := (errand.isReceiving_succeed _).trans h.isReceiving_eq
  slots_pos := (errand.slots_succeed s.queue).symm ▸ h.slots_pos
  receivers_ne := h.receivers_ne

/-- **A call does not have to wait while no batch does.** -/
theorem make (h : IsOpen s) (hsend : s.queue.isSending = true) (hw : s.queue.waiting = []) (errand : Errand) :
    ∃ s', s.make? errand = some s' ∧ IsOpen s' ∧ s'.queue.waiting.length ≤ 1 ∧
      (errand ≠ .close → s'.queue.isSending = true) := by
  have hsending : ∀ q : BatchQueue, q.isSending = true → errand ≠ .close → (errand.succeed q).isSending = true := by
    intro q hq hne
    cases errand with
    | push | flush => exact hq
    | close => exact absurd rfl hne
  cases hands : errand.handsOver s.queue with
  | false =>
    rw [make?, if_neg (by simp [hsend, h.call_eq])]
    rcases Errand.run_eq_of_not_handsOver hands with ⟨record, -, -, hr⟩ | ⟨-, -, hr⟩ <;> rw [hr]
    · exact ⟨_, rfl, h, by simp [hw], fun _ => hsend⟩
    · exact ⟨_, rfl, h.succeed errand _, by simp [hw], hsending _ hsend⟩
  | true =>
    rw [make?_of_handsOver hsend h.call_eq hands]
    rcases s.queue.swapPending.offer_cases s.queue.pendingBatch with
      ⟨hc, _⟩ | ⟨_, hr, _⟩ | ⟨_, _, _, ho⟩ | ⟨_, _, hfull, _⟩
    · exact absurd (h.isCancelled_eq.symm.trans hc) Bool.false_ne_true
    · exact absurd (hr.symm.trans h.isReceiving_eq) Bool.false_ne_true
    · have hopen : IsOpen { s with
          queue := { s.queue.swapPending with waiting := s.queue.waiting ++ [s.queue.pendingBatch] } } :=
        ⟨h.call_eq, h.isCancelled_eq, h.isReceiving_eq, h.slots_pos, h.receivers_ne⟩
      refine ⟨_, rfl, ?_⟩
      rw [resume?]
      simp only [QueueSession.handingOver, ho, Option.getD_some]
      refine ⟨h.call_eq ▸ hopen.succeed errand _, by simp [hw], hsending _ hsend⟩
    · have hslots := h.slots_pos
      rw [BatchQueue.waiting_swapPending, hw] at hfull
      exact absurd hfull (Nat.not_le_of_lt hslots)

theorem receive (h : IsOpen s) (hw : s.queue.waiting.length ≤ 1) :
    ∃ s', s.receive? = some s' ∧ IsOpen s' ∧ s'.queue.waiting = [] ∧ s'.queue.isSending = s.queue.isSending := by
  rw [receive?, if_neg h.receivers_ne]
  rcases s.queue.receive_cases with ⟨hc, _⟩ | ⟨batch, waiting, _, hwaiting, ho⟩ | ⟨_, hnil, _, ho⟩ | ⟨_, hnil, _, ho⟩
  · exact absurd (h.isCancelled_eq.symm.trans hc) Bool.false_ne_true
  · rw [ho]
    refine ⟨_, rfl, ⟨h.call_eq, h.isCancelled_eq, h.isReceiving_eq, h.slots_pos, h.receivers_ne⟩, ?_, rfl⟩
    rw [hwaiting, List.length_cons] at hw
    exact List.length_eq_zero_iff.1 (Nat.le_zero.1 (Nat.le_of_succ_le_succ hw))
  · rw [ho]
    exact ⟨s, rfl, h, hnil, rfl⟩
  · rw [ho]
    exact ⟨s, rfl, h, hnil, rfl⟩

/-- **Records can always be pushed and the queue closed**, if a receiver takes every batch at once. -/
theorem exists_feed : ∀ (records : List (List UInt8)) {s : QueueSession}, IsOpen s → s.queue.isSending = true →
    s.queue.waiting = [] → ∃ actions s', Feeds records actions ∧ s.replay? actions = some s' ∧ IsOpen s' ∧
      s'.queue.waiting = []
  | [], s, h, hsend, hw => by
    obtain ⟨closed, hclose, hopen, hone, -⟩ := h.make hsend hw .close
    obtain ⟨s', hreceive, hopen', hw', -⟩ := hopen.receive hone
    refine ⟨[.call .close, .receive], s', ⟨rfl, fun a ha => ?_⟩, ?_, hopen', hw'⟩
    · rcases List.mem_pair.1 ha with rfl | rfl <;> trivial
    · simp [replay?, step?, hclose, hreceive]
  | r :: records, s, h, hsend, hw => by
    obtain ⟨pushed, hpush, hopen, hone, hstill⟩ := h.make hsend hw (.push r)
    obtain ⟨next, hreceive, hopen', hw', hsame⟩ := hopen.receive hone
    obtain ⟨actions, s', ⟨hcalls, hgentle⟩, hreplay, hs'⟩ :=
      exists_feed records hopen' (hsame.trans (hstill Errand.noConfusion)) hw'
    refine ⟨.call (.push r) :: .receive :: actions, s', ⟨?_, fun a ha => ?_⟩, ?_, hs'⟩
    · exact congrArg (Errand.push r :: ·) hcalls
    · rcases List.mem_cons.1 ha with rfl | ha
      · trivial
      · rcases List.mem_cons.1 ha with rfl | ha
        · trivial
        · exact hgentle a ha
    · simp [replay?, step?, hpush, hreceive, hreplay]

end IsOpen

/-! ## No fewer batches -/

/-- **The batches of a queue are as few as there can be.**  Records that fit a batch each can be pushed one after the
other and the queue be closed; however that is done, without a flush or anything cancelled or dropped, all of them are
accepted, and the batches hold them cut, in their order, into groups that fit.  There is no such cut with fewer groups,
and none whose first groups hold more records than as many of the first batches. -/
theorem batches_fewest (maxBatchSize slots : Nat) (pool : BufferPool) (hpool : pool.IsClean)
    (records : List (List UInt8)) (hfits : ∀ r ∈ records, r.length + 1 ≤ maxBatchSize) :
    (∃ actions s, Feeds records actions ∧ (start maxBatchSize slots pool).replay? actions = some s ∧ s.call = none ∧
      s.queue.waiting = []) ∧
    ∀ actions s, Feeds records actions → (start maxBatchSize slots pool).replay? actions = some s → s.call = none →
      s.accepted = records ∧ ∃ held, IsCut maxBatchSize records held ∧
        (s.received ++ s.queue.waiting).map (·.bytes) = held.map framed ∧
        ((∀ r ∈ records, r ≠ [] ∧ lineEnd ∉ r) → (s.received ++ s.queue.waiting).map Batch.records = held) ∧
        IsLeast {n | ∃ cut, IsCut maxBatchSize records cut ∧ cut.length = n} (s.received ++ s.queue.waiting).length ∧
        ∀ cut, IsCut maxBatchSize records cut → ∀ i, (cut.take i).flatten.length ≤ (held.take i).flatten.length := by
  constructor
  · have hwaiting : (start maxBatchSize slots pool).queue.waiting = [] := rfl
    obtain ⟨actions, s, hfeeds, hrun, hopen, hw⟩ := (IsOpen.start maxBatchSize slots pool).exists_feed records rfl hwaiting
    exact ⟨actions, s, hfeeds, hrun, hopen.call_eq, hw⟩
  · intro actions s ⟨hcalls, hgentle⟩ hrun hcall
    have hstart := Invariant.start maxBatchSize slots hpool
    have hfed := Feeding.replay hfits hrun hgentle (hcalls ▸ List.suffix_refl _) hstart
      (hcalls ▸ Feeding.start hpool maxBatchSize slots records)
    obtain ⟨haccepted, hbytes⟩ := hfed.eq_groups hcall
    rw [(Invariant.replay hrun hstart).maxBatchSize_eq] at hbytes
    have hlength := congrArg List.length hbytes
    rw [List.length_map, List.length_map] at hlength
    refine ⟨haccepted, groups maxBatchSize records, isCut_groups hfits, hbytes,
      fun hread => map_records_eq hbytes fun g hg r hr => hread r ?_, ⟨?_, ?_⟩, fun cut hcut i => ?_⟩
    · exact flatten_groups maxBatchSize records ▸ List.mem_flatten.2 ⟨g, hg, hr⟩
    · exact ⟨_, isCut_groups hfits, hlength.symm⟩
    · rintro n ⟨cut, hcut, rfl⟩
      exact hlength ▸ length_groups_le hfits hcut
    · simpa using length_flatten_take_le i [] hfits hcut

/-- Two batches of which the first is filled to the last byte, while a push waits for the only slot. -/
def fillingActions : List Action :=
  [.call (.push [1, 2, 3, 4]), .call (.push [5, 6, 7, 8]), .call (.push [9, 9]), .call (.push [1, 1, 1, 1, 1, 1, 1, 1]),
    .receive, .resume, .dropBatch 0, .receive, .call (.push [2]), .receive, .call .close]

theorem batches_fewest_filling : ∃ s, (start 10 1 {}).replay? fillingActions = some s ∧
    (s.received ++ s.queue.waiting).map (·.bytes) = [[1, 2, 3, 4, 10, 5, 6, 7, 8, 10], [9, 9, 10],
      [1, 1, 1, 1, 1, 1, 1, 1, 10], [2, 10]] ∧
    IsLeast {n | ∃ cut, IsCut 10 [[1, 2, 3, 4], [5, 6, 7, 8], [9, 9], [1, 1, 1, 1, 1, 1, 1, 1], [2]] cut ∧
      cut.length = n} 4 := by
  have hshown : ((start 10 1 {}).replay? fillingActions).map
      (fun s => (s.call, (s.received ++ s.queue.waiting).map (·.bytes))) =
      some (none, [[1, 2, 3, 4, 10, 5, 6, 7, 8, 10], [9, 9, 10], [1, 1, 1, 1, 1, 1, 1, 1, 10], [2, 10]]) := by
    decide
  obtain ⟨s, hrun, hs⟩ := Option.map_eq_some_iff.1 hshown
  obtain ⟨hcall, hbytes⟩ := Prod.mk.inj hs
  have hfeeds : Feeds [[1, 2, 3, 4], [5, 6, 7, 8], [9, 9], [1, 1, 1, 1, 1, 1, 1, 1], [2]] fillingActions :=
    ⟨rfl, by simp [fillingActions, Action.IsGentle]⟩
  obtain ⟨-, held, -, -, -, hleast, -⟩ :=
    (batches_fewest 10 1 {} BufferPool.isClean_empty _ (by decide)).2 fillingActions s hfeeds hrun hcall
  have hcount := congrArg List.length hbytes
  rw [List.length_map] at hcount
  rw [hcount] at hleast
  exact ⟨s, hrun, hbytes, hleast⟩

end QueueSession
end ObjectRelay

import ObjectRelay.Proofs.Batch.Groups
import ObjectRelay.Proofs.Batch.Session
/-!
# No record of a queue is lost unnoticed

The records whose push has succeeded are, in the order in which they were pushed, cut into groups: those of
the batches that were taken out, wait or are being handed over, those that were lost as a whole, and last the
pending ones.  `Accounts` says so with an explicit list of entries, one for every group that has left the pending
buffer; every action of a session keeps it (`conserves`).
-/
namespace ObjectRelay

/-- A group of records that has left the pending buffer, and by what it was lost, if it was. -/
structure Entry where
  loss : Option Loss
  records : List (List UInt8)

/-- The groups that were not lost. -/
def keptGroups (entries : List Entry) : List (List (List UInt8)) :=
  (entries.filter fun e => e.loss.isNone).map (·.records)

/-- The groups that were lost, as bytes, with what they were lost by. -/
def lostGroups (entries : List Entry) : List (Loss × List UInt8) :=
  entries.filterMap fun e => e.loss.map fun loss => (loss, framed e.records)

/-- Kept groups can be struck off in the middle: the records stay the same, and what is struck off is lost. -/
theorem exists_strike (loss : Loss) : ∀ (entries : List Entry) (before gone after : List (List UInt8)),
    (keptGroups entries).map framed = before ++ gone ++ after →
    ∃ struck : List Entry, struck.map (·.records) = entries.map (·.records) ∧
      (keptGroups struck).map framed = before ++ after ∧
      (lostGroups struck).Perm (lostGroups entries ++ gone.map fun bytes => (loss, bytes))
  | [], before, gone, after, h => by
    have hnil : before ++ gone ++ after = [] := h.symm
    rw [List.append_eq_nil_iff, List.append_eq_nil_iff] at hnil
    obtain ⟨⟨rfl, rfl⟩, rfl⟩ := hnil
    exact ⟨[], rfl, rfl, .nil⟩
  | ⟨some l, g⟩ :: entries, before, gone, after, h => by
    obtain ⟨struck, hrecords, hkept, hlost⟩ := exists_strike loss entries before gone after h
    exact ⟨⟨some l, g⟩ :: struck, congrArg (g :: ·) hrecords, hkept, hlost.cons (l, framed g)⟩
  | ⟨none, g⟩ :: entries, b :: before, gone, after, h => by
    obtain ⟨rfl, hrest⟩ := List.cons.inj h
    obtain ⟨struck, hrecords, hkept, hlost⟩ := exists_strike loss entries before gone after hrest
    exact ⟨⟨none, g⟩ :: struck, congrArg (g :: ·) hrecords, congrArg (framed g :: ·) hkept, hlost⟩
  | ⟨none, g⟩ :: entries, [], b :: gone, after, h => by
    obtain ⟨rfl, hrest⟩ := List.cons.inj h
    obtain ⟨struck, hrecords, hkept, hlost⟩ := exists_strike loss entries [] gone after hrest
    exact ⟨⟨some loss, g⟩ :: struck, congrArg (g :: ·) hrecords, hkept,
      (hlost.cons (loss, framed g)).trans List.perm_middle.symm⟩
  | ⟨none, g⟩ :: entries, [], [], after, h => ⟨⟨none, g⟩ :: entries, rfl, h, by simp⟩

namespace QueueSession

/-- **Where the records of a session are**: its entries and the records that are pending. -/
structure Accounts (entries : List Entry) (rest : List (List UInt8)) (s : QueueSession) : Prop where
  accepted_eq : s.accepted = entries.flatMap (·.records) ++ rest
  pending_eq : s.queue.pending = framed rest
  outgoing_eq : s.outgoing.map (·.bytes) = (keptGroups entries).map framed
  lost_perm : (lostGroups entries).Perm s.lost
  fits : ∀ e ∈ entries, e.records ≠ [] ∧ (framed e.records).length ≤ s.queue.maxBatchSize
  rest_fits : (framed rest).length ≤ s.queue.maxBatchSize

namespace Accounts

variable {entries : List Entry} {rest : List (List UInt8)} {s s' : QueueSession}

/-- Only what the accounts speak of counts. -/
theorem congr (h : Accounts entries rest s) (haccepted : s'.accepted = s.accepted)
    (hpending : s'.queue.pending = s.queue.pending)
    (houtgoing : s'.outgoing.map (·.bytes) = s.outgoing.map (·.bytes)) (hlost : s'.lost = s.lost)
    (hsize : s'.queue.maxBatchSize = s.queue.maxBatchSize) : Accounts entries rest s' where
  accepted_eq := haccepted.trans h.accepted_eq
  pending_eq := hpending.trans h.pending_eq
  outgoing_eq := houtgoing.trans h.outgoing_eq
  lost_perm := hlost ▸ h.lost_perm
  fits e he := hsize ▸ h.fits e he
  rest_fits := hsize ▸ h.rest_fits

theorem rest_eq_nil_iff (h : Accounts entries rest s) : rest = [] ↔ s.queue.pending = [] := by
  rw [h.pending_eq, framed_eq_nil_iff]

/-- The pending records leave the pending buffer as a group. -/
theorem leave (h : Accounts entries rest s) (loss : Option Loss) (hpending : s.queue.pending ≠ [])
    (haccepted : s'.accepted = s.accepted) (hpending' : s'.queue.pending = [])
    (houtgoing : s'.outgoing.map (·.bytes) =
      s.outgoing.map (·.bytes) ++ if loss.isNone then [s.queue.pending] else [])
    (hlost : s'.lost = s.lost ++ (loss.map fun l => (l, s.queue.pending)).toList)
    (hsize : s'.queue.maxBatchSize = s.queue.maxBatchSize) :
    Accounts (entries ++ [⟨loss, rest⟩]) [] s' where
  accepted_eq := by simp [haccepted, h.accepted_eq]
  pending_eq := hpending'
  outgoing_eq := by
    rw [houtgoing, h.outgoing_eq, h.pending_eq]
    cases loss <;> simp [keptGroups]
  lost_perm := by
    have hsplit : lostGroups (entries ++ [⟨loss, rest⟩]) =
        lostGroups entries ++ (loss.map fun l => (l, s.queue.pending)).toList := by
      rw [h.pending_eq]
      cases loss <;> simp [lostGroups]
    rw [hsplit, hlost]
    exact h.lost_perm.append_right _
  fits e he := by
    rw [hsize]
    rcases List.mem_append.1 he with he | he
    · exact h.fits e he
    · obtain rfl := List.mem_singleton.1 he
      exact ⟨fun hnil => hpending (h.rest_eq_nil_iff.1 hnil), h.rest_fits⟩
  rest_fits := Nat.zero_le _

/-- Pending records are lost, if there are any. -/
theorem lose (h : Accounts entries rest s) (loss : Loss) (haccepted : s'.accepted = s.accepted)
    (hpending' : s'.queue.pending = []) (houtgoing : s'.outgoing.map (·.bytes) = s.outgoing.map (·.bytes))
    (hlost : s'.lost = s.lost ++ lostPending loss s.queue)
    (hsize : s'.queue.maxBatchSize = s.queue.maxBatchSize) : ∃ entries' rest', Accounts entries' rest' s' := by
  by_cases hp : s.queue.pending = []
  · obtain rfl := h.rest_eq_nil_iff.2 hp
    exact ⟨entries, [], h.congr haccepted (hpending'.trans hp.symm) houtgoing
      (by rw [hlost, lostPending, hp]; exact List.append_nil _) hsize⟩
  · refine ⟨_, _, h.leave (some loss) hp haccepted hpending' (by simpa using houtgoing) ?_ hsize⟩
    rw [hlost, lostPending, if_neg (by simpa using hp)]
    rfl

/-- A call that has nothing left to hand over succeeds. -/
theorem succeed (h : Accounts entries rest s) (errand : Errand)
    (hroom : ∀ r ∈ errand.records, s.queue.pending.length + (r.length + 1) ≤ s.queue.maxBatchSize)
    (hempty : errand.records = [] → s.queue.pending = []) :
    ∃ rest', Accounts entries rest'
      { s with queue := errand.succeed s.queue, accepted := s.accepted ++ errand.records } := by
  cases errand with
  | push record =>
    refine ⟨rest ++ [record], { h with accepted_eq := ?_, pending_eq := ?_, rest_fits := ?_ }⟩
    · rw [h.accepted_eq, List.append_assoc]
      rfl
    · rw [framed_append, framed_singleton, ← h.pending_eq, ← List.append_assoc]
      rfl
    · have hfits := hroom record List.mem_cons_self
      rw [h.pending_eq] at hfits
      simpa [Errand.succeed, BatchQueue.append, Nat.add_assoc] using hfits
  | flush => exact ⟨rest, h.congr (List.append_nil _) rfl rfl rfl rfl⟩
  | close => exact ⟨rest, h.congr (List.append_nil _) (hempty rfl).symm rfl rfl rfl⟩

/-- Batches that have left the sending side are lost. -/
theorem strike (h : Accounts entries rest s) (loss : Loss) (before gone after : List Batch)
    (houtgoing : s.outgoing = before ++ gone ++ after) (haccepted : s'.accepted = s.accepted)
    (hpending : s'.queue.pending = s.queue.pending) (houtgoing' : s'.outgoing = before ++ after)
    (hlost : s'.lost = s.lost ++ gone.map fun batch => (loss, batch.bytes))
    (hsize : s'.queue.maxBatchSize = s.queue.maxBatchSize) : ∃ entries' rest', Accounts entries' rest' s' := by
  have hkept := h.outgoing_eq
  rw [houtgoing, List.map_append, List.map_append] at hkept
  obtain ⟨struck, hrecords, hstruck, hlost'⟩ := exists_strike loss entries _ _ _ hkept.symm
  refine ⟨struck, rest, ?_, hpending.trans h.pending_eq, ?_, ?_, fun e he => ?_, hsize ▸ h.rest_fits⟩
  · rw [haccepted, h.accepted_eq, List.flatMap_def, List.flatMap_def, hrecords]
  · rw [houtgoing', List.map_append, hstruck]
  · rw [hlost]
    rw [List.map_map] at hlost'
    exact hlost'.trans (h.lost_perm.append_right _)
  · have hmem : e.records ∈ entries.map (·.records) := hrecords ▸ List.mem_map_of_mem he
    obtain ⟨e', he', heq⟩ := List.mem_map.1 hmem
    rw [← heq, hsize]
    exact h.fits e' he'

end Accounts

/-- What every state of a session has. -/
structure Invariant (maxBatchSize : Nat) (s : QueueSession) : Prop where
  maxBatchSize_eq : s.queue.maxBatchSize = maxBatchSize
  isClean : s.queue.pool.IsClean
  /-- While a call waits nothing is pending, and what it adds fits a batch. -/
  call_spec : ∀ errand batch, s.call = some (errand, batch) →
    s.queue.pending = [] ∧ ∀ r ∈ errand.records, r.length + 1 ≤ maxBatchSize
  accounts : ∃ entries rest, Accounts entries rest s

namespace Invariant

variable {maxBatchSize : Nat} {s s' : QueueSession}

theorem start (maxBatchSize slots : Nat) {pool : BufferPool} (hpool : pool.IsClean) :
    Invariant maxBatchSize (.start maxBatchSize slots pool) where
  maxBatchSize_eq := rfl
  isClean := hpool.take _
  call_spec _ _ h := nomatch h
  accounts := ⟨[], [], rfl, BufferPool.take_fst_of_isClean hpool _, rfl, .nil, nofun, Nat.zero_le _⟩

section Make

variable (h : Invariant maxBatchSize s) (hcall : s.call = none)
include h hcall

/-- A call that has nothing left to hand over succeeds. -/
theorem succeed (errand : Errand)
    (hroom : ∀ r ∈ errand.records, s.queue.pending.length + (r.length + 1) ≤ s.queue.maxBatchSize)
    (hempty : errand.records = [] → s.queue.pending = []) :
    Invariant maxBatchSize
      { s with queue := errand.succeed s.queue, accepted := s.accepted ++ errand.records } := by
  obtain ⟨entries, rest, hacc⟩ := h.accounts
  obtain ⟨rest', hacc'⟩ := hacc.succeed errand hroom hempty
  refine ⟨?_, ?_, fun e b hc => ?_, entries, rest', hacc'⟩
  · exact (errand.maxBatchSize_succeed _).trans h.maxBatchSize_eq
  · exact (errand.pool_succeed _).symm ▸ h.isClean
  · exact absurd (hcall.symm.trans hc) nofun

/-- The pending bytes wait as a batch. -/
theorem sendPending (hp : s.queue.pending ≠ []) :
    Invariant maxBatchSize { s with queue := s.queue.sendPending } := by
  obtain ⟨entries, rest, hacc⟩ := h.accounts
  refine ⟨h.maxBatchSize_eq, h.isClean.take _, fun e b hc => absurd (hcall.symm.trans hc) nofun, _, [],
    hacc.leave none hp rfl (BatchQueue.pending_swapPending h.isClean) ?_ (List.append_nil _).symm rfl⟩
  simp [outgoing, offered, hcall, BatchQueue.sendPending, BatchQueue.pendingBatch]

/-- A call waits with the pending bytes. -/
theorem offerPending (hp : s.queue.pending ≠ []) (errand : Errand)
    (hfits : ∀ r ∈ errand.records, r.length + 1 ≤ s.queue.maxBatchSize) :
    Invariant maxBatchSize
      { s with queue := s.queue.swapPending, call := some (errand, s.queue.pendingBatch) } := by
  obtain ⟨entries, rest, hacc⟩ := h.accounts
  have hswap := BatchQueue.pending_swapPending h.isClean
  refine ⟨h.maxBatchSize_eq, h.isClean.take _, fun e b hc => ?_, _, [],
    hacc.leave none hp rfl hswap ?_ (List.append_nil _).symm rfl⟩
  · obtain ⟨rfl, rfl⟩ := Prod.mk.inj (Option.some.inj hc)
    exact ⟨hswap, h.maxBatchSize_eq ▸ hfits⟩
  · simp [outgoing, offered, hcall, BatchQueue.pendingBatch]

/-- A call fails, and the pending bytes are lost. -/
theorem losePending (errand : Errand) :
    Invariant maxBatchSize { s with
      queue := errand.fail s.queue.losePending
      lost := s.lost ++ lostPending .refused s.queue } := by
  obtain ⟨entries, rest, hacc⟩ := h.accounts
  have hswap := BatchQueue.pending_swapPending h.isClean
  refine ⟨?_, ?_, fun e b hc => ?_, hacc.lose .refused rfl (Errand.pending_fail hswap) ?_ rfl ?_⟩
  · exact (errand.maxBatchSize_fail _).trans h.maxBatchSize_eq
  · exact (errand.pool_fail _).symm ▸ (h.isClean.take _).give _
  · exact absurd (hcall.symm.trans hc) nofun
  · simp [outgoing, offered, BatchQueue.losePending, BatchQueue.release]
  · exact errand.maxBatchSize_fail _

end Make

/-- Making a call keeps the invariant, whatever comes of it. -/
theorem make (h : Invariant maxBatchSize s) {errand : Errand} (hs : s.make? errand = some s') :
    Invariant maxBatchSize s' := by
  unfold make? at hs
  split at hs
  · cases hs
  rename_i hguard
  have hcall : s.call = none := by
    cases hc : s.call with
    | none => rfl
    | some call => simp [hc] at hguard
  have hswap := BatchQueue.pending_swapPending h.isClean
  rcases errand.run_cases s.queue with
    ⟨record, -, hr⟩ | ⟨hroom, hempty, hr⟩ | ⟨hp, hfits, hr | ⟨error, he, hr⟩ | hr⟩ <;> rw [hr] at hs
  · exact Option.some.inj hs ▸ h
  · exact Option.some.inj hs ▸ h.succeed hcall errand hroom hempty
  · -- the pending bytes go first, and then the call succeeds on an empty buffer
    refine Option.some.inj hs ▸ (h.sendPending hcall hp).succeed hcall errand (fun r hr => ?_) fun _ => hswap
    simpa [BatchQueue.sendPending, hswap] using hfits r hr
  · rcases he with rfl | rfl <;> exact Option.some.inj hs ▸ h.losePending hcall errand
  · exact Option.some.inj hs ▸ h.offerPending hcall hp errand hfits

/-- The call that waits ends with its batch lost. -/
theorem loseCall (h : Invariant maxBatchSize s) {errand : Errand} {batch : Batch}
    (hcall : s.call = some (errand, batch)) (loss : Loss) :
    Invariant maxBatchSize { s with
      queue := errand.fail (s.queue.release batch)
      call := none
      lost := s.lost ++ [(loss, batch.bytes)] } := by
  obtain ⟨entries, rest, hacc⟩ := h.accounts
  have hpending := (h.call_spec errand batch hcall).1
  have hfail : (errand.fail (s.queue.release batch)).pending = [] := Errand.pending_fail hpending
  refine ⟨?_, ?_, fun e b hc => (nomatch hc),
    hacc.strike loss (s.received ++ s.queue.waiting) [batch] [] ?_ rfl (hfail.trans hpending.symm) ?_ rfl ?_⟩
  · exact (errand.maxBatchSize_fail _).trans h.maxBatchSize_eq
  · exact (errand.pool_fail _).symm ▸ h.isClean.give batch
  · simp [outgoing, offered, hcall]
  · simp [outgoing, offered, BatchQueue.release]
  · exact errand.maxBatchSize_fail _

theorem resume (h : Invariant maxBatchSize s) (hs : s.resume? = some s') : Invariant maxBatchSize s' := by
  obtain ⟨errand, batch, hcall, ⟨-, rfl⟩ | rfl⟩ := resume_cases hs
  · exact h.loseCall hcall .refused
  · obtain ⟨hpending, hfits⟩ := h.call_spec errand batch hcall
    obtain ⟨entries, rest, hacc⟩ := h.accounts
    have htaken : Invariant maxBatchSize
        { s with queue.waiting := s.queue.waiting ++ [batch], call := none } :=
      ⟨h.maxBatchSize_eq, h.isClean, (fun e b hc => nomatch hc), entries, rest,
        hacc.congr rfl rfl (by simp [outgoing, offered, hcall]) rfl rfl⟩
    refine htaken.succeed rfl errand (fun r hr => ?_) fun _ => hpending
    simpa [hpending, h.maxBatchSize_eq] using hfits r hr

theorem giveUp (h : Invariant maxBatchSize s) (hs : s.giveUp? = some s') : Invariant maxBatchSize s' := by
  unfold giveUp? at hs
  split at hs
  · cases hs
  · rename_i errand batch hcall
    exact Option.some.inj hs ▸ h.loseCall hcall .givenUp

theorem receive (h : Invariant maxBatchSize s) (hs : s.receive? = some s') : Invariant maxBatchSize s' := by
  obtain rfl | ⟨batch, waiting, hw, rfl⟩ := receive_cases hs
  · exact h
  · obtain ⟨entries, rest, hacc⟩ := h.accounts
    refine ⟨h.maxBatchSize_eq, h.isClean, h.call_spec, entries, rest, hacc.congr rfl rfl ?_ rfl rfl⟩
    simp [outgoing, hw, offered]

theorem dropBatch (h : Invariant maxBatchSize s) {i : Nat} (hs : s.dropBatch? i = some s') :
    Invariant maxBatchSize s' := by
  obtain ⟨batch, -, rfl⟩ := Option.map_eq_some_iff.1 hs
  obtain ⟨entries, rest, hacc⟩ := h.accounts
  exact ⟨h.maxBatchSize_eq, h.isClean.give batch, h.call_spec, entries, rest, hacc.congr rfl rfl rfl rfl rfl⟩

theorem dropQueue (h : Invariant maxBatchSize s) (hs : s.dropQueue? = some s') : Invariant maxBatchSize s' := by
  unfold dropQueue? at hs
  split at hs
  · cases hs
  obtain rfl := Option.some.inj hs
  obtain ⟨entries, rest, hacc⟩ := h.accounts
  exact ⟨h.maxBatchSize_eq, h.isClean, fun e b hc => ⟨rfl, (h.call_spec e b hc).2⟩,
    hacc.lose .discarded rfl rfl rfl rfl rfl⟩

theorem dropReceiver (h : Invariant maxBatchSize s) (hs : s.dropReceiver? = some s') :
    Invariant maxBatchSize s' := by
  obtain ⟨entries, rest, hacc⟩ := h.accounts
  unfold dropReceiver? at hs
  split at hs
  · cases hs
  · obtain rfl := Option.some.inj hs
    refine ⟨h.maxBatchSize_eq, h.isClean.foldl_give _, h.call_spec,
      hacc.strike .stranded s.received s.queue.waiting s.offered rfl rfl rfl ?_ rfl rfl⟩
    simp [outgoing, BatchQueue.dropReceiver, offered]
  · exact Option.some.inj hs ▸ ⟨h.maxBatchSize_eq, h.isClean, h.call_spec, entries, rest,
      hacc.congr rfl rfl rfl rfl rfl⟩

/-- **Every action keeps the invariant.** -/
theorem step (h : Invariant maxBatchSize s) {a : Action} (hs : s.step? a = some s') : Invariant maxBatchSize s' := by
  obtain ⟨entries, rest, hacc⟩ := h.accounts
  cases a with
  | call errand => exact h.make hs
  | resume => exact h.resume hs
  | giveUp => exact h.giveUp hs
  | receive => exact h.receive hs
  | dropBatch i => exact h.dropBatch hs
  | cancel =>
    exact Option.some.inj hs ▸ ⟨h.maxBatchSize_eq, h.isClean, h.call_spec, entries, rest,
      hacc.congr rfl rfl rfl rfl rfl⟩
  | dropQueue => exact h.dropQueue hs
  | cloneReceiver =>
    simp only [step?] at hs
    split at hs
    · cases hs
    · exact Option.some.inj hs ▸ ⟨h.maxBatchSize_eq, h.isClean, h.call_spec, entries, rest,
        hacc.congr rfl rfl rfl rfl rfl⟩
  | dropReceiver => exact h.dropReceiver hs

theorem replay : ∀ {actions : List Action} {s s' : QueueSession}, s.replay? actions = some s' →
    Invariant maxBatchSize s → Invariant maxBatchSize s'
  | [], s, s', hs, h => Option.some.inj hs ▸ h
  | a :: actions, s, s', hs, h => by
    obtain ⟨next, hnext, hrest⟩ := Option.bind_eq_some_iff.1 hs
    exact replay hrest (h.step hnext)

end Invariant

namespace Accounts

variable {entries : List Entry} {rest : List (List UInt8)} {s : QueueSession}

/-- Every batch is a group of records. -/
theorem exists_of_mem_outgoing (h : Accounts entries rest s) {batch : Batch} (hmem : batch ∈ s.outgoing) :
    ∃ group, group ≠ [] ∧ batch.bytes = framed group ∧ batch.bytes.length ≤ s.queue.maxBatchSize := by
  have hbytes : batch.bytes ∈ (keptGroups entries).map framed := h.outgoing_eq ▸ List.mem_map_of_mem hmem
  obtain ⟨group, hgroup, hframed⟩ := List.mem_map.1 hbytes
  obtain ⟨e, he, rfl⟩ := List.mem_map.1 hgroup
  obtain ⟨hne, hlength⟩ := h.fits e (List.mem_filter.1 he).1
  exact ⟨e.records, hne, hframed.symm, hframed ▸ hlength⟩

/-- The records of the batches are those of the groups, if every record can be read back. -/
theorem map_records (h : Accounts entries rest s) (hrecords : ∀ r ∈ s.accepted, r ≠ [] ∧ lineEnd ∉ r) :
    s.outgoing.map Batch.records = keptGroups entries := by
  refine map_records_eq h.outgoing_eq fun group hgroup r hr => hrecords r ?_
  obtain ⟨e, he, rfl⟩ := List.mem_map.1 hgroup
  rw [h.accepted_eq]
  exact List.mem_append_left _ (List.mem_flatMap.2 ⟨e, (List.mem_filter.1 he).1, hr⟩)

end Accounts

/-- **What becomes of the records of a queue**, in every session.  The records whose push has succeeded are, in
their order, the groups of the entries and the pending ones; the batches that were taken out, wait or are being
handed over are the kept groups, in their order, and what was lost are the others, each lost as a whole.  No batch
is empty, too large or without its last line end, and records that are neither empty nor hold a line end can be
read back from it.  A push of a record that is too long changes nothing.  Whatever is done, idle buffers stay
empty, as those of a new pool are. -/
theorem conserves (maxBatchSize slots : Nat) (pool : BufferPool) (hpool : pool.IsClean) (actions : List Action)
    (s : QueueSession) (hrun : (start maxBatchSize slots pool).replay? actions = some s) :
    (∃ entries rest, Accounts entries rest s ∧
      (s.outgoing.map (·.bytes)).flatten ++ s.queue.pending = framed ((keptGroups entries).flatten ++ rest) ∧
      ((∀ r ∈ s.accepted, r ≠ [] ∧ lineEnd ∉ r) → s.outgoing.map Batch.records = keptGroups entries)) ∧
    (∀ batch ∈ s.outgoing, batch.bytes ≠ [] ∧ batch.bytes.length ≤ maxBatchSize ∧
      batch.bytes.getLast? = some lineEnd) ∧
    (∀ record length size, (s.queue.push record).1 = .failed (.recordTooLong length size) →
      (s.queue.push record).2 = s.queue) ∧
    s.queue.pool.IsClean := by
  have hinv := Invariant.replay hrun (.start maxBatchSize slots hpool)
  obtain ⟨entries, rest, hacc⟩ := hinv.accounts
  refine ⟨⟨entries, rest, hacc, ?_, hacc.map_records⟩, fun batch hmem => ?_,
    fun record length size h => BatchQueue.push_eq_self_of_tooLong h, hinv.isClean⟩
  · rw [hacc.outgoing_eq, hacc.pending_eq, framed_append, framed_flatten]
  · obtain ⟨group, hne, hbytes, hlength⟩ := hacc.exists_of_mem_outgoing hmem
    refine ⟨?_, hinv.maxBatchSize_eq ▸ hlength, hbytes ▸ getLast?_framed hne⟩
    rw [hbytes]
    exact fun hnil => hne (framed_eq_nil_iff.1 hnil)

/-- A push that waits for the only slot, a batch that is taken out to make room, and a push that fails. -/
def crowdedActions : List Action :=
  [.call (.push [1, 2]), .call (.push [3]), .call (.push [4, 5, 6]), .call (.push [7, 8]), .receive, .resume,
    .dropBatch 0, .cancel, .call (.push [9, 9, 9]), .call (.push [9, 9, 9, 9, 9]), .dropReceiver, .dropQueue]

theorem conserves_crowded : ∃ s, (start 5 1 {}).replay? crowdedActions = some s ∧
    s.accepted = [[1, 2], [3], [4, 5, 6], [7, 8]] ∧ s.received.map (·.bytes) = [[1, 2, 10, 3, 10]] ∧
    s.lost = [(.refused, [7, 8, 10]), (.stranded, [4, 5, 6, 10])] ∧
    ∃ entries rest, Accounts entries rest s ∧ s.outgoing.map Batch.records = keptGroups entries := by
  have hshown : ((start 5 1 {}).replay? crowdedActions).map
      (fun s => (s.accepted, s.received.map (·.bytes), s.lost)) =
      some ([[1, 2], [3], [4, 5, 6], [7, 8]], [[1, 2, 10, 3, 10]],
        [(.refused, [7, 8, 10]), (.stranded, [4, 5, 6, 10])]) := by decide
  obtain ⟨s, hrun, hs⟩ := Option.map_eq_some_iff.1 hshown
  obtain ⟨haccepted, hreceived, hlost⟩ : s.accepted = _ ∧ s.received.map (·.bytes) = _ ∧ s.lost = _ := by
    simpa only [Prod.mk.injEq] using hs
  obtain ⟨entries, rest, hacc, -, hrecords⟩ := (conserves 5 1 {} BufferPool.isClean_empty crowdedActions s hrun).1
  refine ⟨s, hrun, haccepted, hreceived, hlost, entries, rest, hacc, hrecords ?_⟩
  rw [haccepted]
  decide

end QueueSession
end ObjectRelay

import ObjectRelay.Batch.Buffer
import ObjectRelay.Proofs.Lists
/-!
# The buffers of a pool

What `take` hands out becomes the pending buffer as it is, so nothing that a batch held
before may be left in it.  `IsClean` says that every idle buffer is empty; a pool starts so, and
taking and giving keep it.  Batches that somebody holds are outstanding.  All that can become of them
and of the pool is a `Turnover`: one more is lent, or some come back, and the pool gets exactly their buffers.
-/
namespace ObjectRelay
namespace BufferPool

theorem lookup_place (capacity : Nat) (buffers : List (List UInt8)) (c : Nat) : ∀ shelves,
    (place capacity buffers shelves).lookup c = if c = capacity then some buffers else shelves.lookup c
  | [] => lookup_cons_eq capacity c buffers []
  | (d, shelf) :: rest => by
    rw [place]
    split
    · rename_i h
      obtain rfl : d = capacity := by simpa using h
      rw [lookup_cons_eq, lookup_cons_eq]
      by_cases hc : c = d <;> simp [hc]
    · rename_i h
      rw [beq_iff_eq] at h
      rw [lookup_cons_eq, lookup_cons_eq, lookup_place capacity buffers c rest]
      by_cases hc : c = d
      · subst hc
        simp [h]
      · simp [hc]

/-- The idle buffers of a pool whose shelf of one size has been replaced. -/
theorem idle_place (pool : BufferPool) (capacity : Nat) (buffers : List (List UInt8)) (c : Nat) :
    idle ⟨place capacity buffers pool.shelves⟩ c = if c = capacity then buffers else pool.idle c := by
  rw [idle, lookup_place]
  split <;> rfl

/-- Whether every idle buffer is empty. -/
def IsClean (pool : BufferPool) : Prop := ∀ capacity, ∀ buffer ∈ pool.idle capacity, buffer = []

theorem isClean_empty : IsClean {} := fun _ _ h => nomatch h

theorem take_fst_of_isClean {pool : BufferPool} (h : pool.IsClean) (capacity : Nat) :
    (pool.take capacity).1 = [] := by
  rw [take]
  split
  · rfl
  · rename_i buffer rest hidle
    exact h capacity buffer (by rw [hidle]; exact List.mem_cons_self)

theorem IsClean.take {pool : BufferPool} (h : pool.IsClean) (capacity : Nat) :
    (pool.take capacity).2.IsClean := by
  rw [BufferPool.take]
  split
  · exact h
  · rename_i buffer rest hidle
    intro c b hb
    rw [idle_place] at hb
    split at hb
    · exact h capacity b (by rw [hidle]; exact List.mem_cons_of_mem _ hb)
    · exact h c b hb

theorem IsClean.give {pool : BufferPool} (h : pool.IsClean) (batch : Batch) :
    (pool.give batch).IsClean := by
  intro c b hb
  rw [BufferPool.give, idle_place] at hb
  split at hb
  · rcases List.mem_cons.mp hb with rfl | hb
    · rfl
    · exact h _ b hb
  · exact h c b hb

theorem IsClean.foldl_give : ∀ (batches : List Batch) {pool : BufferPool}, pool.IsClean →
    (batches.foldl BufferPool.give pool).IsClean
  | [], _, h => h
  | batch :: batches, _, h => IsClean.foldl_give batches (h.give batch)

/-! ## How many buffers are idle -/

theorem length_idle_take (pool : BufferPool) (capacity : Nat) :
    ((pool.take capacity).2.idle capacity).length = (pool.idle capacity).length - 1 := by
  unfold take
  split
  · rename_i hidle
    rw [hidle]
    rfl
  · rename_i buffer rest hidle
    rw [idle_place, if_pos rfl, hidle]
    rfl

theorem length_idle_give (pool : BufferPool) (batch : Batch) :
    ((pool.give batch).idle batch.capacity).length = (pool.idle batch.capacity).length + 1 := by
  rw [give, idle_place, if_pos rfl]
  rfl

theorem length_idle_foldl_give {capacity : Nat} : ∀ (batches : List Batch) (pool : BufferPool),
    (∀ batch ∈ batches, batch.capacity = capacity) →
    ((batches.foldl give pool).idle capacity).length = (pool.idle capacity).length + batches.length
  | [], _, _ => rfl
  | batch :: batches, pool, h => by
    have hbatch : batch.capacity = capacity := h batch List.mem_cons_self
    have hgive := length_idle_give pool batch
    have hrest := length_idle_foldl_give batches (pool.give batch) fun b hb => h b (List.mem_cons_of_mem _ hb)
    rw [hbatch] at hgive
    rw [List.foldl_cons, hrest, hgive, List.length_cons]
    omega

theorem idle_take_of_ne {capacity c : Nat} (h : c ≠ capacity) (pool : BufferPool) :
    (pool.take capacity).2.idle c = pool.idle c := by
  unfold take
  split
  · rfl
  · rw [idle_place, if_neg h]

theorem idle_foldl_give_of_ne {capacity c : Nat} (h : c ≠ capacity) : ∀ (batches : List Batch) (pool : BufferPool),
    (∀ batch ∈ batches, batch.capacity = capacity) → (batches.foldl give pool).idle c = pool.idle c
  | [], _, _ => rfl
  | batch :: batches, pool, hcapacity => by
    have hne : c ≠ batch.capacity := hcapacity batch List.mem_cons_self ▸ h
    rw [List.foldl_cons, idle_foldl_give_of_ne h batches _ fun b hb => hcapacity b (List.mem_cons_of_mem _ hb), give,
      idle_place, if_neg hne]

/-! ## Lending and giving back -/

/-- **What becomes of outstanding batches and of the pool.** -/
inductive Turnover (size : Nat) (out : List Batch) (pool : BufferPool) (out' : List Batch) (pool' : BufferPool) : Prop
  | lent (batch : Batch) (hsize : batch.capacity = size) (hout : out'.Perm (batch :: out))
      (hpool : pool' = (pool.take size).2)
  | returned (batches : List Batch) (hout : out.Perm (batches ++ out')) (hpool : pool' = batches.foldl give pool)

/-- What a pool is like whose batches are all of one size: so are they and the idle buffers, and these are empty. -/
structure Serves (size : Nat) (out : List Batch) (pool : BufferPool) : Prop where
  capacity_eq : ∀ batch ∈ out, batch.capacity = size
  isClean : pool.IsClean
  idle_eq_nil : ∀ c, c ≠ size → pool.idle c = []

section Turnover

variable {size : Nat} {out out' : List Batch} {pool pool' : BufferPool}

theorem Serves.turnover (h : Serves size out pool) (hturn : Turnover size out pool out' pool') :
    Serves size out' pool' := by
  cases hturn with
  | lent batch hsize hout hpool =>
    subst hpool
    refine ⟨fun b hb => ?_, h.isClean.take size, fun c hc => (idle_take_of_ne hc pool).trans (h.idle_eq_nil c hc)⟩
    rcases List.mem_cons.1 (hout.mem_iff.1 hb) with rfl | hb
    · exact hsize
    · exact h.capacity_eq b hb
  | returned batches hout hpool =>
    subst hpool
    have hback : ∀ b ∈ batches, b.capacity = size := fun b hb =>
      h.capacity_eq b (hout.mem_iff.2 (List.mem_append_left _ hb))
    exact ⟨fun b hb => h.capacity_eq b (hout.mem_iff.2 (List.mem_append_right _ hb)), h.isClean.foldl_give batches,
      fun c hc => (idle_foldl_give_of_ne hc batches pool hback).trans (h.idle_eq_nil c hc)⟩

/-- **A turnover in numbers**: as many buffers as come back are idle again, and one that is lent was idle, if any was. -/
theorem Serves.length_turnover (h : Serves size out pool) (hturn : Turnover size out pool out' pool') :
    out'.length = out.length + 1 ∧ (pool'.idle size).length = (pool.idle size).length - 1 ∨
      ∃ n, out.length = n + out'.length ∧ (pool'.idle size).length = (pool.idle size).length + n := by
  cases hturn with
  | lent batch hsize hout hpool =>
    subst hpool
    exact .inl ⟨hout.length_eq, pool.length_idle_take size⟩
  | returned batches hout hpool =>
    subst hpool
    refine .inr ⟨batches.length, by rw [hout.length_eq, List.length_append], ?_⟩
    exact length_idle_foldl_give batches pool fun b hb =>
      h.capacity_eq b (hout.mem_iff.2 (List.mem_append_left _ hb))

end Turnover

end BufferPool
end ObjectRelay

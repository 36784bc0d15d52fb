/-!
# Limits on batches

How large a record and a batch may grow, and how many batches are delivered side by
side.
-/
namespace ObjectRelay

/-- The limits of a batch run, in bytes and participants. -/
structure BatchLimits where
  /-- Larger records are left out. -/
  maxRecordSize : Nat := 4000000
  /-- No batch is larger, line ends included. -/
  maxBatchSize : Nat := 10000000
  /-- How many consumers deliver batches; none counts as one. -/
  maxConcurrency : Nat := 4
deriving DecidableEq, Repr

namespace BatchLimits

def consumers (limits : BatchLimits) : Nat := max 1 limits.maxConcurrency

/-- How many batches may wait for a consumer. -/
def slots (limits : BatchLimits) : Nat := 2 * limits.consumers

/-- The number of batches that may wait, as 64 bits have it. -/
def slotsWord (limits : BatchLimits) : UInt64 := 2 * (max 1 limits.maxConcurrency).toUInt64

end BatchLimits

/-- The greatest number of things a queue or a permit counter can hold. -/
def countLimit : Nat := 0x1FFFFFFFFFFFFFFF

/-- The program panics, asked for a queue or a permit counter that holds so many things. -/
structure CountPanic where
  count : Nat
deriving DecidableEq, Repr

/-- Makes room for so many things. -/
def reserve (count : Nat) : Except CountPanic Unit :=
  if count ≤ countLimit then .ok () else .error ⟨count⟩

/-- Makes room for the batches that may wait.  A size that 64 bits do not hold is not the one that is asked for, so
there is no room for it either. -/
def BatchLimits.reserveSlots (limits : BatchLimits) : Except CountPanic Unit :=
  if limits.slotsWord.toNat = limits.slots then reserve limits.slots else .error ⟨limits.slots⟩

end ObjectRelay

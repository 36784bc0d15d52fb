/-!
# Batches and their buffers

A batch is a run of lines in a buffer.  Buffers are not thrown away: a pool keeps those
that are idle, under the size of batch they were taken for, and gives them out empty.
-/
namespace ObjectRelay

def lineEnd : UInt8 := 0x0A

/-- A batch that a consumer can own. -/
structure Batch where
  bytes : List UInt8
  /-- The size of batch that its buffer was taken for. -/
  capacity : Nat
deriving DecidableEq, Repr

/-- The pieces of bytes between line ends. -/
def linesOf : List UInt8 → List (List UInt8)
  | [] => [[]]
  | b :: rest =>
    if b == lineEnd then [] :: linesOf rest
    else match linesOf rest with
      | [] => [[b]]
      | line :: lines => (b :: line) :: lines

/-- The records of a batch; an empty line is none. -/
def Batch.records (batch : Batch) : List (List UInt8) :=
  (linesOf batch.bytes).filter fun line => !line.isEmpty

/-- Idle buffers, under the size of batch they were taken for. -/
structure BufferPool where
  shelves : List (Nat × List (List UInt8)) := []

namespace BufferPool

/-- The idle buffers for batches of a size, the last one given back first. -/
def idle (pool : BufferPool) (capacity : Nat) : List (List UInt8) :=
  (pool.shelves.lookup capacity).getD []

/-- Puts buffers under a size, instead of those that are there. -/
def place (capacity : Nat) (buffers : List (List UInt8)) :
    List (Nat × List (List UInt8)) → List (Nat × List (List UInt8))
  | [] => [(capacity, buffers)]
  | (c, shelf) :: rest =>
    if c == capacity then (c, buffers) :: rest else (c, shelf) :: place capacity buffers rest

/-- Takes a buffer, a fresh one if none is idle. -/
def take (pool : BufferPool) (capacity : Nat) : List UInt8 × BufferPool :=
  match pool.idle capacity with
  | [] => ([], pool)
  | buffer :: rest => (buffer, { shelves := place capacity rest pool.shelves })

/-- Gives a buffer back, emptied of what it holds. -/
def give (pool : BufferPool) (batch : Batch) : BufferPool where
  shelves := place batch.capacity ([] :: pool.idle batch.capacity) pool.shelves

end BufferPool

end ObjectRelay

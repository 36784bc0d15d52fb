import ObjectRelay.Batch.Run
/-!
# Running batches in turns

Participants take turns: whoever has the turn goes on until it has to wait, and then the
producer comes before the consumers, and the consumers in a circle.  A consumer that wants
the receiving side does not get ahead of others that want it too.  So the same object
always ends the same way, also when several participants would fail.
-/
namespace ObjectRelay

structure BatchHandler where
  /-- What it does with a batch, given how many it was handed before. -/
  handle : Nat → List UInt8 → BatchQueue.Handling
  /-- Whether it is done at once; if not, everybody else gets as far as possible before. -/
  isPrompt : Bool

namespace BatchRun

inductive Turn where
  | producer
  | consumer (i : Nat)

/-- The first consumer that can make a step, beginning with one. -/
def firstConsumer? (s : BatchRun) (first : Nat) (step? : Nat → Option BatchRun) :
    Option (Turn × BatchRun) :=
  (List.range s.consumers.length).findSome? fun k =>
    let i := (first + k) % s.consumers.length
    (step? i).map fun next => (.consumer i, next)

/-- Everybody that has ended is joined, and stopped if somebody has failed. -/
def settle? (s : BatchRun) : Option BatchRun :=
  s.joinProducer? <|> (s.firstConsumer? 0 s.joinConsumer?).map (·.2) <|>
    s.abortProducer? <|> (s.firstConsumer? 0 s.abortConsumer?).map (·.2)

def handle? (s : BatchRun) (handler : BatchHandler) (i : Nat) : Option BatchRun :=
  match s.consumers[i]? with
  | some (.handling batch number) => s.finishBatch? i (handler.handle number batch.bytes)
  | _ => none

/-- Whether a consumer has to queue up for the receiving side behind another one. -/
def queuesUp (s : BatchRun) (i : Nat) : Bool :=
  let isIdle (k : Nat) : Bool := match s.consumers[k]? with
    | some .idle => true
    | _ => false
  isIdle i && (List.range s.consumers.length).any fun k => k != i && isIdle k

def goOn? (s : BatchRun) (handler : BatchHandler) : Turn → Option BatchRun
  | .producer => s.produce?
  | .consumer i =>
    (if handler.isPrompt then s.handle? handler i else none) <|>
      if s.queuesUp i then none else s.consume? i

def advance? (s : BatchRun) (handler : BatchHandler) (turn : Turn) : Option (Turn × BatchRun) :=
  let next := match turn with
    | .producer => 0
    | .consumer i => i + 1
  (s.settle?.map fun s => (turn, s)) <|>
    ((s.goOn? handler turn).map fun s => (turn, s)) <|>
    (s.produce?.map fun s => (.producer, s)) <|>
    s.firstConsumer? next s.consume? <|>
    s.firstConsumer? 0 (s.handle? handler)

/-- Plays at most `steps` steps. -/
def play (handler : BatchHandler) : (steps : Nat) → Turn → BatchRun → BatchRun
  | 0, _, s => s
  | steps + 1, turn, s => match s.advance? handler turn with
    | none => s
    | some (turn, s) => play handler steps turn s

/-- More steps than a run can have: six for a record, and five for a participant. -/
def stepBound (s : BatchRun) : Nat := 8 * (s.input.records.length + s.consumers.length) + 16

def finish (s : BatchRun) (handler : BatchHandler) : BatchRun :=
  s.play handler s.stepBound .producer

end BatchRun

end ObjectRelay

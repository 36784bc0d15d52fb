import ObjectRelay.Batch.Limits
import ObjectRelay.Batch.Queue
/-!
# A run of batches

A run takes the records of one object to a handler.  One producer reads records and
pushes them; consumers share the receiving side and hand batches on; whoever started the
run joins the participants as they end.  The first failure that is joined is the result,
and cancels and aborts everybody else.

The run is a state and the single steps that participants make on it.  Which step comes
next is left open: `step?` says what a step does and whether it can be made, and every
order of steps is a run.  A participant that has to wait has no step.
-/
namespace ObjectRelay

inductive Conclusion where
  | done
  | failed (error : BatchError)
  /-- Stopped because another participant has failed. -/
  | aborted
deriving DecidableEq, Repr

inductive Producer where
  | reading
  /-- Has read a record, or the error that ends them, and not looked at it. -/
  | looking (item : Except DecodeError Record)
  /-- Hands a batch over; behind it comes a record, or nothing more. -/
  | offering (batch : Batch) (next : Option (List UInt8))
  /-- Has ended, and the sending side with it. -/
  | ended (conclusion : Conclusion)
  | joined

inductive Consumer where
  /-- Wants the receiving side for itself. -/
  | idle
  /-- Has the receiving side for itself and wants a batch. -/
  | receiving
  /-- Hands a batch on; `number` batches were handed on before it. -/
  | handling (batch : Batch) (number : Nat)
  | leaving (conclusion : Conclusion)
  | ended (conclusion : Conclusion)
  | joined

namespace Consumer

/-- Whether the consumer has the receiving side for itself. -/
def isReceiving : Consumer → Bool
  | receiving => true
  | _ => false

/-- Whether the consumer still holds on to the receiving side. -/
def isAttached : Consumer → Bool
  | ended _ | joined => false
  | _ => true

end Consumer

structure BatchRun where
  limits : BatchLimits
  /-- What the producer has not read yet. -/
  input : Decoded
  queue : BatchQueue
  producer : Producer := .reading
  consumers : List Consumer
  /-- The first failure that has been joined. -/
  error : Option BatchError := none
  /-- The batches that have reached the handler, in that order. -/
  handed : List (List UInt8) := []
  /-- The batches that the handler has taken, in that order. -/
  delivered : List (List UInt8) := []

namespace BatchRun

/-- A run over what an object decodes to, with buffers from a pool. -/
def start (limits : BatchLimits) (pool : BufferPool) (input : Decoded) : BatchRun where
  limits := limits
  input := input
  queue := BatchQueue.ofPool limits.maxBatchSize limits.slots pool
  consumers := List.replicate limits.consumers .idle

/-- Starts a run, once there is room for the batches that may wait. -/
def launch (limits : BatchLimits) (pool : BufferPool) (input : Decoded) : Except CountPanic BatchRun :=
  limits.reserveSlots.map fun _ => start limits pool input

def cancel (s : BatchRun) : BatchRun := { s with queue := s.queue.cancel }

/-! ## The producer -/

/-- The producer ends, and what it has not handed over is gone. -/
def endProducer (s : BatchRun) (conclusion : Conclusion) : BatchRun :=
  { s with producer := .ended conclusion, queue := s.queue.dropSender }

/-- Pushes a record: it fails, or is added at once, or another batch goes first. -/
def pushRecord (s : BatchRun) (record : List UInt8) : BatchRun :=
  if s.queue.isTooLong record then
    s.endProducer (.failed (.recordTooLong (record.length + 1) s.queue.maxBatchSize))
  else if s.queue.hasRoom record then
    { s with producer := .reading, queue := s.queue.append record }
  else
    let (batch, queue) := s.queue.takePending
    { s with producer := .offering batch (some record), queue }

/-- Looks at what has been read.  Cancellation is seen first; a record that is too large
for the limits is left out. -/
def look (s : BatchRun) (item : Except DecodeError Record) : BatchRun :=
  if s.queue.isCancelled then s.endProducer (.failed .cancelled)
  else match item with
    | .error error => s.endProducer (.failed (.decode error))
    | .ok record =>
      let bytes := Utf8.encode record.text
      if s.limits.maxRecordSize < bytes.length then { s with producer := .reading }
      else s.pushRecord bytes

/-- Reads on; behind the last record what is pending goes as the last batch. -/
def read (s : BatchRun) : BatchRun :=
  match s.input with
  | { records := record :: records, error } =>
    { s with producer := .looking (.ok record), input := { records, error } }
  | { records := [], error := some error } =>
    { s with producer := .looking (.error error), input := { records := [] } }
  | { records := [], error := none } =>
    if s.queue.pending.isEmpty then s.endProducer .done
    else
      let (batch, queue) := s.queue.takePending
      { s with producer := .offering batch none, queue }

def produce? (s : BatchRun) : Option BatchRun :=
  match s.producer with
  | .reading => some s.read
  | .looking item => some (s.look item)
  | .offering batch next => match s.queue.offer batch with
    | .full => none
    | .refused error => some ({ s with queue := s.queue.release batch }.endProducer (.failed error))
    | .taken queue => match next with
      | some record => some { s with producer := .reading, queue := queue.append record }
      | none => some ({ s with queue }.endProducer .done)
  | .ended _ | .joined => none

/-! ## Consumers -/

def setConsumer (s : BatchRun) (i : Nat) (c : Consumer) : BatchRun :=
  { s with consumers := s.consumers.set i c }

/-- A consumer lets go of the receiving side; the last one ends it. -/
def detach (s : BatchRun) (i : Nat) (conclusion : Conclusion) : BatchRun :=
  let s := s.setConsumer i (.ended conclusion)
  if s.consumers.any Consumer.isAttached then s else { s with queue := s.queue.dropReceiver }

/-- A step of a consumer, other than being done with a batch. -/
def consume? (s : BatchRun) (i : Nat) : Option BatchRun :=
  match s.consumers[i]? with
  | some .idle =>
    if s.queue.isCancelled then some (s.setConsumer i (.leaving (.failed .cancelled)))
    else if s.consumers.any Consumer.isReceiving then none
    else some (s.setConsumer i .receiving)
  | some .receiving => match s.queue.receive with
    | .batch batch queue =>
      some ({ s with queue, handed := s.handed ++ [batch.bytes] }.setConsumer i
        (.handling batch s.handed.length))
    | .drained => some (s.setConsumer i (.leaving .done))
    | .refused error => some (s.setConsumer i (.leaving (.failed error)))
    | .waits => none
  | some (.leaving conclusion) => some (s.detach i conclusion)
  | _ => none

/-- A consumer is done with its batch, whose buffer goes back. -/
def finishBatch? (s : BatchRun) (i : Nat) (handling : BatchQueue.Handling) : Option BatchRun :=
  match s.consumers[i]? with
  | some (.handling batch _) =>
    let s := if handling.isCancelling then s.cancel else s
    let s := { s with queue := s.queue.release batch }
    match handling.result with
    | .ok () => some ({ s with delivered := s.delivered ++ [batch.bytes] }.setConsumer i .idle)
    | .error error => some (s.setConsumer i (.leaving (.failed (.delivery error))))
  | _ => none

/-! ## Joining -/

/-- Takes note of how a participant has ended; the first failure cancels the others. -/
def note (s : BatchRun) : Conclusion → BatchRun
  | .failed error => if s.error.isSome then s else { s.cancel with error := some error }
  | _ => s

def joinProducer? (s : BatchRun) : Option BatchRun :=
  match s.producer with
  | .ended conclusion => some ({ s with producer := .joined }.note conclusion)
  | _ => none

def joinConsumer? (s : BatchRun) (i : Nat) : Option BatchRun :=
  match s.consumers[i]? with
  | some (.ended conclusion) => some ((s.setConsumer i .joined).note conclusion)
  | _ => none

def abortProducer? (s : BatchRun) : Option BatchRun :=
  if s.error.isNone then none
  else match s.producer with
    | .reading | .looking _ => some (s.endProducer .aborted)
    | .offering batch _ => some ({ s with queue := s.queue.release batch }.endProducer .aborted)
    | .ended _ | .joined => none

def abortConsumer? (s : BatchRun) (i : Nat) : Option BatchRun :=
  if s.error.isNone then none
  else match s.consumers[i]? with
    | some .idle | some .receiving => some (s.detach i .aborted)
    | some (.handling batch _) => some ({ s with queue := s.queue.release batch }.detach i .aborted)
    | _ => none

/-! ## Steps -/

inductive Action where
  | produce
  | consume (i : Nat)
  | finishBatch (i : Nat) (handling : BatchQueue.Handling)
  | joinProducer
  | joinConsumer (i : Nat)
  | abortProducer
  | abortConsumer (i : Nat)
  /-- Somebody outside cancels the run. -/
  | cancel

/-- The state behind a step, `none` if the step cannot be made. -/
def step? (s : BatchRun) : Action → Option BatchRun
  | .produce => s.produce?
  | .consume i => s.consume? i
  | .finishBatch i handling => s.finishBatch? i handling
  | .joinProducer => s.joinProducer?
  | .joinConsumer i => s.joinConsumer? i
  | .abortProducer => s.abortProducer?
  | .abortConsumer i => s.abortConsumer? i
  | .cancel => some s.cancel

def replay? : BatchRun → List Action → Option BatchRun
  | s, [] => some s
  | s, action :: rest => (s.step? action).bind fun s => replay? s rest

/-- Whether everybody has been joined. -/
def isOver (s : BatchRun) : Bool :=
  (match s.producer with
    | .joined => true
    | _ => false) &&
  s.consumers.all fun
    | .joined => true
    | _ => false

def result (s : BatchRun) : Except BatchError Unit :=
  match s.error with
  | some error => .error error
  | none => .ok ()

end BatchRun

end ObjectRelay

import ObjectRelay.Relay.Handle
/-!
# Handling messages side by side

Every message has a task, and a task needs a permit while it works.  Tasks report what
their messages have come to in whatever order they end; the invocation collects the
reports and puts them back into the order of the messages.  Permits are shared by all the
invocations of a relay.

A dispatch is a state and the single steps that can be made on it.  Which step comes next
is left open: `step?` says what a step does and whether it can be made, and every order of
steps is a dispatch.  Handling messages one after another is one of these orders.
-/
namespace ObjectRelay

inductive MessageTask where
  | waiting
  /-- Looks at objects, these being left. -/
  | looking (records : List CopyRecord)
  /-- Has asked for the copy of the object of an address; these come behind it. -/
  | copying (uri : String) (operation : CopyOperation) (records : List CopyRecord)
  | finishing (outcome : Option MessageError)
  | ended
deriving DecidableEq, Repr

namespace MessageTask

def isAtWork : MessageTask → Bool
  | waiting | ended => false
  | looking _ | copying .. | finishing _ => true

end MessageTask

structure Dispatch where
  messages : List Message
  tasks : List MessageTask
  /-- What has been reported and not been collected, by the place of the message. -/
  reports : List (Nat × Option MessageError) := []
  collected : Nat := 0
  outcomes : List (Option MessageError)
  isCancelled : Bool := false
  result : Option (Except InvocationError (List (Option MessageError))) := none
  activities : List Activity := []

namespace Dispatch

def start (messages : List Message) : Dispatch where
  messages := messages
  tasks := messages.map fun _ => .waiting
  outcomes := messages.map fun _ => none

def setTask (d : Dispatch) (i : Nat) (task : MessageTask) : Dispatch :=
  { d with tasks := d.tasks.set i task }

def note (d : Dispatch) (activities : List Activity) : Dispatch :=
  { d with activities := d.activities ++ activities }

def atWork (d : Dispatch) : Nat := d.tasks.countP MessageTask.isAtWork

/-- A task takes a permit; it would rather see a cancellation. -/
def begin? (d : Dispatch) (i : Nat) : Option Dispatch :=
  match d.isCancelled, d.messages[i]?, d.tasks[i]? with
  | false, some message, some .waiting =>
    some (d.setTask i (.looking (Notification.copyRecords message.body)))
  | _, _, _ => none

/-- A task that waits sees a cancellation and ends without a report. -/
def giveUp? (d : Dispatch) (i : Nat) : Option Dispatch :=
  match d.isCancelled, d.tasks[i]? with
  | true, some .waiting => some (d.setTask i .ended)
  | _, _ => none

def look? (relay : Relay) (d : Dispatch) (i : Nat) : Option Dispatch :=
  match d.tasks[i]? with
  | some (.looking []) => some (d.setTask i (.finishing none))
  | some (.looking (record :: rest)) => some <| match relay.treat record with
    | .unreadable error => d.setTask i (.finishing (some (.source error)))
    | .skipped source reason =>
      (d.note [.log (.skipping source reason)]).setTask i (.looking rest)
    | .copied op => (d.note op.activities).setTask i (.copying record.uri op rest)
  | _ => none

def answer? (d : Dispatch) (i : Nat) (answer : StoreAnswer) : Option Dispatch :=
  match d.tasks[i]? with
  | some (.copying uri _ rest) =>
    let d := { d with isCancelled := d.isCancelled || answer.isCancelling }
    some <| d.setTask i <| match answer.result with
      | .error error => .finishing (some (.copy uri error))
      | .ok () => .looking rest
  | _ => none

/-- A task reports, gives its permit back and ends. -/
def report? (d : Dispatch) (i : Nat) : Option Dispatch :=
  match d.tasks[i]? with
  | some (.finishing outcome) =>
    some ({ d with reports := d.reports ++ [(i, outcome)] }.setTask i .ended)
  | _ => none

/-- The invocation waits for the next report; it would rather see a cancellation.  With
nobody left to report it would have lost outcomes. -/
def collect? (d : Dispatch) : Option Dispatch :=
  if d.result.isSome then none
  else if d.collected = d.messages.length then some { d with result := some (.ok d.outcomes) }
  else if d.isCancelled then some { d with result := some (.error .cancelled) }
  else match d.reports with
    | (i, outcome) :: reports =>
      some { d with reports, collected := d.collected + 1, outcomes := d.outcomes.set i outcome }
    | [] =>
      if d.tasks.all (· == .ended) then
        some { d with result := some (.error (.resultsLost d.messages.length)) }
      else none

inductive Action where
  | begin (i : Nat)
  | giveUp (i : Nat)
  | look (i : Nat)
  | answer (i : Nat) (answer : StoreAnswer)
  | report (i : Nat)
  | collect
  /-- Somebody outside cancels the invocation. -/
  | cancel

/-- The state behind a step with a number of free permits, `none` if the step cannot be
made. -/
def step? (relay : Relay) (free : Nat) (d : Dispatch) : Action → Option Dispatch
  | .begin i => if free = 0 then none else d.begin? i
  | .giveUp i => d.giveUp? i
  | .look i => d.look? relay i
  | .answer i answer => d.answer? i answer
  | .report i => d.report? i
  | .collect => d.collect?
  | .cancel => some { d with isCancelled := true }

end Dispatch

/-- What an invocation comes to whose messages are handled side by side, once its dispatch has a result. -/
def Relay.handleDispatched {σ : Type} (relay : Relay) (store : Store σ) (context : InvocationContext) (now : Int)
    (d : Dispatch) (state : σ) : Option (Handled σ) :=
  match context.home with
  | .error fault => some ⟨[], .error (.missingContext fault), d.isCancelled, state⟩
  | .ok home => d.result.map fun
    | .error error => ⟨d.activities, .error error, d.isCancelled, state⟩
    | .ok outcomes =>
      (relay.conclude store home context.requestId now (d.messages.zip outcomes) d.isCancelled state).prepend
        d.activities

/-- The dispatches of a relay, which share its permits. -/
structure Dispatches where
  permits : Nat
  all : List Dispatch

namespace Dispatches

def atWork (s : Dispatches) : Nat := (s.all.flatMap (·.tasks)).countP MessageTask.isAtWork

def step? (relay : Relay) (s : Dispatches) (n : Nat) (action : Dispatch.Action) : Option Dispatches := do
  let d ← s.all[n]?
  let d ← d.step? relay (s.permits - s.atWork) action
  return { s with all := s.all.set n d }

def arrive (s : Dispatches) (messages : List Message) : Dispatches :=
  { s with all := s.all ++ [Dispatch.start messages] }

end Dispatches

end ObjectRelay

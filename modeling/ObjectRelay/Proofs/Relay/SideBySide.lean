import ObjectRelay.Proofs.Relay.Collection
import ObjectRelay.Proofs.Relay.Copies
/-!
# Handling side by side is handling one by one

However the tasks of an invocation take turns, and however many permits they share, the invocation comes to what it
would come to if its messages were handled one after another: the same answer, the same audit log, the same
copies (`handles_alike`).  The audit log is stored once, behind the last copy.
-/
namespace ObjectRelay

/-- Every state of a dispatch is sound, and the turns so far have used work up. -/
theorem Dispatch.play?_induction {relay : Relay} {copier : CopyRequest → Except StorageError Unit}
    (putter : PutRequest → Except StorageError Unit) {permits : Nat} {messages : List Message} :
    ∀ {turns : List Dispatch.Turn} {d d' : Dispatch}, d.play? relay copier permits turns = some d' →
    Sound relay copier putter messages d →
    Sound relay copier putter messages d' ∧ turns.length + d'.work ≤ d.work
  | [], d, d', h, hd => by
    obtain rfl := Option.some.inj h
    exact ⟨hd, by simp⟩
  | turn :: turns, d, d', h, hd => by
    obtain ⟨next, hnext, hrest⟩ := Option.bind_eq_some_iff.1 h
    have hlength : d.tasks.length = d.messages.length := hd.length_tasks.trans (congrArg _ hd.messages_eq.symm)
    have hstep := turn?_sound putter hlength hd.not_cancelled hnext
    obtain ⟨hsound, hle⟩ := play?_induction putter hrest (hd.step hstep)
    have hlt := hstep.work_lt hlength
    refine ⟨hsound, ?_⟩
    rw [List.length_cons]
    omega

namespace Relay

variable (relay : Relay) (copier : CopyRequest → Except StorageError Unit)
  (putter : PutRequest → Except StorageError Unit)

/-- The request to store the audit log of messages that are handled alone. -/
def auditRequest (home : FunctionHome) (requestId : String) (now : Int) (messages : List Message) : PutRequest :=
  Audit.request relay.destination (Audit.key relay.destination home requestId now)
    (relay.outcomesAlone copier putter messages)

/-- The ids of the messages that fail when they are handled alone. -/
def failedIds (messages : List Message) : List String :=
  (failures (relay.outcomesAlone copier putter messages)).map fun f => f.1.id

section Conclude

variable (home : FunctionHome) (requestId : String) (now : Int) (messages : List Message)

/-- The conclusion of an invocation whose messages were handled alone. -/
def concluded : Handled Unit :=
  relay.conclude (.answering copier putter) home requestId now (relay.outcomesAlone copier putter messages) false ()

theorem outcome_concluded : (relay.concluded copier putter home requestId now messages).outcome =
    if messages.isEmpty then .ok []
    else match putter (relay.auditRequest copier putter home requestId now messages) with
      | .ok () => .ok (relay.failedIds copier putter messages)
      | .error error => .error (.auditPut (Audit.key relay.destination home requestId now) error) := by
  cases messages with
  | nil => rfl
  | cons message rest =>
    rw [if_neg (by simp), concluded, conclude, if_neg (by simp [outcomesAlone])]
    simp only [Store.answering, auditRequest]
    cases putter (Audit.request relay.destination (Audit.key relay.destination home requestId now)
      (relay.outcomesAlone copier putter (message :: rest))) <;> rfl

theorem copies_concluded :
    (relay.concluded copier putter home requestId now messages).activities.filterMap Activity.copy? = [] := by
  have herrors : ∀ failed : List (Message × MessageError),
      (failed.map fun f => Activity.log (.failed f.1.id f.2)).filterMap Activity.copy? = [] := fun failed => by
    simp [List.filterMap_map, Function.comp_def, Activity.copy?]
  rw [concluded, conclude]
  dsimp only
  split
  · rfl
  · simp only [Store.answering]
    split <;> simp [herrors, Activity.copy?]

theorem puts_concluded :
    (relay.concluded copier putter home requestId now messages).activities.filterMap Activity.put? =
      if messages.isEmpty then [] else [relay.auditRequest copier putter home requestId now messages] := by
  have herrors : ∀ failed : List (Message × MessageError),
      (failed.map fun f => Activity.log (.failed f.1.id f.2)).filterMap Activity.put? = [] := fun failed => by
    simp [List.filterMap_map, Function.comp_def, Activity.put?]
  cases messages with
  | nil => rfl
  | cons message rest =>
    rw [if_neg (by simp), concluded, conclude, if_neg (by simp [outcomesAlone])]
    simp only [Store.answering, auditRequest]
    split <;> simp [herrors, Activity.put?]

end Conclude

/-- Handling messages alone stores nothing. -/
theorem puts_alone (messages : List Message) :
    (messages.flatMap fun m => (relay.alone copier putter m).activities).filterMap Activity.put? = [] := by
  rw [List.filterMap_flatMap, List.flatMap_eq_nil_iff]
  exact fun message _ => relay.puts_walk (.answering copier putter) (Notification.copyRecords message.body) false ()

variable {relay copier putter} {permits : Nat} {messages : List Message} {turns : List Dispatch.Turn} {d : Dispatch}

/-- A dispatch with a result has done what handling the messages alone does, in some order. -/
theorem activities_perm_of_result (h : d.Sound relay copier putter messages) (hresult : d.result.isSome = true) :
    d.activities.Perm (messages.flatMap fun m => (relay.alone copier putter m).activities) := by
  obtain ⟨result, hresult⟩ := Option.isSome_iff_exists.1 hresult
  obtain ⟨-, hended⟩ := h.result result hresult
  have hperm := h.activities_perm
  have hnil : (messages.zip d.tasks).flatMap
      (fun p => (Dispatch.left relay copier putter p.1 p.2).activities) = [] := by
    rw [List.flatMap_eq_nil_iff]
    intro p hp
    rw [hended p.2 (List.of_mem_zip hp).2]
    rfl
  rwa [hnil, List.append_nil] at hperm

/-- What a dispatch comes to in the end. -/
theorem handleDispatched_eq (h : d.Sound relay copier putter messages) {context : InvocationContext}
    {home : FunctionHome} (hhome : context.home = .ok home) {now : Int} {handled : Handled Unit}
    (hhandled : relay.handleDispatched (.answering copier putter) context now d () = some handled) :
    d.result.isSome = true ∧
      handled = (relay.concluded copier putter home context.requestId now messages).prepend d.activities := by
  rw [handleDispatched, hhome] at hhandled
  obtain ⟨result, hresult, hhandled⟩ := Option.map_eq_some_iff.1 hhandled
  obtain ⟨rfl, -⟩ := h.result result hresult
  refine ⟨by rw [hresult]; rfl, ?_⟩
  have hzip : d.messages.zip (Dispatch.expected relay copier putter messages) =
      relay.outcomesAlone copier putter messages := by
    rw [h.messages_eq]
    exact zip_map_self messages _
  rw [← hhandled]
  dsimp only
  rw [hzip, h.not_cancelled, concluded]

/-- **Handling messages side by side is handling them one by one**, whatever turns the tasks take and however many
permits there are.  A dispatch has a bounded number of turns and can always go on until it has a result.  The
invocation then comes to what it comes to when the messages are handled one after another: the answer names those
that fail when handled alone, in the order in which they came, or says that the audit log could not be stored;
the audit log has one line for every message, in that order; and it is stored once, or not at all without
messages, when every task has ended, behind all copies. -/
theorem handles_alike (relay : Relay) (copier : CopyRequest → Except StorageError Unit)
    (putter : PutRequest → Except StorageError Unit) (permits : Nat) (hpermits : 0 < permits)
    (context : InvocationContext) (messages : List Message) (now : Int) (turns : List Dispatch.Turn) (d : Dispatch)
    (hplay : (Dispatch.start messages).play? relay copier permits turns = some d) :
    turns.length ≤ (messages.map fun m => 2 * (Notification.copyRecords m.body).length + 4).sum + 1 ∧
    (d.result = none → ∃ turn, (d.turn? relay copier permits turn).isSome = true) ∧
    ∀ handled, relay.handleDispatched (.answering copier putter) context now d () = some handled →
      (let sequential := relay.handle (.answering copier putter) context messages now false ();
        handled.outcome = sequential.outcome ∧ handled.activities.Perm sequential.activities ∧
        handled.activities.filterMap Activity.put? = sequential.activities.filterMap Activity.put?) ∧
      ∀ home, context.home = .ok home →
        let request := relay.auditRequest copier putter home context.requestId now messages;
        (∀ task ∈ d.tasks, task = .ended) ∧
        handled.outcome =
          (if messages.isEmpty then .ok []
          else match putter request with
            | .ok () => .ok (relay.failedIds copier putter messages)
            | .error error => .error (.auditPut request.key error)) ∧
        linesOf request.body =
          (messages.map fun m => Audit.lineText m (relay.alone copier putter m).outcome) ++ [[]] ∧
        ∃ behind, handled.activities = d.activities ++ behind ∧
          d.activities.filterMap Activity.put? = [] ∧ behind.filterMap Activity.copy? = [] ∧
          behind.filterMap Activity.put? = if messages.isEmpty then [] else [request] := by
  obtain ⟨hsound, hle⟩ := Dispatch.play?_induction putter hplay (Dispatch.sound_start messages)
  have hlength : d.tasks.length = d.messages.length := hsound.length_tasks.trans (congrArg _ hsound.messages_eq.symm)
  rw [Dispatch.work_start] at hle
  refine ⟨by omega, fun hr => Dispatch.exists_turn hpermits hlength hsound.not_cancelled hr, fun handled hhandled =>
    ⟨?_, fun home hhome => ?_⟩⟩
  · cases hhome : context.home with
    | error fault =>
      rw [handleDispatched, hhome] at hhandled
      rw [handle, hhome, ← Option.some.inj hhandled]
      exact ⟨rfl, .refl _, rfl⟩
    | ok home =>
      obtain ⟨hresult, rfl⟩ := handleDispatched_eq hsound hhome hhandled
      have hperm := activities_perm_of_result hsound hresult
      have hputs := hperm.filterMap Activity.put?
      rw [puts_alone] at hputs
      rw [handle_eq relay copier putter hhome]
      refine ⟨rfl, hperm.append_right _, ?_⟩
      simp only [Walk.prepend, List.filterMap_append, hputs.eq_nil, puts_alone, concluded]
  · obtain ⟨hresult, rfl⟩ := handleDispatched_eq hsound hhome hhandled
    obtain ⟨result, hsome⟩ := Option.isSome_iff_exists.1 hresult
    have hputs := (activities_perm_of_result hsound hresult).filterMap Activity.put?
    rw [puts_alone] at hputs
    refine ⟨(hsound.result result hsome).2,
      outcome_concluded relay copier putter home context.requestId now messages, ?_, _, rfl, hputs.eq_nil,
      copies_concluded .., puts_concluded ..⟩
    rw [auditRequest, Audit.request, Audit.linesOf_body, outcomesAlone, List.map_map, Function.comp_def]

/-- A relay that lets everything through. -/
def openRelay : Relay where
  destination := ⟨"s3", "out", ""⟩
  filter := { patterns := [{ text := "", expr := .empty, names := [] }] }
  sets := []

/-- A store that refuses to copy one object. -/
def refuseX (request : CopyRequest) : Except StorageError Unit :=
  if request.operation.copySource == "in/x" then .error (.backend "denied") else .ok ()

/-- A message for each of two objects. -/
def twoMessages : List Message :=
  [⟨"1", "\x7b\"copy\":[\x7b\"uri\":\"s3://in/a\"\x7d]\x7d", []⟩,
    ⟨"2", "\x7b\"copy\":[\x7b\"uri\":\"s3://in/x\"\x7d]\x7d", []⟩]

/-- With a single permit, the second message is handled before the first one. -/
def secondFirst : List Dispatch.Turn :=
  [.begin 1, .look 1, .answer 1, .report 1, .begin 0, .look 0, .collect, .answer 0, .look 0, .report 0, .collect,
    .collect]

/-- An invocation that says where it comes from. -/
def someContext : InvocationContext := ⟨"r", "arn:aws:lambda:eu-west-1:123456789012:function"⟩

/-- What the audit log says of the two messages, in the order in which they came. -/
def twoLines : List String :=
  ["\x7b\"messageId\":\"1\",\"body\":\"\x7b\\\"copy\\\":[\x7b\\\"uri\\\":\\\"s3://in/a\\\"\x7d]\x7d\"\x7d",
    "\x7b\"messageId\":\"2\",\"body\":\"\x7b\\\"copy\\\":[\x7b\\\"uri\\\":\\\"s3://in/x\\\"\x7d]\x7d\"" ++
      ",\"error\":\"failed to copy s3://in/x: storage request failed: denied\"\x7d"]

theorem handles_alike_secondFirst : ∃ d handled request,
    (Dispatch.start twoMessages).play? openRelay refuseX 1 secondFirst = some d ∧
    openRelay.handleDispatched (.answering refuseX fun _ => .ok ()) someContext 0 d () = some handled ∧
    handled.outcome = .ok ["2"] ∧ (∀ task ∈ d.tasks, task = .ended) ∧
    handled.activities.filterMap Activity.put? = [request] ∧
    linesOf request.body = twoLines.map Utf8.encode ++ [[]] := by
  have hshown : ((Dispatch.start twoMessages).play? openRelay refuseX 1 secondFirst).map
      (fun d => d.result.isSome) = some true := by decide +kernel
  obtain ⟨d, hplay, hresult⟩ := Option.map_eq_some_iff.1 hshown
  obtain ⟨result, hresult⟩ := Option.isSome_iff_exists.1 hresult
  obtain ⟨-, -, halike⟩ := handles_alike openRelay refuseX (fun _ => .ok ()) 1 (by decide) someContext twoMessages 0
    secondFirst d hplay
  have hhome : someContext.home = .ok ⟨"123456789012", "eu-west-1"⟩ := by decide +kernel
  have hids : openRelay.failedIds refuseX (fun _ => .ok ()) twoMessages = ["2"] := by decide +kernel
  have htexts : (twoMessages.map fun m => (m.auditJson
      ((openRelay.alone refuseX (fun _ => .ok ()) m).outcome.map MessageError.message)).text) = twoLines := by
    decide +kernel
  obtain ⟨handled, hhandled⟩ : ∃ handled,
      openRelay.handleDispatched (.answering refuseX fun _ => .ok ()) someContext 0 d () = some handled := by
    rw [handleDispatched, hhome, hresult]
    exact ⟨_, rfl⟩
  obtain ⟨hended, houtcome, hlines, behind, hactivities, hnone, -, hput⟩ := (halike handled hhandled).2 _ hhome
  rw [hids] at houtcome
  refine ⟨d, handled, _, hplay, hhandled, houtcome, hended, ?_, hlines.trans ?_⟩
  · rw [hactivities, List.filterMap_append, hnone, hput, List.nil_append, if_neg (by decide)]
  · simp only [← htexts, List.map_map, Function.comp_def, Audit.lineText]

end Relay
end ObjectRelay

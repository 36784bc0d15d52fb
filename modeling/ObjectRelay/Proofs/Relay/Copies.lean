import ObjectRelay.Relay.Walk
import ObjectRelay.Proofs.Rule.Source
/-!
# Which copies a message asks for

A relay wants the objects that it `Accepts`, up to the first one whose address cannot be read
(`Relay.wanted`).  It asks the store for them one after another, and stops behind the first request that
is rejected, whatever else the store answers (`walkMessage_copies`).  What is wanted is said by the destination,
the filter, the limit and the rule sets alone.
-/
namespace ObjectRelay

/-- The copies that are asked for. -/
def copiesOf (activities : List Activity) : List CopyRequest := activities.filterMap Activity.copy?

@[simp] theorem copiesOf_append (a b : List Activity) : copiesOf (a ++ b) = copiesOf a ++ copiesOf b :=
  List.filterMap_append

@[simp] theorem copiesOf_log (line : LogLine) : copiesOf [.log line] = [] := rfl

@[simp] theorem copiesOf_activities (op : CopyOperation) : copiesOf op.activities = [{ operation := op }] := rfl

/-- What a store answers to requests that are made one after another, whatever it answers.  An answer
depends on the requests up to its own and on nothing that comes later. -/
def Store.answers {σ : Type} (store : Store σ) : (isCancelled : Bool) → σ → List CopyRequest →
    List (Except StorageError Unit)
  | _, _, [] => []
  | isCancelled, state, request :: rest =>
    let (answer, state) := store.copy isCancelled request state
    answer.result :: answers store (isCancelled || answer.isCancelling) state rest

namespace Relay

/-- **Whether an object is to be copied**: the filter lets it through, it is not larger than the limit if
there is one, and its copy below the destination has a key once the rules have been applied. -/
structure Accepts (relay : Relay) (source : ObjectUri) (size : Option Int) : Prop where
  allowed : relay.filter.allows source.source = true
  fits : relay.maxFileSize = 0 ∨ ∀ n, size = some n → n ≤ relay.maxFileSize
  hasKey : (relay.sets.apply (.below relay.destination source)).1.key ≠ ""

theorem isTooLarge_eq_false_iff (relay : Relay) (n : Int) :
    relay.isTooLarge n = false ↔ relay.maxFileSize = 0 ∨ n ≤ relay.maxFileSize := by
  by_cases h : relay.maxFileSize = 0
  · simp [isTooLarge, h]
  · simp [isTooLarge, h]

theorem operation_eq (relay : Relay) (source : ObjectUri) :
    relay.operation source = (relay.sets.apply (.below relay.destination source)).1 := rfl

theorem accepts_iff (relay : Relay) (source : ObjectUri) (size : Option Int) : relay.Accepts source size ↔
    relay.filter.allows source.source = true ∧ size.filter relay.isTooLarge = none ∧
      (relay.operation source).isSkipped = false := by
  have hsize : size.filter relay.isTooLarge = none ↔
      (relay.maxFileSize = 0 ∨ ∀ n, size = some n → n ≤ relay.maxFileSize) := by
    cases size with
    | none => simp
    | some n => simp [Option.filter_some, isTooLarge_eq_false_iff]
  have hkey : (relay.operation source).isSkipped = false ↔
      (relay.sets.apply (.below relay.destination source)).1.key ≠ "" := by
    simp [operation_eq, CopyOperation.isSkipped]
  rw [hsize, hkey]
  exact ⟨fun h => ⟨h.allowed, h.fits, h.hasKey⟩, fun h => ⟨h.1, h.2.1, h.2.2⟩⟩

instance (relay : Relay) (source : ObjectUri) (size : Option Int) : Decidable (relay.Accepts source size) :=
  decidable_of_iff _ (relay.accepts_iff source size).symm

/-- The request for the object that a record names, if it is to be copied. -/
def request? (relay : Relay) (record : CopyRecord) : Option CopyRequest :=
  match ObjectUri.parse record.uri with
  | .error _ => none
  | .ok source =>
    if relay.Accepts source record.size then
      some { operation := (relay.sets.apply (.below relay.destination source)).1 }
    else none

/-- **The requests that a list of records comes to**, up to the first address that cannot be read. -/
def wanted (relay : Relay) (records : List CopyRecord) : List CopyRequest :=
  (records.takeWhile fun record => (ObjectUri.parse record.uri).isOk).filterMap relay.request?

theorem treatObject_of_accepts {relay : Relay} {source : ObjectUri} {size : Option Int}
    (h : relay.Accepts source size) : relay.treatObject source size = .copied (relay.operation source) := by
  obtain ⟨hallowed, hfits, hkey⟩ := (relay.accepts_iff source size).1 h
  simp [treatObject, hallowed, hfits, hkey]

theorem treatObject_of_not_accepts {relay : Relay} {source : ObjectUri} {size : Option Int}
    (h : ¬relay.Accepts source size) : ∃ reason, relay.treatObject source size = .skipped source.source reason := by
  unfold treatObject
  split
  · exact ⟨_, rfl⟩
  · rename_i hallowed
    split
    · exact ⟨_, rfl⟩
    · rename_i hfits
      dsimp only
      split
      · exact ⟨_, rfl⟩
      · rename_i hkey
        exact absurd ((relay.accepts_iff source size).2 ⟨by simpa using hallowed, hfits, by simpa using hkey⟩) h

/-- **What becomes of a record**: its address cannot be read, or it asks for nothing, or for one copy. -/
theorem treat_cases (relay : Relay) (record : CopyRecord) :
    (∃ error, ObjectUri.parse record.uri = .error error ∧ relay.treat record = .unreadable error) ∨
    (ObjectUri.parse record.uri).isOk = true ∧ relay.request? record = none ∧
      (∃ source reason, relay.treat record = .skipped source reason) ∨
    (ObjectUri.parse record.uri).isOk = true ∧
      ∃ op, relay.request? record = some { operation := op } ∧ relay.treat record = .copied op := by
  cases hparse : ObjectUri.parse record.uri with
  | error error => exact .inl ⟨error, rfl, by rw [treat, hparse]⟩
  | ok source =>
    by_cases haccepts : relay.Accepts source record.size
    · refine .inr (.inr ⟨rfl, relay.operation source, ?_, ?_⟩)
      · simp [request?, hparse, haccepts, operation_eq]
      · rw [treat, hparse]
        exact treatObject_of_accepts haccepts
    · obtain ⟨reason, hreason⟩ := treatObject_of_not_accepts haccepts
      refine .inr (.inl ⟨rfl, ?_, source.source, reason, ?_⟩)
      · simp [request?, hparse, haccepts]
      · rw [treat, hparse]
        exact hreason

section Wanted

variable {relay : Relay} {record : CopyRecord}

theorem wanted_cons_of_error {error : UriError} (h : ObjectUri.parse record.uri = .error error)
    (rest : List CopyRecord) : relay.wanted (record :: rest) = [] := by
  simp [wanted, h, Except.isOk, Except.toBool]

theorem wanted_cons_of_isOk (h : (ObjectUri.parse record.uri).isOk = true) (rest : List CopyRecord) :
    relay.wanted (record :: rest) = (relay.request? record).toList ++ relay.wanted rest := by
  have htake : (record :: rest).takeWhile (fun record => (ObjectUri.parse record.uri).isOk) =
      record :: rest.takeWhile fun record => (ObjectUri.parse record.uri).isOk := List.takeWhile_cons_of_pos h
  rw [wanted, htake, List.filterMap_cons]
  cases relay.request? record <;> rfl

theorem exists_unreadable_cons (h : (ObjectUri.parse record.uri).isOk = true) (rest : List CopyRecord) :
    (∃ r ∈ record :: rest, ∃ error, ObjectUri.parse r.uri = .error error) ↔
      ∃ r ∈ rest, ∃ error, ObjectUri.parse r.uri = .error error := by
  cases hparse : ObjectUri.parse record.uri with
  | error error =>
    rw [hparse] at h
    cases h
  | ok source => simp [hparse]

end Wanted

variable {σ : Type} (relay : Relay) (store : Store σ)

/-- What is left of a message when the store has answered a request. -/
def walkAnswered (uri : String) (op : CopyOperation) (rest : List CopyRecord) (isCancelled : Bool) (state : σ) :
    Except StorageError Unit → Walk σ (Option MessageError)
  | .error error => ⟨op.activities, some (.copy uri error), isCancelled, state⟩
  | .ok () => (relay.walk store rest isCancelled state).prepend op.activities

theorem walk_copied {record : CopyRecord} {op : CopyOperation} {isCancelled : Bool} {state state' : σ}
    {answer : StoreAnswer} (htreat : relay.treat record = .copied op)
    (hcopy : store.copy isCancelled { operation := op } state = (answer, state')) (rest : List CopyRecord) :
    relay.walk store (record :: rest) isCancelled state =
      relay.walkAnswered store record.uri op rest (isCancelled || answer.isCancelling) state' answer.result := by
  obtain ⟨rfl, rfl⟩ : (store.copy isCancelled { operation := op } state).1 = answer ∧
      (store.copy isCancelled { operation := op } state).2 = state' := by rw [hcopy]; exact ⟨rfl, rfl⟩
  rw [walk, htreat]
  dsimp only
  split
  · rename_i error hresult
    rw [hresult]
    rfl
  · rename_i hresult
    rw [hresult]
    rfl

/-- **The copies asked for** are those that are wanted, as far as the store goes along. -/
theorem copiesOf_walk : ∀ (records : List CopyRecord) (isCancelled : Bool) (state : σ),
    copiesOf (relay.walk store records isCancelled state).activities = (relay.wanted records).take
      (((store.answers isCancelled state (relay.wanted records)).takeWhile Except.isOk).length + 1)
  | [], _, _ => rfl
  | record :: rest, isCancelled, state => by
    rcases relay.treat_cases record with ⟨error, hparse, htreat⟩ | ⟨hok, hnone, source, reason, htreat⟩ |
      ⟨hok, op, hsome, htreat⟩
    · rw [wanted_cons_of_error hparse, walk, htreat]
      rfl
    · rw [wanted_cons_of_isOk hok, hnone, walk, htreat]
      exact copiesOf_walk rest isCancelled state
    · rcases hcopy : store.copy isCancelled { operation := op } state with ⟨⟨result, isCancelling⟩, state'⟩
      rw [wanted_cons_of_isOk hok, hsome, Option.toList_some, List.singleton_append, Store.answers, hcopy,
        walk_copied relay store htreat hcopy]
      cases result with
      | error error => rfl
      | ok u =>
        rw [List.takeWhile_cons_of_pos rfl, List.length_cons, List.take_succ_cons,
          ← copiesOf_walk rest (isCancelled || isCancelling) state']
        rfl

/-- **A message fails** when a copy that it wants is rejected, or an address cannot be read. -/
theorem isSome_outcome_walk : ∀ (records : List CopyRecord) (isCancelled : Bool) (state : σ),
    (relay.walk store records isCancelled state).outcome.isSome = true ↔
      (∃ error, .error error ∈ store.answers isCancelled state (relay.wanted records)) ∨
        ∃ record ∈ records, ∃ error, ObjectUri.parse record.uri = .error error
  | [], _, _ => by simp [walk, wanted, Store.answers]
  | record :: rest, isCancelled, state => by
    rcases relay.treat_cases record with ⟨error, hparse, htreat⟩ | ⟨hok, hnone, source, reason, htreat⟩ |
      ⟨hok, op, hsome, htreat⟩
    · rw [walk, htreat]
      simp [hparse]
    · rw [wanted_cons_of_isOk hok, hnone, walk, htreat, exists_unreadable_cons hok]
      exact isSome_outcome_walk rest isCancelled state
    · rcases hcopy : store.copy isCancelled { operation := op } state with ⟨⟨result, isCancelling⟩, state'⟩
      rw [wanted_cons_of_isOk hok, hsome, Option.toList_some, List.singleton_append, Store.answers, hcopy,
        walk_copied relay store htreat hcopy, exists_unreadable_cons hok]
      cases result with
      | error error => simp [walkAnswered]
      | ok u => simpa [walkAnswered, Walk.prepend] using isSome_outcome_walk rest (isCancelled || isCancelling) state'

/-- Looking at records stores nothing. -/
theorem puts_walk : ∀ (records : List CopyRecord) (isCancelled : Bool) (state : σ),
    (relay.walk store records isCancelled state).activities.filterMap Activity.put? = []
  | [], _, _ => rfl
  | record :: rest, isCancelled, state => by
    cases htreat : relay.treat record with
    | unreadable error =>
      rw [walk, htreat]
      rfl
    | skipped source reason =>
      rw [walk, htreat]
      exact puts_walk rest isCancelled state
    | copied op =>
      rcases hcopy : store.copy isCancelled { operation := op } state with ⟨answer, state'⟩
      rw [walk_copied relay store htreat hcopy]
      cases answer.result with
      | error error => rfl
      | ok u => exact puts_walk rest (isCancelled || answer.isCancelling) state'

theorem exists_accepted {relay : Relay} {records : List CopyRecord} {request : CopyRequest}
    (h : request ∈ relay.wanted records) : ∃ record ∈ records, ∃ source, ObjectUri.parse record.uri = .ok source ∧
      relay.Accepts source record.size ∧
        request = { operation := (relay.sets.apply (.below relay.destination source)).1 } := by
  obtain ⟨record, hrecord, hrequest⟩ := List.mem_filterMap.1 h
  refine ⟨record, (List.takeWhile_prefix _).mem hrecord, ?_⟩
  rw [request?] at hrequest
  split at hrequest
  · cases hrequest
  · rename_i source hparse
    split at hrequest
    · rename_i haccepts
      exact ⟨source, hparse, haccepts, (Option.some.inj hrequest).symm⟩
    · cases hrequest

/-- Where a copy comes from is not for the rules to say. -/
theorem copySource_operation (relay : Relay) (source : ObjectUri) :
    (relay.operation source).copySource = source.source :=
  RuleSets.apply_copySource relay.sets (CopyOperation.below relay.destination source)

/-- **What a message asks for**, whatever the store answers: what is wanted of its records, each once and in
order, up to the first request that is rejected.  It fails if there is such a request, or an address that
cannot be read; an object that is not accepted is neither asked for nor a failure.  And whatever the rules
are, what is asked for comes from an object that the filter lets through. -/
theorem walkMessage_copies (message : Message) (isCancelled : Bool) (state : σ) :
    let records := Notification.copyRecords message.body
    let answers := store.answers isCancelled state (relay.wanted records)
    let walked := relay.walkMessage store message isCancelled state
    copiesOf walked.activities = (relay.wanted records).take ((answers.takeWhile Except.isOk).length + 1) ∧
    (walked.outcome.isSome = true ↔ (∃ error, .error error ∈ answers) ∨
      ∃ record ∈ records, ∃ error, ObjectUri.parse record.uri = .error error) ∧
    (∀ request ∈ copiesOf walked.activities, ∃ record ∈ records, ∃ source,
      ObjectUri.parse record.uri = .ok source ∧ relay.Accepts source record.size ∧
        request = { operation := (relay.sets.apply (.below relay.destination source)).1 }) ∧
    ∀ request ∈ copiesOf walked.activities, relay.filter.allows request.operation.copySource = true := by
  intro records answers walked
  have hcopies := relay.copiesOf_walk store records isCancelled state
  have haccepted : ∀ request ∈ copiesOf walked.activities, ∃ record ∈ records, ∃ source,
      ObjectUri.parse record.uri = .ok source ∧ relay.Accepts source record.size ∧
        request = { operation := (relay.sets.apply (.below relay.destination source)).1 } := by
    intro request hrequest
    exact exists_accepted (List.mem_of_mem_take (hcopies ▸ hrequest))
  refine ⟨hcopies, relay.isSome_outcome_walk store records isCancelled state, haccepted, fun request hrequest => ?_⟩
  obtain ⟨record, -, source, -, haccepts, rfl⟩ := haccepted request hrequest
  rw [← operation_eq, copySource_operation]
  exact haccepts.allowed

/-- Rules that leave digests where they are and name the type of documents. -/
def leavingDigests : List WrittenRule := [
  { source := some "/Digest/", override := { key := some "" } },
  { source := some "\\.json$", override := { contentType := some "application/json" } }]

/-- A relay of one bucket with a limit on sizes. -/
def digestRelay? : Option Relay := do
  let filter ← (ObjectFilter.ofGlobs ["in"] ["*"]).toOption
  let rules ← (RuleSet.compileFrom (RuleSet.rulePath "digests") 0 leavingDigests).toOption
  return { destination := ⟨"s3", "out", "to"⟩, filter, sets := [⟨"digests", rules⟩], maxFileSize := 100 }

/-- A store that refuses to copy one object. -/
def lockedStore : Store Unit where
  copy _ request state :=
    (if request.operation.copySource == "in/locked" then { result := .error (.backend "denied") } else {}, state)
  put _ _ state := ({}, state)

/-- Objects of which the first four are a document, one of another bucket, one that is too large and a digest. -/
def mixedMessage : Message where
  id := "1"
  body := "\x7b\"copy\":[" ++
    "\x7b\"uri\":\"s3://in/a.json\",\"size\":100\x7d,\x7b\"uri\":\"s3://other/b.json\"\x7d," ++
    "\x7b\"uri\":\"s3://in/c.json\",\"size\":101\x7d,\x7b\"uri\":\"s3://in/Digest/d\"\x7d," ++
    "\x7b\"uri\":\"s3://in/locked\"\x7d,\x7b\"uri\":\"s3://in/e.json\"\x7d,\x7b\"uri\":\"nowhere\"\x7d]\x7d"
  attributes := []

/-- The requests for a document, for an object that is locked and for another document. -/
def mixedRequests : List CopyRequest := [
  { operation := {
      bucket := "out", copySource := "in/a.json", key := "to/a.json", contentType := some "application/json"
      metadataDirective := some .replace } },
  { operation := { bucket := "out", copySource := "in/locked", key := "to/locked" } },
  { operation := {
      bucket := "out", copySource := "in/e.json", key := "to/e.json", contentType := some "application/json"
      metadataDirective := some .replace } }]

/-- The first document is asked for, with the type that a rule names, and the object that is locked; behind that one
the message ends. -/
theorem walkMessage_copies_mixed : ∃ relay, digestRelay? = some relay ∧
    let walked := relay.walkMessage lockedStore mixedMessage false ()
    relay.wanted (Notification.copyRecords mixedMessage.body) = mixedRequests ∧
    copiesOf walked.activities = mixedRequests.take 2 ∧ walked.outcome.isSome = true ∧
    ∀ request ∈ mixedRequests.take 2, relay.filter.allows request.operation.copySource = true := by
  obtain ⟨relay, hrelay⟩ : ∃ relay, digestRelay? = some relay := ⟨_, rfl⟩
  have hwanted : ∀ r ∈ digestRelay?, r.wanted (Notification.copyRecords mixedMessage.body) = mixedRequests := by
    decide +kernel
  obtain ⟨hcopies, houtcome, -, hallowed⟩ := walkMessage_copies relay lockedStore mixedMessage false ()
  rw [hwanted relay hrelay] at hcopies houtcome
  have htwo : copiesOf (relay.walkMessage lockedStore mixedMessage false ()).activities = mixedRequests.take 2 :=
    hcopies
  rw [htwo] at hallowed
  have hrejected : ∃ error, .error error ∈ lockedStore.answers false () mixedRequests :=
    ⟨.backend "denied", .tail _ (.head _)⟩
  exact ⟨relay, hrelay, hwanted relay hrelay, htwo, houtcome.2 (.inl hrejected), hallowed⟩

end Relay
end ObjectRelay

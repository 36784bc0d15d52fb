import ObjectRelay.Proofs.Object.CreatedObject
/-!
# Bodies with several elements

A body holds its events, or the objects it lists, in one array, which is read as a whole.  If every element can be
read, the body names what its elements name when each is sent in a body of its own; if one cannot, the body names
nothing at all (`copyRecords_elements`).
-/
namespace ObjectRelay
namespace Notification

open Json (Shape)

/-- A member of a body whose elements name objects: what it is called, what its elements must hold, and the objects
that an element names once it has been read. -/
structure Listing where
  name : String
  item : Shape
  records : Json → List CopyRecord

/-- One of the objects that a body lists. -/
def itemShape : Shape := .record [("uri", .required, .text), ("size", .optional, .nullable .integer)] .skipped

/-- The events of the object store. -/
def events : Listing where
  name := "Records"
  item := eventShape
  records event := if isCreation event then [eventRecord event] else []

/-- The explicit list. -/
def explicit : Listing where
  name := "copy"
  item := itemShape
  records item := [{ uri := item.textAt "uri", size := item.integerAt? "size" }]

namespace Listing

variable (l : Listing) (elements : List Json)

/-- The body that holds these elements and nothing else. -/
def holding : Json := .object [(l.name, .array elements)]

/-- Whether an element is what the member is for. -/
def reads (element : Json) : Bool := (l.item.conform element).isSome

/-- The objects named by elements that are read together. -/
def together : List CopyRecord := ((elements.mapM l.item.conform).map (List.flatMap l.records)).getD []

theorem mapM_eq_ite {α β : Type} (f : α → Option β) : ∀ as : List α,
    as.mapM f = if as.all (fun a => (f a).isSome) then some (as.filterMap f) else none
  | [] => rfl
  | a :: as => by
    rw [List.mapM_cons, mapM_eq_ite f as, List.all_cons]
    cases ha : f a with
    | none => rfl
    | some b =>
      rw [List.filterMap_cons_some ha]
      cases as.all fun a => (f a).isSome <;> rfl

theorem together_singleton (element : Json) :
    l.together [element] = ((l.item.conform element).map l.records).getD [] := by
  rw [together, List.mapM_cons, List.mapM_nil]
  cases l.item.conform element <;> simp

/-- **Elements that are read together** name what each of them names, if all can be read, and nothing otherwise. -/
theorem together_eq : l.together elements =
    if elements.all l.reads then elements.flatMap fun element => l.together [element] else [] := by
  rw [together, mapM_eq_ite]
  change ((if elements.all l.reads then _ else none).map _).getD [] = _
  cases elements.all l.reads with
  | false => rfl
  | true =>
    simp only [together_singleton, if_true, Option.map_some, Option.getD_some]
    induction elements with
    | nil => rfl
    | cons element elements ih =>
      rw [List.filterMap_cons, List.flatMap_cons, ← ih]
      cases l.item.conform element <;> rfl

theorem conform_holding : (Shape.record [(l.name, .optional, .list l.item)] .skipped).conform (l.holding elements) =
    (elements.mapM l.item.conform).map l.holding := by
  rw [holding, Json.conform_record]
  cases h : elements.mapM l.item.conform with
  | none => simp [Json.conformNamed, Shape.conform, h]
  | some found =>
    simp [Json.conformNamed, Shape.conform, h, Json.insert, Json.allPresent, Json.Field.mayBeMissing, Json.recordOf,
      holding]

end Listing

/-! ## Bodies -/

/-- The members of a body whose elements name objects. -/
def listings : List Listing := [events, explicit]

variable {l : Listing} {elements : List Json} {body : String}

theorem flatMap_events_records (found : List Json) :
    found.flatMap events.records = (found.filter isCreation).map eventRecord := by
  induction found with
  | nil => rfl
  | cons e found ih =>
    have hrecords : events.records e = if isCreation e then [eventRecord e] else [] := rfl
    rw [List.flatMap_cons, ih, hrecords, List.filter_cons]
    cases isCreation e <;> rfl

theorem createdRecords_events (elements : List Json) : createdRecords (events.holding elements) =
    events.together elements := by
  have hconform : eventsShape.conform (events.holding elements) = _ := events.conform_holding elements
  rw [createdRecords, hconform, Listing.together]
  cases elements.mapM events.item.conform with
  | none => rfl
  | some found => exact (flatMap_events_records found).symm

theorem listedRecords_explicit (elements : List Json) : listedRecords (explicit.holding elements) =
    explicit.together elements := by
  have hconform : listShape.conform (explicit.holding elements) = _ := explicit.conform_holding elements
  rw [listedRecords, hconform, Listing.together]
  cases elements.mapM explicit.item.conform with
  | none => rfl
  | some found => exact List.map_eq_flatMap

theorem ownRecords_holding (hl : l ∈ listings) (elements : List Json) :
    ownRecords (l.holding elements) = l.together elements := by
  obtain rfl | rfl : l = events ∨ l = explicit := by simpa [listings] using hl
  · have hnone : listedRecords (events.holding elements) = [] := rfl
    rw [ownRecords, createdRecords_events, hnone]
    cases events.together elements <;> rfl
  · have hnone : createdRecords (explicit.holding elements) = [] := rfl
    rw [ownRecords, hnone]
    exact listedRecords_explicit elements

theorem copyRecords_of_holding (hl : l ∈ listings) (hbody : Json.parse body = .ok (l.holding elements)) :
    copyRecords body = l.together elements := by
  have henv : enveloped? (l.holding elements) = none := by
    refine enveloped?_of_subject_ne ?_
    obtain rfl | rfl : l = events ∨ l = explicit := by simpa [listings] using hl
    all_goals simp [events, explicit, List.lookup_cons]
  rw [copyRecords, recordsWithin, hbody]
  simp only [henv, ownRecords_holding hl]

/-- **A body and its elements.**  If every element of a body can be read, the body names, in order, what bodies with
one element each name; if one of them cannot, the body names nothing, whatever the others say. -/
theorem copyRecords_elements {parts : List String} (hl : l ∈ listings)
    (hbody : Json.parse body = .ok (l.holding elements))
    (hparts : List.Forall₂ (fun element part => Json.parse part = .ok (l.holding [element])) elements parts) :
    copyRecords body = if elements.all l.reads then parts.flatMap copyRecords else [] := by
  have hflat : (elements.flatMap fun element => l.together [element]) = parts.flatMap copyRecords := by
    clear hbody
    induction hparts with
    | nil => rfl
    | cons hpart _ ih => rw [List.flatMap_cons, List.flatMap_cons, ih, copyRecords_of_holding hl hpart]
  rw [copyRecords_of_holding hl hbody, Listing.together_eq, hflat]

/-- An event of the object store that says no more than it has to. -/
def event (name bucket key : String) : Json :=
  .object [("eventName", .string name),
    ("s3", .object [("bucket", .object [("name", .string bucket)]), ("object", .object [("key", .string key)])])]

/-- The event as it is written. -/
def eventText (name bucket key : String) : String :=
  "\x7b\"eventName\":\"" ++ name ++ "\",\"s3\":\x7b\"bucket\":\x7b\"name\":\"" ++ bucket ++
    "\"\x7d,\"object\":\x7b\"key\":\"" ++ key ++ "\"\x7d\x7d\x7d"

/-- A body as it is written. -/
def eventsText (elements : List String) : String :=
  "\x7b\"Records\":[" ++ String.intercalate "," elements ++ "]\x7d"

/-- Of two events that can be read one is of no concern, and does not hide the other. -/
theorem copyRecords_elements_removal : ∃ body part part',
    Json.parse body = .ok (events.holding [event "ObjectRemoved:Delete" "b" "a", event "ObjectCreated:Put" "b" "k"]) ∧
    copyRecords body = copyRecords part ++ copyRecords part' ∧ copyRecords part = [] ∧
    copyRecords part' = [{ uri := "s3://b/k" }] := by
  have hbody : Json.parse (eventsText [eventText "ObjectRemoved:Delete" "b" "a", eventText "ObjectCreated:Put" "b" "k"])
      = .ok (events.holding [event "ObjectRemoved:Delete" "b" "a", event "ObjectCreated:Put" "b" "k"]) :=
    Json.parse_eq_ok (by decide +kernel)
  have hremoved : Json.parse (eventsText [eventText "ObjectRemoved:Delete" "b" "a"]) =
      .ok (events.holding [event "ObjectRemoved:Delete" "b" "a"]) := Json.parse_eq_ok (by decide +kernel)
  have hcreated : Json.parse (eventsText [eventText "ObjectCreated:Put" "b" "k"]) =
      .ok (events.holding [event "ObjectCreated:Put" "b" "k"]) := Json.parse_eq_ok (by decide +kernel)
  have helements := copyRecords_elements List.mem_cons_self hbody (.cons hremoved (.cons hcreated .nil))
  have hreads : List.all [event "ObjectRemoved:Delete" "b" "a", event "ObjectCreated:Put" "b" "k"] events.reads = true :=
    by decide +kernel
  rw [if_pos hreads] at helements
  refine ⟨_, _, _, hbody, by simpa using helements, ?_, ?_⟩
  · rw [copyRecords_of_holding List.mem_cons_self hremoved]
    decide +kernel
  · rw [copyRecords_of_holding List.mem_cons_self hcreated]
    decide +kernel

/-- **An element that cannot be read hides the others**: sent alone, the first of these names an object. -/
theorem copyRecords_elements_hidden : ∃ body part part',
    Json.parse body = .ok (events.holding [event "ObjectCreated:Put" "b" "k", .object []]) ∧
    Json.parse part = .ok (events.holding [event "ObjectCreated:Put" "b" "k"]) ∧
    Json.parse part' = .ok (events.holding [.object []]) ∧
    copyRecords body = [] ∧ copyRecords part ++ copyRecords part' = [{ uri := "s3://b/k" }] := by
  have hbody : Json.parse (eventsText [eventText "ObjectCreated:Put" "b" "k", "\x7b\x7d"]) =
      .ok (events.holding [event "ObjectCreated:Put" "b" "k", .object []]) := Json.parse_eq_ok (by decide +kernel)
  have hcreated : Json.parse (eventsText [eventText "ObjectCreated:Put" "b" "k"]) =
      .ok (events.holding [event "ObjectCreated:Put" "b" "k"]) := Json.parse_eq_ok (by decide +kernel)
  have hempty : Json.parse (eventsText ["\x7b\x7d"]) = .ok (events.holding [.object []]) :=
    Json.parse_eq_ok (by decide +kernel)
  refine ⟨_, _, _, hbody, hcreated, hempty, ?_, ?_⟩
  · rw [copyRecords_of_holding List.mem_cons_self hbody]
    decide +kernel
  · rw [copyRecords_of_holding List.mem_cons_self hcreated, copyRecords_of_holding List.mem_cons_self hempty]
    decide +kernel

end Notification
end ObjectRelay

import ObjectRelay.Object.Notification
import ObjectRelay.Relay
import ObjectRelay.Proofs.Json.Equality
import ObjectRelay.Proofs.Json.Shape
import ObjectRelay.Proofs.Object.Address
import ObjectRelay.Proofs.Rule.Source
import ObjectRelay.Proofs.Text.Form
/-!
# The key of a created object

An event names an object by its bucket and its form encoded key.  On the way to the copy the key is decoded, put into
an address, read back from it, put into the copy source and read back from that.  `createdObject_key` says what
arrives: the key up to its first question mark, which the address takes for the beginning of a query.  A key without
question marks survives whatever else it holds and however the event spells it; one with a question mark does not
(`createdObject_key_cut`).
-/
namespace ObjectRelay
namespace Notification

/-! ## Reading the event -/

/-- The size that an object of an event says it has, which may be none. -/
def HasSize (object : Json) (size : Option Int) : Prop :=
  match size with
  | none => object.member? "size" = none ∨ object.member? "size" = some .null
  | some n => (-0x8000000000000000 ≤ n ∧ n < 0x8000000000000000) ∧ object.member? "size" = some (.number (.int n))

/-- An event of the object store with one record, which says that an object has been created.  All other members
are free, but that the event is no envelope. -/
def IsCreationOf (v : Json) (bucket key : String) (size : Option Int) : Prop :=
  v.member? "Subject" ≠ some (.string subject) ∧ ∃ record name entity store object,
    v.member? "Records" = some (.array [record]) ∧
    record.member? "eventName" = some (.string name) ∧ "ObjectCreated".toList.isPrefixOf name.toList ∧
    record.member? "s3" = some entity ∧
    entity.member? "bucket" = some store ∧ store.member? "name" = some (.string bucket) ∧
    entity.member? "object" = some object ∧ object.member? "key" = some (.string key) ∧ HasSize object size

theorem enveloped?_of_subject_ne {members : List (String × Json)}
    (h : members.lookup "Subject" ≠ some (.string subject)) : enveloped? (.object members) = none := by
  cases henv : envelopeShape.conform (.object members) with
  | none => simp [enveloped?, henv]
  | some envelope =>
    have hsubject : envelope.textAt "Subject" ≠ subject := by
      rw [Json.textAt_of_conform_record (by decide) henv List.mem_cons_self, Json.textAt, Json.member?]
      intro hs
      split at hs
      · rename_i s hl
        exact h (by rw [hl, hs])
      · exact absurd hs (by decide)
    simp [enveloped?, henv, hsubject]

theorem conform_bucketShape {store : Json} {bucket : String} (h : store.member? "name" = some (.string bucket)) :
    ∃ r, bucketShape.conform store = some r ∧ r.textAt "name" = bucket := by
  obtain ⟨members, rfl, hname⟩ := Json.eq_object_of_member? h
  have hread := Json.read?_text (p := .required) hname
  obtain ⟨r, hr, hm⟩ := Json.conform_record_of_read [("name", .required, .text)] members (by decide) (by simp [hread])
  exact ⟨r, hr, Json.textAt_eq (by rw [hm _ List.mem_cons_self, hread]; rfl)⟩

theorem conform_objectShape {object : Json} {key : String} {size : Option Int}
    (h : object.member? "key" = some (.string key)) (hs : HasSize object size) :
    ∃ r, objectShape.conform object = some r ∧ r.textAt "key" = key ∧ r.integerAt? "size" = size := by
  obtain ⟨members, rfl, hkey⟩ := Json.eq_object_of_member? h
  have hread := Json.read?_text (p := .required) hkey
  let f : Json.Field := ("size", .optional, .nullable .integer)
  have hf : ((∃ w, f.read? members = some w) ∨ members.lookup "size" = none) ∧
      ∀ r : Json, r.member? "size" = (f.read? members).filter f.keeps → r.integerAt? "size" = size := by
    cases size with
    | none =>
      rcases hs with hs | hs <;> rw [Json.member?] at hs
      · exact ⟨.inr hs, fun r hr => by rw [Json.integerAt?, hr, Json.Field.read?, hs]; rfl⟩
      · have hnull : f.read? members = some .null := Json.read?_of_conform hs (by simp [Json.Shape.conform])
        exact ⟨.inl ⟨_, hnull⟩, fun r hr => by rw [Json.integerAt?, hr, hnull]; rfl⟩
    | some n =>
      obtain ⟨hn, hs⟩ := hs
      have hint : f.read? members = some (.number (.int n)) :=
        Json.read?_of_conform hs (by simp [Json.Shape.conform, Json.Shape.scalar]; omega)
      exact ⟨.inl ⟨_, hint⟩, fun r hr => by rw [Json.integerAt?, hr, hint]; rfl⟩
  obtain ⟨r, hr, hm⟩ := Json.conform_record_of_read [("key", .required, .text), f] members (by decide) (by
      intro g hg
      rcases List.mem_cons.1 hg with rfl | hg
      · exact .inl ⟨_, hread⟩
      · rw [List.mem_singleton.1 hg]
        exact hf.1.imp_right fun hnone => ⟨by decide, hnone⟩)
  exact ⟨r, hr, Json.textAt_eq (by rw [hm _ List.mem_cons_self, hread]; rfl),
    hf.2 r (hm f (List.mem_cons_of_mem _ List.mem_cons_self))⟩

theorem conform_entityShape {entity store object : Json} {bucket key : String} {size : Option Int}
    (hstore : entity.member? "bucket" = some store) (hbucket : store.member? "name" = some (.string bucket))
    (hobject : entity.member? "object" = some object) (hkey : object.member? "key" = some (.string key))
    (hsize : HasSize object size) :
    ∃ r, entityShape.conform entity = some r ∧ (r.recordAt "bucket").textAt "name" = bucket ∧
      (r.recordAt "object").textAt "key" = key ∧ (r.recordAt "object").integerAt? "size" = size := by
  obtain ⟨b, hb, hname⟩ := conform_bucketShape hbucket
  obtain ⟨o, ho, hkey, hsize⟩ := conform_objectShape hkey hsize
  obtain ⟨members, rfl, hstore⟩ := Json.eq_object_of_member? hstore
  have hreadb := Json.read?_of_conform (p := .required) hstore hb
  have hreado := Json.read?_of_conform (p := .required) hobject ho
  obtain ⟨r, hr, hm⟩ := Json.conform_record_of_read
    [("bucket", .required, bucketShape), ("object", .required, objectShape)] members (by decide)
    (by simp [hreadb, hreado])
  have hrb : r.member? "bucket" = some b := by
    rw [hm ("bucket", .required, bucketShape) (by simp), Json.filter_keeps rfl, hreadb]
  have hro : r.member? "object" = some o := by
    rw [hm ("object", .required, objectShape) (by simp), Json.filter_keeps rfl, hreado]
  exact ⟨r, hr, by rw [Json.recordAt_eq hrb, hname], by rw [Json.recordAt_eq hro, hkey],
    by rw [Json.recordAt_eq hro, hsize]⟩

/-- **An event about a created object names that object**, whatever else it says. -/
theorem createdRecords_of_isCreationOf {v : Json} {bucket key : String} {size : Option Int}
    (h : IsCreationOf v bucket key size) :
    createdRecords v = [{ uri := "s3://" ++ bucket ++ "/" ++ Percent.formDecode key, size := size }] := by
  obtain ⟨-, record, name, entity, store, object, hrecords, hname, hcreated, hentity, hstore, hbucket, hobject, hkey,
    hsize⟩ := h
  obtain ⟨e, he, hebucket, hekey, hesize⟩ := conform_entityShape hstore hbucket hobject hkey hsize
  obtain ⟨mr, rfl, hname⟩ := Json.eq_object_of_member? hname
  obtain ⟨mv, rfl, hrecords⟩ := Json.eq_object_of_member? hrecords
  have hreadn := Json.read?_text (p := .optional) hname
  have hreade := Json.read?_of_conform (p := .required) hentity he
  obtain ⟨r, hr, hm⟩ := Json.conform_record_of_read
    [("eventName", .optional, .text), ("s3", .required, entityShape)] mr (by decide) (by simp [hreadn, hreade])
  have hrn : r.textAt "eventName" = name := Json.textAt_eq (by rw [hm _ List.mem_cons_self, hreadn]; rfl)
  have hre : r.recordAt "s3" = e := Json.recordAt_eq (by
    rw [hm ("s3", .required, entityShape) (by simp), Json.filter_keeps rfl, hreade])
  have hreads : Json.Field.read? ("Records", .optional, .list eventShape) mv = some (.array [r]) := by
    refine Json.read?_of_conform hrecords ?_
    rw [Json.Shape.conform, List.mapM_cons, List.mapM_nil, eventShape, hr]
    rfl
  obtain ⟨w, hw, hwm⟩ := Json.conform_record_of_read
    [("Records", .optional, .list eventShape)] mv (by decide) (by simp [hreads])
  have hitems : w.itemsAt "Records" = [r] := Json.itemsAt_eq (by
    rw [hwm _ List.mem_cons_self, Json.filter_keeps rfl, hreads])
  have hcreation : isCreation r = true := by rw [isCreation, hrn, hcreated]
  have hrecord : eventRecord r = { uri := "s3://" ++ bucket ++ "/" ++ Percent.formDecode key, size := size } := by
    simp only [eventRecord, hre, hebucket, hekey, hesize]
  rw [createdRecords, eventsShape, hw]
  simp only [hitems, List.filter_cons, hcreation, if_true, List.filter_nil, List.map_cons, List.map_nil, hrecord]

theorem copyRecords_of_isCreationOf {body : String} {v : Json} {bucket key : String} {size : Option Int}
    (hbody : Json.parse body = .ok v) (h : IsCreationOf v bucket key size) :
    copyRecords body = [{ uri := "s3://" ++ bucket ++ "/" ++ Percent.formDecode key, size := size }] := by
  have henv : enveloped? v = none := by
    obtain ⟨hsubject, _, _, _, _, _, hrecords, -⟩ := h
    obtain ⟨members, rfl, -⟩ := Json.eq_object_of_member? hrecords
    exact enveloped?_of_subject_ne hsubject
  rw [copyRecords, recordsWithin, hbody]
  simp only [henv, ownRecords, createdRecords_of_isCreationOf h]

end Notification

/-- **The key of a created object on its way to the copy.**  However the event spells it, the object is named by one
record, whose address has the bucket and the key, the latter up to its first question mark; copy source, filter and
read go by that address.  So the key arrives whole exactly if it has no question mark. -/
theorem createdObject_key {body written bucket key : String} {v : Json} {size : Option Int}
    (hbody : Json.parse body = .ok v) (hv : Notification.IsCreationOf v bucket written size)
    (hne : bucket ≠ "") (hslash : '/' ∉ bucket.toList) (hquery : '?' ∉ bucket.toList)
    (hwritten : Percent.FormSpelling (Utf8.encode written) (Utf8.encode key)) :
    ∃ record uri, Notification.copyRecords body = [record] ∧ record.size = size ∧
      ObjectUri.parse record.uri = .ok uri ∧ uri.bucket = bucket ∧ uri.key = ObjectUri.withoutQuery key ∧
      uri.source = bucket ++ "/" ++ ObjectUri.withoutQuery key ∧
      (∀ relay : Relay, relay.treat record = relay.treatObject uri size ∧
        (relay.operation uri).copySource = bucket ++ "/" ++ ObjectUri.withoutQuery key ∧
        ∀ conditions, CopyRequest.read { operation := relay.operation uri, conditions } =
          { bucket, key := ObjectUri.withoutQuery key, conditions }) ∧
      (uri.key = key ↔ '?' ∉ key.toList) := by
  have hkey := Percent.formDecode_of_spelling hwritten
  have hrecords := Notification.copyRecords_of_isCreationOf hbody hv
  have hparse := ObjectUri.parse_storeAddress key hne hslash hquery
  rw [hkey] at hrecords
  refine ⟨_, _, hrecords, rfl, hparse, rfl, rfl, rfl, fun relay => ?_, ObjectUri.withoutQuery_eq_self_iff key⟩
  have hsource : (relay.operation ⟨"s3", bucket, ObjectUri.withoutQuery key⟩).copySource =
      bucket ++ "/" ++ ObjectUri.withoutQuery key := by
    rw [Relay.operation, RuleSets.apply_copySource]
    rfl
  refine ⟨by rw [Relay.treat, hparse], hsource, fun conditions => ?_⟩
  simp only [CopyRequest.read, hsource, CopyRequest.sourceParts_append _ hslash]

/-- An event that says no more of a created object than it has to. -/
def creationEvent (bucket key : String) : Json :=
  .object [("Records", .array [.object [("eventName", .string "ObjectCreated:Put"),
    ("s3", .object [("bucket", .object [("name", .string bucket)]), ("object", .object [("key", .string key)])])]])]

theorem creationEvent_isCreationOf (bucket key : String) :
    Notification.IsCreationOf (creationEvent bucket key) bucket key none :=
  ⟨by simp [creationEvent, Json.member?, List.lookup_cons], _, _, _, _, _, rfl, rfl, by decide, rfl, rfl, rfl, rfl, rfl,
    .inl rfl⟩

theorem formSpelling_mixed : Percent.FormSpelling (Utf8.encode "a%2fb+%c3%BC") (Utf8.encode "a/b ü") := by
  have hwritten : Utf8.encode "a%2fb+%c3%BC" =
      [0x61, 0x25, 0x32, 0x66, 0x62, 0x2B, 0x25, 0x63, 0x33, 0x25, 0x42, 0x43] := by decide
  have hkey : Utf8.encode "a/b ü" = [0x61, 0x2F, 0x62, 0x20, 0xC3, 0xBC] := by decide
  rw [hwritten, hkey]
  exact .plain (by decide) (by decide) <| .escape (by decide) (by decide) <| .plain (by decide) (by decide) <|
    .plus <| .escape (by decide) (by decide) <| .escape (by decide) (by decide) .nil

/-- A key with a slash, a space and a letter outside ASCII arrives whole. -/
theorem createdObject_key_mixed : ∃ body record uri, Json.parse body = .ok (creationEvent "in" "a%2fb+%c3%BC") ∧
    Percent.FormSpelling (Utf8.encode "a%2fb+%c3%BC") (Utf8.encode "a/b ü") ∧
    Notification.copyRecords body = [record] ∧ ObjectUri.parse record.uri = .ok uri ∧
    uri.source = "in/a/b ü" ∧ uri.key = "a/b ü" := by
  have hbody : Json.parse ("\x7b\"Records\":[\x7b\"eventName\":\"ObjectCreated:Put\"," ++
      "\"s3\":\x7b\"bucket\":\x7b\"name\":\"in\"\x7d,\"object\":\x7b\"key\":\"a%2fb+%c3%BC\"\x7d\x7d\x7d]\x7d") =
      .ok (creationEvent "in" "a%2fb+%c3%BC") := Json.parse_eq_ok (by decide +kernel)
  obtain ⟨record, uri, hrecords, -, hparse, -, hkey, hsource, -, -⟩ :=
    createdObject_key hbody (creationEvent_isCreationOf _ _) (by decide) (by decide) (by decide) formSpelling_mixed
  exact ⟨_, record, uri, hbody, formSpelling_mixed, hrecords, hparse, hsource, hkey⟩

/-- **A key with a question mark is cut there**: the object that is copied is another one. -/
theorem createdObject_key_cut : ∃ body record uri, Json.parse body = .ok (creationEvent "in" "a%3Fb") ∧
    Percent.formDecode "a%3Fb" = "a?b" ∧ Notification.copyRecords body = [record] ∧
    ObjectUri.parse record.uri = .ok uri ∧ uri.source = "in/a" := by
  have hbody : Json.parse ("\x7b\"Records\":[\x7b\"eventName\":\"ObjectCreated:Put\"," ++
      "\"s3\":\x7b\"bucket\":\x7b\"name\":\"in\"\x7d,\"object\":\x7b\"key\":\"a%3Fb\"\x7d\x7d\x7d]\x7d") =
      .ok (creationEvent "in" "a%3Fb") := Json.parse_eq_ok (by decide +kernel)
  have hkey : Percent.formDecode "a%3Fb" = "a?b" := by decide
  have hrecords := Notification.copyRecords_of_isCreationOf hbody (creationEvent_isCreationOf _ _)
  rw [hkey] at hrecords
  exact ⟨_, _, _, hbody, hkey, hrecords,
    ObjectUri.parse_storeAddress "a?b" (by decide) (by decide) (by decide), by decide⟩

end ObjectRelay

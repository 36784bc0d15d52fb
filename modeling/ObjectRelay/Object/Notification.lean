import ObjectRelay.Json.Reader
import ObjectRelay.Text.Percent
/-!
# Notifications

The body of a message says which objects to copy.  It is one of three things: an
envelope of the notification service around another body, an event of the object
store, or an explicit list.  They are tried in that order, and the first one that
names an object counts.  A body that is none of them names no objects.
-/
namespace ObjectRelay

open Json (Shape)

structure CopyRecord where
  uri : String
  size : Option Int := none
deriving DecidableEq, Repr

namespace Notification

/-! ## Envelopes -/

/-- What the subject of an envelope around an event says. -/
def subject : String := "Amazon S3 Notification"

def envelopeShape : Shape :=
  .record [("Subject", .optional, .text), ("Message", .optional, .text)] .skipped

/-- The body inside an envelope with the right subject. -/
def enveloped? (v : Json) : Option String := do
  let envelope ← envelopeShape.conform v
  if envelope.textAt "Subject" == subject then some (envelope.textAt "Message") else none

/-! ## Events of the object store -/

def bucketShape : Shape := .record [("name", .required, .text)] .skipped

/-- An object; its key comes form encoded. -/
def objectShape : Shape :=
  .record [("key", .required, .text), ("size", .optional, .nullable .integer)] .skipped

def entityShape : Shape :=
  .record [("bucket", .required, bucketShape), ("object", .required, objectShape)] .skipped

/-- One event: what happened to which object. -/
def eventShape : Shape :=
  .record [("eventName", .optional, .text), ("s3", .required, entityShape)] .skipped

def eventsShape : Shape := .record [("Records", .optional, .list eventShape)] .skipped

def isCreation (event : Json) : Bool :=
  "ObjectCreated".toList.isPrefixOf (event.textAt "eventName").toList

/-- The object of an event; its key comes form encoded. -/
def eventRecord (event : Json) : CopyRecord :=
  let entity := event.recordAt "s3"
  let object := entity.recordAt "object"
  let bucket := (entity.recordAt "bucket").textAt "name"
  { uri := "s3://" ++ bucket ++ "/" ++ Percent.formDecode (object.textAt "key")
    size := object.integerAt? "size" }

/-- The objects that the events of a body have created. -/
def createdRecords (v : Json) : List CopyRecord := match eventsShape.conform v with
  | none => []
  | some body => ((body.itemsAt "Records").filter isCreation).map eventRecord

/-! ## Explicit lists -/

def listShape : Shape :=
  .record [
    ("copy", .optional, .list (.record [
      ("uri", .required, .text),
      ("size", .optional, .nullable .integer)] .skipped))] .skipped

def listedRecords (v : Json) : List CopyRecord := match listShape.conform v with
  | none => []
  | some body => (body.itemsAt "copy").map fun item =>
    { uri := item.textAt "uri", size := item.integerAt? "size" }

/-! ## Bodies -/

/-- The objects that a body itself names, its envelope set aside. -/
def ownRecords (v : Json) : List CopyRecord := match createdRecords v with
  | [] => listedRecords v
  | found => found

/-- The objects that a body names, with at most `depth` envelopes opened. -/
def recordsWithin : Nat → String → List CopyRecord
  | 0, _ => []
  | depth + 1, body => match Json.parse body with
    | .error _ => []
    | .ok v => match enveloped? v with
      | none => ownRecords v
      | some inner => match recordsWithin depth inner with
        | [] => ownRecords v
        | found => found

/-- The objects that a body names.  A body is longer than the one in its envelope, so
its length bounds the number of envelopes. -/
def copyRecords (body : String) : List CopyRecord := recordsWithin (body.length + 1) body

end Notification

end ObjectRelay

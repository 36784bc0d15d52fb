import ObjectRelay.Json.Reader
/-!
# Queue messages

The queue delivers messages in events.  A message has an id and a body; everything
else that comes with it is kept as it is, because it goes to the audit log.
-/
namespace ObjectRelay

open Json (Shape)

structure Message where
  id : String
  body : String
  /-- Everything else, in increasing order of the names. -/
  attributes : List (String × Json) := []

namespace Message

def shape : Shape := .record [("messageId", .optional, .text), ("body", .optional, .text)] .kept

def eventShape : Shape := .record [("Records", .optional, .list shape)] .skipped

/-- The message that a value of the right shape holds. -/
def ofJson (v : Json) : Message where
  id := v.textAt "messageId"
  body := v.textAt "body"
  attributes := match v with
    | .object members => members.filter fun m => m.1 != "messageId" && m.1 != "body"
    | _ => []

def readEvent (text : String) : Except Json.Fault (List Message) :=
  (Json.read eventShape text).map fun event => (event.itemsAt "Records").map ofJson

/-- The members of a message: id, body, and then everything else. -/
def members (m : Message) : List (String × Json) :=
  ("messageId", .string m.id) :: ("body", .string m.body) :: m.attributes

def toJson (m : Message) : Json := .object m.members

def eventJson (messages : List Message) : Json :=
  .object [("Records", .array (messages.map toJson))]

/-! ## What is said about messages -/

/-- The line of the audit log for a message: the message as it came and, last, the
error that failed it. -/
def auditJson (m : Message) (error? : Option String) : Json :=
  .object (m.members ++ (error?.map fun e => ("error", Json.string e)).toList)

/-- The answer to the queue: the ids of the messages that it shall deliver again. -/
def failuresJson (ids : List String) : Json :=
  .object [("batchItemFailures",
    .array (ids.map fun id => .object [("itemIdentifier", .string id)]))]

end Message

end ObjectRelay

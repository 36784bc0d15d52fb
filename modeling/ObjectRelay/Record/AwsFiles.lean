import ObjectRelay.Record.Decoder
/-!
# Files that wrap records

Trail and configuration files hold their records in one list; subscription payloads
hold log events that share the metadata of the payload.  A file is expanded as a
whole: if any part of it is not of the expected shape, none of its records are
handed out.
-/
namespace ObjectRelay

open Json (Shape Presence)

/-! ## Audit trail files -/

/-- A trail file: its records are kept as they are. -/
def trailShape : Shape := .record [("Records", .optional, .list .any)] .skipped

def trailRecords (file : Json) : List Record := file.itemsAt "Records"

/-! ## Configuration items -/

/-- A field of a configuration item that holds text. -/
def textField (name : String) : Json.Field := (name, .named, .nullable .text)

/-- A field of a configuration item that holds anything. -/
def anyField (name : String) : Json.Field := (name, .named, .nullable .any)

/-- The fields of a configuration item; nothing else of it is forwarded. -/
def configurationFields : List Json.Field := [
  textField "configurationItemVersion",
  textField "configurationItemCaptureTime",
  textField "configurationItemStatus",
  anyField "configurationStateId",
  textField "configurationStateMd5Hash",
  textField "awsAccountId",
  textField "awsRegion",
  textField "ARN",
  textField "availabilityZone",
  textField "resourceType",
  textField "resourceId",
  textField "resourceName",
  textField "resourceCreationTime",
  ("tags", .named, .nullable (.table .text)),
  ("relatedEvents", .named, .nullable (.list .text)),
  ("relationships", .named, .nullable (.list .any)),
  anyField "configuration",
  anyField "supplementaryConfiguration"]

/-- A configuration item; read under this shape it is its own record. -/
def configurationShape : Shape := .record configurationFields .skipped

def configurationFileShape : Shape :=
  .record [("configurationItems", .optional, .list configurationShape)] .skipped

def configurationRecords (file : Json) : List Record := file.itemsAt "configurationItems"

/-! ## Log events -/

def logEventShape : Shape :=
  .record [
    ("id", .optional, .text),
    ("timestamp", .optional, .integer),
    ("message", .optional, .text)] .skipped

def payloadShape : Shape :=
  .record [
    ("messageType", .optional, .text),
    ("owner", .optional, .text),
    ("logGroup", .optional, .text),
    ("logStream", .optional, .text),
    ("subscriptionFilters", .optional, .list .text),
    ("logEvents", .optional, .list logEventShape)] .skipped

/-- The record of a log event: the event and the metadata of its payload. -/
def logEventRecord (payload event : Json) : Record :=
  .objectOf [
    ("id", .string (event.textAt "id")),
    ("timestamp", .number (.int ((event.integerAt? "timestamp").getD 0))),
    ("message", .string (event.textAt "message")),
    ("owner", .string (payload.textAt "owner")),
    ("logGroup", .string (payload.textAt "logGroup")),
    ("logStream", .string (payload.textAt "logStream")),
    ("subscriptionFilters", .array (payload.itemsAt "subscriptionFilters"))]

/-- The records of a payload, none for one that only checks the connection. -/
def payloadRecords (payload : Json) : List Record :=
  if payload.textAt "messageType" == "CONTROL_MESSAGE" then []
  else (payload.itemsAt "logEvents").map (logEventRecord payload)

/-! ## Access logs -/

/-- The cells of a load balancer's access log line. -/
def accessLogNames : List String := [
  "type", "time", "elb", "client:port", "target:port", "request_processing_time",
  "target_processing_time", "response_processing_time", "elb_status_code",
  "target_status_code", "received_bytes", "sent_bytes", "request", "user_agent", "ssl_cipher",
  "ssl_protocol", "target_group_arn", "trace_id", "domain_name", "chosen_cert_arn",
  "matched_rule_priority", "request_creation_time", "actions_executed", "redirect_url",
  "error_reason", "target:port_list", "target_status_code_list", "classification",
  "classification_reason", "conn_trace_id"]

end ObjectRelay

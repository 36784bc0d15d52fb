import ObjectRelay.Calendar.Hour
import ObjectRelay.Message.Event
import ObjectRelay.Object.Uri
import ObjectRelay.Relay.Activity
import ObjectRelay.Text.Cut
import ObjectRelay.Text.Quoted
/-!
# The audit log

Every invocation that has messages leaves one object behind, with a line for each message
that says what became of it.  Its key names the account, the region, the hour and the
invocation.
-/
namespace ObjectRelay

structure InvocationContext where
  requestId : String
  functionArn : String
deriving DecidableEq, Repr

inductive ContextFault where
  | emptyRequestId
  | invalidArn (arn : String)
deriving DecidableEq, Repr

def ContextFault.message : ContextFault → String
  | emptyRequestId => "empty request id"
  | invalidArn arn => "invalid function arn " ++ quoted arn

/-- The account and the region that a function belongs to. -/
structure FunctionHome where
  account : String
  region : String
deriving DecidableEq, Repr

/-- The home of the invoked function, `arn:partition:service:region:account` and more. -/
def InvocationContext.home (context : InvocationContext) : Except ContextFault FunctionHome :=
  if context.requestId == "" then .error .emptyRequestId
  else match (piecesBy ':' context.functionArn.toList).map String.ofList with
    | "arn" :: _ :: _ :: region :: account :: _ =>
      if region == "" || account == "" then .error (.invalidArn context.functionArn)
      else .ok { account, region }
    | _ => .error (.invalidArn context.functionArn)

def withoutOuterSlashes (s : String) : String :=
  let isSlash (c : Char) : Bool := c == '/'
  String.ofList (((s.toList.dropWhile isSlash).reverse.dropWhile isSlash).reverse)

namespace Audit

def key (destination : ObjectUri) (home : FunctionHome) (requestId : String) (now : Int) : String :=
  let path := "AWSLogs/" ++ home.account ++ "/sqs/" ++ home.region ++ "/" ++
    (CalendarHour.ofEpochSeconds now).path ++ "/" ++ requestId
  let below := withoutOuterSlashes destination.key
  if below == "" then path else below ++ "/" ++ path

/-- The line of a message and its end. -/
def line (message : Message) (error? : Option MessageError) : List UInt8 :=
  Utf8.encode (message.auditJson (error?.map MessageError.message)).text ++ [lineEnd]

def body (outcomes : List (Message × Option MessageError)) : List UInt8 :=
  outcomes.flatMap fun (message, error?) => line message error?

def request (destination : ObjectUri) (key : String)
    (outcomes : List (Message × Option MessageError)) : PutRequest where
  bucket := destination.bucket
  key := key
  body := body outcomes
  contentType := some lineContentType

end Audit

end ObjectRelay

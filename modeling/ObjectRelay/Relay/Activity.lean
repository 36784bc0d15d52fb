import ObjectRelay.Object.Copy
import ObjectRelay.Relay
/-!
# What a relay does

A relay asks a store for things and writes a log.  Both are kept in one list, in the
order in which they happen.
-/
namespace ObjectRelay

inductive MessageError where
  | source (error : UriError)
  | copy (uri : String) (error : StorageError)
deriving DecidableEq, Repr

def MessageError.message : MessageError → String
  | source error => "invalid source: " ++ error.message
  | copy uri error => "failed to copy " ++ uri ++ ": " ++ error.message

inductive LogLine where
  | skipping (source : String) (reason : SkipReason)
  | copying (operation : CopyOperation)
  | failed (id : String) (error : MessageError)
  | processed (messages failures : Nat)
deriving DecidableEq, Repr

def LogLine.text : LogLine → String
  | skipping source reason => "DEBUG skipping " ++ source ++ ": " ++ reason.message
  | copying op => "DEBUG copying " ++ op.copySource ++ " to " ++ op.bucket ++ "/" ++ op.key
  | failed id error => "ERROR message " ++ id ++ " failed: " ++ error.message
  | processed messages failures =>
    "INFO processed " ++ toString messages ++ " messages, " ++ toString failures ++ " failed"

inductive Activity where
  | log (line : LogLine)
  | copy (request : CopyRequest)
  | put (request : PutRequest)

namespace Activity

def line? : Activity → Option LogLine
  | log line => some line
  | _ => none

def copy? : Activity → Option CopyRequest
  | copy request => some request
  | _ => none

def put? : Activity → Option PutRequest
  | put request => some request
  | _ => none

end Activity

end ObjectRelay

import ObjectRelay.Delivery.Endpoint
import ObjectRelay.Delivery.Settings
import ObjectRelay.Delivery.Status
import ObjectRelay.Text.Base64
/-!
# Delivering a batch

A batch is posted until it is taken, refused for good, or the attempts are used up; what came of the last attempt
is the result.  Attempts differ in nothing but what comes of them, so a request is built once.
-/
namespace ObjectRelay

inductive DeliveryError where
  | invalidEndpoint (endpoint : String) (fault : EndpointFault)
  | invalidGzipLevel (level : Nat)
  /-- The request could not be sent, or there was no answer. -/
  | request
  /-- The endpoint answered, but did not take the batch. -/
  | status (code : Nat) (reason : String)
deriving DecidableEq, Repr

def DeliveryError.message : DeliveryError → String
  | invalidEndpoint endpoint fault => "invalid endpoint " ++ quoted endpoint ++ ": " ++ fault.message
  | invalidGzipLevel level => "invalid gzip level " ++ toString level ++ ", expected 0 to 9"
  | request => "request failed"
  | status code reason => "unexpected status " ++ toString code ++ ": " ++ reason

/-- The media type of everything that is posted. -/
def lineContentType : String := "application/x-ndjson"

structure PostRequest where
  target : List UInt8
  contentType : String := lineContentType
  contentEncoding : Option String
  /-- The values of the authorization header, in order. -/
  authorization : List String
  /-- The batch, before it is compressed. -/
  body : List UInt8
deriving DecidableEq

/-- What comes of an attempt, as the HTTP library reports it.  The library follows redirects by itself, so what it
reports is what stands at their end. -/
inductive Reply where
  /-- There is an answer, with this status code. -/
  | status (code : Nat)
  /-- There is no answer, or the library gives up on the redirects. -/
  | lost
deriving DecidableEq, Repr

/-- What becomes of a batch: how it ended, the requests that were sent, and the waits
between them. -/
structure Delivery where
  result : Except DeliveryError Unit
  requests : List PostRequest := []
  waits : List Duration := []

structure Client where
  endpoint : Endpoint
  isCompressing : Bool
  authorization : Option String
  retry : RetryPolicy

namespace Client

/-- The client of checked settings; the level only matters if batches are compressed. -/
def ofSettings (s : DeliverySettings) : Except DeliveryError Client :=
  match Endpoint.parse s.endpoint with
  | .error fault => .error (.invalidEndpoint s.endpoint fault)
  | .ok endpoint =>
    let client : Client :=
      { endpoint, isCompressing := s.isCompressing, authorization := s.authorization, retry := s.retry }
    match s.isCompressing, s.gzipLevel with
    | true, some level =>
      if level ≤ DeliverySettings.maxGzipLevel then .ok client else .error (.invalidGzipLevel level)
    | _, _ => .ok client

def basicAuthorization? (user : UserInfo) : Option String := do
  let name ← Utf8.decode? (Percent.decode (Utf8.encodeChars user.name))
  let password := (Utf8.decode? (Percent.decode (Utf8.encodeChars user.password))).getD ""
  if user.name.isEmpty && user.password.isEmpty then none
  else some ("Basic " ++ Base64.encode (Utf8.encode (name ++ ":" ++ password)))

def request (client : Client) (contentType key : String) (batch : List UInt8) : PostRequest where
  target := client.endpoint.target contentType key
  contentEncoding := if client.isCompressing then some "gzip" else none
  authorization := (basicAuthorization? client.endpoint.user).toList ++ client.authorization.toList
  body := batch

/-- Whether a header may have the value: it holds no control but the tab. -/
def isHeaderValue (value : String) : Bool :=
  value.toList.all fun c => c == '\t' || (' ' ≤ c && c != '\x7f')

def canSend (client : Client) : Bool := client.authorization.all isHeaderValue

/-- How many attempts there are: at least one. -/
def attempts (client : Client) : Nat := max 1 client.retry.maxAttempts.toNat

/-- What an attempt means: it is over with a result, or another one may do better. -/
inductive Verdict where
  | over (result : Except DeliveryError Unit)
  | again (error : DeliveryError)

def verdict : Reply → Verdict
  | .lost => .again .request
  | .status code =>
    if isAccepted code then .over (.ok ())
    else
      let error : DeliveryError := .status code (statusReason code)
      if isTemporary code then .again error else .over (.error error)

/-- Posts from an attempt on, with `more` attempts after it. -/
def postFrom (client : Client) (request : PostRequest) (replies : Nat → Reply) :
    (more attempt : Nat) → Delivery
  | more, attempt =>
    let sent := if client.canSend then [request] else []
    let reply := if client.canSend then replies (attempt - 1) else .lost
    match verdict reply, more with
    | .over result, _ => { result, requests := sent }
    | .again error, 0 => { result := .error error, requests := sent }
    | .again _, more + 1 =>
      let later := postFrom client request replies more (attempt + 1)
      { later with
        requests := sent ++ later.requests
        waits := client.retry.backoff attempt.toUInt32 :: later.waits }

/-- Posts a batch; attempt `n`, counted from 0, meets `replies n`. -/
def post (client : Client) (contentType key : String) (batch : List UInt8) (replies : Nat → Reply) :
    Delivery :=
  postFrom client (client.request contentType key batch) replies (client.attempts - 1) 1

end Client

end ObjectRelay

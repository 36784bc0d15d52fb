import ObjectRelay.Batch.Turns
import ObjectRelay.Record.Decode
import ObjectRelay.Storage.Store
/-!
# An endpoint as a store

To copy an object into an endpoint is to read it, decode its records and deliver them in
batches.  The destination key goes along with every batch; the bucket does not matter.
Nothing is read for a request that is not valid, and nothing is delivered of an object
without content or of one that cannot be decoded.
-/
namespace ObjectRelay

structure StoredObject where
  body : List UInt8
  contentType : Option String := none
  contentEncoding : Option String := none
  /-- How long the object is said to be. -/
  contentLength : Option Int := none

def StoredObject.hasContent (object : StoredObject) : Bool :=
  object.contentLength != some 0 && !object.body.isEmpty

namespace CopyRequest

def fault? (request : CopyRequest) : Option String :=
  let op := request.operation
  let (bucket, key) := sourceParts op.copySource
  if op.bucket == "" then some "missing bucket"
  else if op.key == "" then some "missing key"
  else if bucket == "" || key == "" then some ("invalid copy source " ++ quoted op.copySource)
  else none

/-- A field of the copied object: a request that replaces overrides what it names. -/
def overriding {α : Type} (request : CopyRequest) (own object : Option α) : Option α :=
  match request.operation.metadataDirective with
  | some .replace => own <|> object
  | _ => object

def contentType (request : CopyRequest) (object : StoredObject) : Option String :=
  request.overriding request.operation.contentType object.contentType

def contentEncoding (request : CopyRequest) (object : StoredObject) : Option String :=
  request.overriding request.operation.contentEncoding object.contentEncoding

end CopyRequest

structure EndpointStore where
  client : Client
  limits : BatchLimits
  get : GetRequest → Except StorageError StoredObject
  /-- What is met by an attempt to post a batch in a delivery, all three counted from 0. -/
  reply : (delivery batch attempt : Nat) → Reply

structure Traffic where
  pool : BufferPool := {}
  gets : List GetRequest := []
  posts : List PostRequest := []
  deliveries : Nat := 0

namespace EndpointStore

def postBatch (store : EndpointStore) (contentType key : String) (delivery batch : Nat)
    (bytes : List UInt8) : Delivery :=
  store.client.post contentType key bytes (store.reply delivery batch)

def runOver (store : EndpointStore) (isCancelled : Bool) (contentType key : String)
    (input : Decoded) (traffic : Traffic) : BatchRun :=
  let start := BatchRun.start store.limits traffic.pool input
  (if isCancelled then start.cancel else start).finish {
    handle batch bytes :=
      { result := (store.postBatch contentType key traffic.deliveries batch bytes).result }
    isPrompt := false }

def deliver (store : EndpointStore) (isCancelled : Bool) (body : List UInt8)
    (contentEncoding contentType : Option String) (key : String) (traffic : Traffic) :
    Except StorageError Unit × Traffic :=
  match Decoding.resolve contentEncoding contentType with
  | .error error => (.error (.decode error), traffic)
  | .ok decoding =>
    let contentType := contentType.getD ""
    let run := store.runOver isCancelled contentType key (decoding.decode body) traffic
    let posts := run.handed.zipIdx.flatMap fun (bytes, batch) =>
      (store.postBatch contentType key traffic.deliveries batch bytes).requests
    (run.result.mapError .batch,
      { traffic with
        pool := run.queue.pool
        posts := traffic.posts ++ posts
        deliveries := traffic.deliveries + 1 })

def copy (store : EndpointStore) (isCancelled : Bool) (request : CopyRequest) (traffic : Traffic) :
    Except StorageError Unit × Traffic :=
  match request.fault? with
  | some reason => (.error (.invalidRequest reason), traffic)
  | none =>
    let traffic := { traffic with gets := traffic.gets ++ [request.read] }
    match store.get request.read with
    | .error error => (.error error, traffic)
    | .ok object =>
      if object.hasContent then
        store.deliver isCancelled object.body (request.contentEncoding object)
          (request.contentType object) request.operation.key traffic
      else (.ok (), traffic)

/-- Delivers lines of JSON, or of what the request says. -/
def put (store : EndpointStore) (isCancelled : Bool) (request : PutRequest) (traffic : Traffic) :
    Except StorageError Unit × Traffic :=
  if request.key == "" then (.error (.invalidRequest "missing key"), traffic)
  else if request.body.isEmpty then (.ok (), traffic)
  else
    store.deliver isCancelled request.body none (some (request.contentType.getD lineContentType))
      request.key traffic

/-- What a relay sees of it. -/
def toStore (store : EndpointStore) : Store Traffic where
  copy isCancelled request traffic :=
    let (result, traffic) := store.copy isCancelled request traffic
    ({ result }, traffic)
  put isCancelled request traffic :=
    let (result, traffic) := store.put isCancelled request traffic
    ({ result }, traffic)

end EndpointStore

end ObjectRelay

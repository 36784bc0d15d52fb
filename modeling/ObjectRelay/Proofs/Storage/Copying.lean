import ObjectRelay.Proofs.Delivery.Parameters
import ObjectRelay.Proofs.Delivery.Posting
import ObjectRelay.Proofs.Object.Address
import ObjectRelay.Proofs.Run.Turns
import ObjectRelay.Storage.Endpoint
/-!
# Copying into an endpoint

A copy reads one object and posts what it decodes to.  Each check comes before what it guards: a request that is not
valid reads nothing, and an object that cannot be decoded posts nothing.  Otherwise the endpoint takes exactly the
batches of the records when the copy ends well, and each request names the content type that the object was decoded
by and the key of the copy (`copy_delivers`).
-/
namespace ObjectRelay

/-! ## Requests -/

namespace CopyRequest

/-- Whether the request names a destination, and an object of a bucket as its source. -/
structure Names (request : CopyRequest) (bucket key : String) : Prop where
  destination : request.operation.bucket ≠ "" ∧ request.operation.key ≠ ""
  source : request.operation.copySource = bucket ++ "/" ++ key
  bucket_ne : bucket ≠ "" ∧ '/' ∉ bucket.toList
  key_ne : key ≠ ""

variable {request : CopyRequest} {bucket key : String}

/-- A copy source with two parts is what they were cut from. -/
theorem eq_of_sourceParts {copySource : String} (h : sourceParts copySource = (bucket, key)) (hkey : key ≠ "") :
    copySource = bucket ++ "/" ++ key ∧ '/' ∉ bucket.toList := by
  obtain ⟨hbucket, hrest⟩ := Prod.mk.inj h
  have hparts := List.takeWhile_append_dropWhile (p := (· != '/')) (l := copySource.toList)
  have hdrop : copySource.toList.drop (copySource.toList.takeWhile (· != '/')).length =
      copySource.toList.dropWhile (· != '/') := by
    have hleft : (copySource.toList.takeWhile (· != '/') ++ copySource.toList.dropWhile (· != '/')).drop
        (copySource.toList.takeWhile (· != '/')).length = copySource.toList.dropWhile (· != '/') := List.drop_left
    rwa [hparts] at hleft
  rw [hdrop] at hrest
  have hslash : '/' ∉ bucket.toList := fun hmem => by
    rw [← hbucket, String.toList_ofList] at hmem
    have hall := List.all_eq_true.1 (List.all_takeWhile (p := (· != '/')) (l := copySource.toList)) _ hmem
    simp at hall
  refine ⟨?_, hslash⟩
  cases htail : copySource.toList.dropWhile (· != '/') with
  | nil =>
    rw [htail] at hrest
    exact absurd hrest.symm hkey
  | cons c rest =>
    have hc : c = '/' := by
      have hhead := List.head?_dropWhile_not (· != '/') copySource.toList
      simpa [htail] using hhead
    rw [htail] at hrest hparts
    rw [← String.ofList_toList (s := copySource), ← hparts, ← hbucket, ← hrest, hc]
    simp [String.append_assoc]

/-- **A request has no fault if it names both, and only then.** -/
theorem fault?_eq_none_iff : request.fault? = none ↔ ∃ bucket key, request.Names bucket key := by
  constructor
  · intro h
    obtain ⟨bucket, key, hparts⟩ : ∃ bucket key, sourceParts request.operation.copySource = (bucket, key) :=
      ⟨_, _, rfl⟩
    simp only [fault?, hparts] at h
    split at h
    · cases h
    rename_i hbucket
    split at h
    · cases h
    rename_i hkey
    split at h
    · cases h
    rename_i hsource
    rw [Bool.or_eq_true, not_or] at hsource
    simp only [beq_iff_eq] at hbucket hkey hsource
    obtain ⟨hcopySource, hslash⟩ := eq_of_sourceParts hparts hsource.2
    exact ⟨bucket, key, ⟨hbucket, hkey⟩, hcopySource, ⟨hsource.1, hslash⟩, hsource.2⟩
  · rintro ⟨bucket, key, h⟩
    simp [fault?, h.source, sourceParts_append key h.bucket_ne.2, h.destination.1, h.destination.2, h.bucket_ne.1,
      h.key_ne]

theorem read_eq (h : request.Names bucket key) : request.read = ⟨bucket, key, request.conditions⟩ := by
  rw [read, h.source, sourceParts_append key h.bucket_ne.2]

theorem overriding_eq {α : Type} (request : CopyRequest) (own object : Option α) :
    request.overriding own object =
      if request.operation.metadataDirective = some .replace ∧ own.isSome = true then own else object := by
  unfold overriding
  split
  · rename_i hreplace
    cases own <;> simp [hreplace]
  · rename_i hkeep
    rw [if_neg fun h => hkeep h.1]

end CopyRequest

/-! ## Deliveries -/

namespace EndpointStore

open BatchRun (Heeded start)

/-- What the batches of a delivery are handed to. -/
def handler (store : EndpointStore) (contentType key : String) (delivery : Nat) : BatchHandler where
  handle batch bytes := { result := (store.postBatch contentType key delivery batch bytes).result }
  isPrompt := false

/-- What is posted of the batches that are handed on, each request with the reply that it meets. -/
def exchanges (store : EndpointStore) (contentType key : String) (delivery : Nat) (handed : List (List UInt8)) :
    List (PostRequest × Reply) :=
  handed.zipIdx.flatMap fun (bytes, batch) =>
    (store.postBatch contentType key delivery batch bytes).exchanges (store.reply delivery batch)

/-- **What comes of delivering what an object decodes to**: a result, and requests that have met replies. -/
structure Delivered (store : EndpointStore) (contentType key : String) (delivery : Nat) (input : Decoded)
    (result : Except StorageError Unit) (exchanges : List (PostRequest × Reply)) : Prop where
  /-- It ends well exactly if the records can all be delivered and the endpoint takes every batch. -/
  ok_iff : result = .ok () ↔ store.limits.CanDeliver input ∧ ∀ (batch : Nat) bytes,
    (store.limits.batches input.records)[batch]? = some bytes →
      (store.postBatch contentType key delivery batch bytes).result = .ok ()
  /-- Then the endpoint has taken the batches of the records that are not too large, and nothing else. -/
  taken : result = .ok () → input.error = none ∧
    ((exchanges.filter fun e => e.2.isTaken).map fun e => e.1.body) =
      (groups store.limits.maxBatchSize (store.limits.keepable input.records)).map framed
  /-- Whatever comes of it, every request is for a batch, and names the content type and the key. -/
  posted : ∀ e ∈ exchanges, e.1.body ∈ store.limits.batches input.records ∧
    parameters (queryOf e.1.target) = parameters store.client.endpoint.query ++
      [(Utf8.encode "content-type", Utf8.encode contentType), (Utf8.encode "key", Utf8.encode key)]

variable {store : EndpointStore} {contentType key : String} {delivery : Nat} {input : Decoded} {traffic : Traffic}

theorem map_fst_exchanges (handed : List (List UInt8)) :
    (store.exchanges contentType key delivery handed).map Prod.fst = handed.zipIdx.flatMap fun (bytes, batch) =>
      (store.postBatch contentType key delivery batch bytes).requests := by
  unfold exchanges Delivery.exchanges
  rw [List.map_flatMap]
  refine List.flatMap_congr fun p _ => ?_
  rw [List.map_map]
  exact List.zipIdx_map_fst 0 _

/-- The endpoint takes the batches whose deliveries end well. -/
theorem taken_exchanges (handed : List (List UInt8)) :
    (((store.exchanges contentType key delivery handed).filter fun e => e.2.isTaken).map fun e => e.1.body) =
      handed.zipIdx.flatMap fun (bytes, batch) =>
        if (store.postBatch contentType key delivery batch bytes).result.isOk then [bytes] else [] := by
  unfold exchanges
  rw [List.filter_flatMap, List.map_flatMap]
  refine List.flatMap_congr fun p _ => ?_
  have htaken := congrArg (List.map PostRequest.body)
    (Client.taken_post contentType key p.1 (store.reply delivery p.2) store.client)
  rw [List.map_map] at htaken
  refine htaken.trans ?_
  rw [apply_ite (List.map PostRequest.body)]
  rfl

/-- **What a run delivers, whatever the order of its steps.** -/
theorem delivered_of_heeded (hpath : (0x3F : UInt8) ∉ store.client.endpoint.path) {pool : BufferPool}
    (hpool : pool.IsClean) {s : BatchRun}
    (h : Heeded (store.handler contentType key delivery) (start store.limits pool input) s) (hover : s.isOver = true) :
    store.Delivered contentType key delivery input (s.result.mapError .batch)
      (store.exchanges contentType key delivery s.handed) := by
  obtain ⟨hiff, hhanded⟩ := h.result_ok_iff hpool hover fun _ _ => rfl
  have hresult : s.result.mapError StorageError.batch = .ok () ↔ s.result = .ok () := by
    cases s.result with
    | error error => exact ⟨nofun, nofun⟩
    | ok u => exact ⟨fun _ => rfl, fun _ => rfl⟩
  refine ⟨hresult.trans hiff, fun hok => ?_, fun e he => ?_⟩
  · have hok := hresult.1 hok
    obtain ⟨hcan, hposted⟩ := hiff.1 hok
    refine ⟨hcan.1, ?_⟩
    have hall : ∀ p ∈ s.handed.zipIdx,
        (if (store.postBatch contentType key delivery p.2 p.1).result.isOk then [p.1] else []) = [p.1] := by
      rintro ⟨bytes, batch⟩ hp
      rw [hhanded hok, List.mem_zipIdx_iff_getElem?] at hp
      have hbatch : (store.postBatch contentType key delivery batch bytes).result = .ok () := hposted batch bytes hp
      rw [hbatch]
      rfl
    rw [taken_exchanges, List.flatMap_congr hall, ← List.map_eq_flatMap, List.zipIdx_map_fst, hhanded hok,
      BatchLimits.batches, hcan.kept_eq]
  · obtain ⟨⟨bytes, batch⟩, hp, he⟩ := List.mem_flatMap.1 he
    have hrequest : e.1 = store.client.request contentType key bytes := by
      obtain ⟨⟨r, attempt⟩, hr, rfl⟩ := List.mem_map.1 he
      exact Client.eq_of_mem_post contentType key bytes _ (List.fst_mem_of_mem_zipIdx hr)
    have hfirst := BatchRun.Reached.handed_prefix (h.reached hpool)
    rw [hrequest]
    exact ⟨hfirst.subset (List.fst_mem_of_mem_zipIdx hp), Endpoint.parameters_target hpath contentType key⟩

/-- A delivery is one of the runs. -/
theorem delivered_of_deliver {body : List UInt8} {contentEncoding contentType : Option String}
    {answer : Except StorageError Unit × Traffic}
    (h : answer = store.deliver false body contentEncoding contentType key traffic)
    (hpath : (0x3F : UInt8) ∉ store.client.endpoint.path) (hpool : traffic.pool.IsClean) {decoding : Decoding}
    (hresolve : Decoding.resolve contentEncoding contentType = .ok decoding) :
    answer.2.pool.IsClean ∧ answer.2.gets = traffic.gets ∧ ∃ handed,
      answer.2.posts = traffic.posts ++
        (store.exchanges (contentType.getD "") key traffic.deliveries handed).map Prod.fst ∧
      store.Delivered (contentType.getD "") key traffic.deliveries (decoding.decode body) answer.1
        (store.exchanges (contentType.getD "") key traffic.deliveries handed) := by
  obtain ⟨hheeded, hover⟩ := BatchRun.heeded_finish (store.handler (contentType.getD "") key traffic.deliveries)
    store.limits hpool (decoding.decode body)
  have hclean := (hheeded.reached hpool).setup.isClean
  have hdelivered := delivered_of_heeded hpath hpool hheeded hover
  rw [deliver, hresolve] at h
  rw [h]
  exact ⟨hclean, rfl, _, congrArg (traffic.posts ++ ·) (map_fst_exchanges _).symm, hdelivered⟩

theorem copy_of_not_names {request : CopyRequest} (h : ¬ ∃ bucket key, request.Names bucket key) :
    (∃ reason, (store.copy false request traffic).1 = .error (.invalidRequest reason)) ∧
      (store.copy false request traffic).2 = traffic := by
  rw [← CopyRequest.fault?_eq_none_iff] at h
  obtain ⟨reason, hfault⟩ := Option.ne_none_iff_exists'.1 h
  rw [copy, hfault]
  exact ⟨⟨reason, rfl⟩, rfl⟩

theorem hasContent_iff (object : StoredObject) :
    object.hasContent = true ↔ ¬ (object.contentLength = some 0 ∨ object.body = []) := by
  simp [StoredObject.hasContent]

/-- What is done about a request that names a destination and a source. -/
theorem copy_of_names {request : CopyRequest} {bucket key : String} (h : request.Names bucket key) :
    store.copy false request traffic =
      let read := { traffic with gets := traffic.gets ++ [⟨bucket, key, request.conditions⟩] };
      match store.get ⟨bucket, key, request.conditions⟩ with
      | .error error => (.error error, read)
      | .ok object =>
        if object.contentLength = some 0 ∨ object.body = [] then (.ok (), read)
        else store.deliver false object.body (request.contentEncoding object) (request.contentType object)
          request.operation.key read := by
  rw [copy, CopyRequest.fault?_eq_none_iff.2 ⟨bucket, key, h⟩, CopyRequest.read_eq h]
  cases store.get ⟨bucket, key, request.conditions⟩ with
  | error error => rfl
  | ok object =>
    by_cases hempty : object.contentLength = some 0 ∨ object.body = []
    · simp only [if_pos hempty, if_neg fun hcontent => (hasContent_iff object).1 hcontent hempty]
    · simp only [if_neg hempty, if_pos ((hasContent_iff object).2 hempty)]

/-- **A copy into an endpoint, from the request to what the endpoint takes.**  A request that does not name a
destination and a source is refused, and nothing is read or posted.  Any other request reads its source once, and
fails as the reading does.  Nothing is posted of an object without content, or of one that is not decoded under its
content encoding and content type, each of which a request that replaces can override.  All other objects are
delivered, and so they are by every other order in which the steps of the run might come. -/
theorem copy_delivers (settings : DeliverySettings) (store : EndpointStore)
    (hclient : Client.ofSettings settings = .ok store.client) (request : CopyRequest) (traffic : Traffic)
    (hpool : traffic.pool.IsClean) :
    let copied := store.copy false request traffic;
    ((¬ ∃ bucket key, request.Names bucket key) →
      (∃ reason, copied.1 = .error (.invalidRequest reason)) ∧ copied.2 = traffic) ∧
    ∀ bucket key, request.Names bucket key →
      copied.2.pool.IsClean ∧ copied.2.gets = traffic.gets ++ [⟨bucket, key, request.conditions⟩] ∧
      match store.get ⟨bucket, key, request.conditions⟩ with
      | .error error => copied.1 = .error error ∧ copied.2.posts = traffic.posts
      | .ok object =>
        if object.contentLength = some 0 ∨ object.body = [] then
          copied.1 = .ok () ∧ copied.2.posts = traffic.posts
        else
          let op := request.operation;
          let contentType := if op.metadataDirective = some .replace ∧ op.contentType.isSome = true then
            op.contentType else object.contentType;
          let contentEncoding := if op.metadataDirective = some .replace ∧ op.contentEncoding.isSome = true then
            op.contentEncoding else object.contentEncoding;
          match Decoding.resolve contentEncoding contentType with
          | .error error => copied.1 = .error (.decode error) ∧ copied.2.posts = traffic.posts
          | .ok decoding =>
            (∃ handed,
              copied.2.posts = traffic.posts ++
                (store.exchanges (contentType.getD "") op.key traffic.deliveries handed).map Prod.fst ∧
              store.Delivered (contentType.getD "") op.key traffic.deliveries (decoding.decode object.body) copied.1
                (store.exchanges (contentType.getD "") op.key traffic.deliveries handed)) ∧
            ∀ s, Heeded (store.handler (contentType.getD "") op.key traffic.deliveries)
                (start store.limits traffic.pool (decoding.decode object.body)) s → s.isOver = true →
              store.Delivered (contentType.getD "") op.key traffic.deliveries (decoding.decode object.body)
                (s.result.mapError .batch)
                (store.exchanges (contentType.getD "") op.key traffic.deliveries s.handed) := by
  have hpath := Client.notMem_path hclient
  intro copied
  refine ⟨copy_of_not_names, fun bucket key hnames => ?_⟩
  have heq : copied = store.copy false request traffic := rfl
  rw [copy_of_names hnames] at heq
  clear_value copied
  cases hget : store.get ⟨bucket, key, request.conditions⟩ with
  | error error =>
    rw [hget] at heq
    rw [heq]
    exact ⟨hpool, rfl, rfl, rfl⟩
  | ok object =>
    simp only [hget] at heq ⊢
    split at heq
    · rename_i hempty
      rw [heq, if_pos hempty]
      exact ⟨hpool, rfl, rfl, rfl⟩
    rename_i hcontent
    rw [if_neg hcontent]
    simp only [CopyRequest.contentEncoding, CopyRequest.contentType, CopyRequest.overriding_eq] at heq
    split
    · rename_i error hresolve
      rw [deliver, hresolve] at heq
      rw [heq]
      exact ⟨hpool, rfl, rfl, rfl⟩
    · rename_i decoding hresolve
      obtain ⟨hclean, hgets, hdelivered⟩ := delivered_of_deliver heq hpath hpool hresolve
      exact ⟨hclean, hgets, hdelivered, fun s hs hover => delivered_of_heeded hpath hpool hs hover⟩

/-- An endpoint with a query of its own. -/
def queriedEndpoint : DeliverySettings := { endpoint := "https://h/in?t=1" }

/-- A store whose endpoint is busy at first, and whose objects hold three records, one of them too large to keep. -/
def busyStore : EndpointStore where
  client :=
    { endpoint :=
        { scheme := "https", user := {}, authority := "h", path := Utf8.encode "/in", query := Utf8.encode "t=1" }
      isCompressing := true
      authorization := none
      retry := {} }
  limits := { maxRecordSize := 7, maxBatchSize := 10, maxConcurrency := 2 }
  get _ := .ok
    { body := Utf8.encode "\x7b\"a\":1\x7d\n\x7b\"a\":222\x7d\n\x7b\"a\":3\x7d\n"
      contentType := some "binary/octet-stream" }
  reply _ batch attempt := if batch = 0 ∧ attempt = 0 then .status 503 else .status 202

/-- A copy that overrides the content type, under a key that a form has to spell. -/
def overridingCopy : CopyRequest where
  operation :=
    { bucket := "out"
      copySource := "in/a"
      key := "a&b c"
      contentType := some "application/x-ndjson"
      metadataDirective := some .replace }

theorem copy_delivers_busy : ∃ handed,
    (busyStore.copy false overridingCopy {}).2.posts =
      (busyStore.exchanges "application/x-ndjson" "a&b c" 0 handed).map Prod.fst ∧
    (((busyStore.exchanges "application/x-ndjson" "a&b c" 0 handed).filter fun e => e.2.isTaken).map
      fun e => e.1.body) = [Utf8.encode "\x7b\"a\":1\x7d\n", Utf8.encode "\x7b\"a\":3\x7d\n"] ∧
    ∀ e ∈ busyStore.exchanges "application/x-ndjson" "a&b c" 0 handed, parameters (queryOf e.1.target) =
      [(Utf8.encode "t", Utf8.encode "1"), (Utf8.encode "content-type", Utf8.encode "application/x-ndjson"),
        (Utf8.encode "key", Utf8.encode "a&b c")] := by
  have hparse : Endpoint.parse "https://h/in?t=1" = .ok busyStore.client.endpoint := by decide +kernel
  have hclient : Client.ofSettings queriedEndpoint = .ok busyStore.client := by
    rw [Client.ofSettings, queriedEndpoint, hparse]
    rfl
  have hnames : overridingCopy.Names "in" "a" := ⟨by decide, by decide, by decide, by decide⟩
  obtain ⟨-, hcopy⟩ := copy_delivers queriedEndpoint busyStore hclient overridingCopy {} BufferPool.isClean_empty
  obtain ⟨-, -, hobject⟩ := hcopy "in" "a" hnames
  have hresolve : Decoding.resolve none (some "application/x-ndjson") = .ok ⟨.identity, .json⟩ := by decide +kernel
  have hok : (busyStore.copy false overridingCopy {}).1 = .ok () := by decide +kernel
  split at hobject
  · rename_i hget
    cases hget
  rename_i object hget
  obtain rfl := Except.ok.inj hget
  rw [if_neg (by decide)] at hobject
  dsimp only [overridingCopy] at hobject
  rw [if_neg (by decide), if_pos (by decide), hresolve] at hobject
  obtain ⟨⟨handed, hposts, hdelivered⟩, -⟩ := hobject
  refine ⟨handed, hposts, (hdelivered.taken hok).2.trans (by decide +kernel), fun e he => ?_⟩
  exact (hdelivered.posted e he).2.trans (by decide +kernel)

end EndpointStore

end ObjectRelay

import SharedIntegration.Adapters
import SharedIntegration.Auth
import SharedIntegration.Library.Programs
import SharedIntegration.Positions
import SharedIntegration.StoreCalls

/-!
# Routes of the job-oriented API

The handlers of `install_v1_routes` behind the middleware, each as a program of the calls it makes on
the stores, the dispatcher and the adapters in the order of the source. The handlers of the routes that
authenticate by themselves are the identity exchange and the session revocation.
-/

namespace SharedIntegration

open FindingLifecycle

/-- The text of a queue. -/
def AdapterQueue.value : AdapterQueue → String
  | fast => "fast"
  | analysis => "analysis"
  | sandbox => "sandbox"

/-- The products of an `IntegrationGateway`. -/
abbrev Products := List (FindingSource × JSONSubprocessAdapter)

/-- `gateway._products.get(source)`. -/
def Products.get? (products : Products) (source : FindingSource) : Option JSONSubprocessAdapter :=
  (products.find? fun entry => entry.1 = source).map Prod.snd

/-! ### Calls -/

/-- A call of a handler: on one of the stores, on the dispatcher, or on an adapter. -/
inductive ApiCall
  | store (call : StoreCall)
  | ping
  | submit (job : JobRecord) (queue : AdapterQueue)
  | cancel (job : JobRecord)
  | ready
  | available (source : FindingSource)

/-- What a call returns or raises. -/
def ApiCall.Answer : ApiCall → Type
  | .store _ => StoreResult
  | .submit _ _ => Except String String
  | .cancel _ => Except String Unit
  | .ping | .ready | .available _ => Bool

/-- What a handler answers: rows of the stores, or anything else. -/
inductive ApiResponse
  | job (statusCode : ℕ) (record : JobRecord) (headers : List (String × String))
  | jobs (records : List JobRecord)
  | events (stream : EventStream)
  | findings (records : List FindingLifecycleRecord) (nextCursor : Option String)
  | finding (record : FindingLifecycleRecord)
  | document (answer : JsonAnswer)

/-- A handler. -/
abbrev Handler := Program ApiCall ApiCall.Answer ApiResponse

/-! ### Dictionaries -/

/-- `JobRecord.to_dict`. -/
def JobRecord.toDict (core : CoreLibrary) (record : JobRecord) : Document :=
  .obj [("id", .str record.id), ("tenant_id", .str record.tenantId), ("source", .str (core.sourceValue record.source)),
    ("status", .str record.status.value), ("created_at", .str (PyTime.isoformat record.createdAt)),
    ("updated_at", .str (PyTime.isoformat record.updatedAt)), ("attempt", .int record.attempt),
    ("cancel_requested", .bool record.cancelRequested), ("result_count", .int record.resultCount),
    ("error", match nonEmpty record.errorCode with
      | some code => .obj [("code", .str code), ("message", nullable record.errorMessage)]
      | none => .null)]

/-- `FindingLifecycleRecord.to_dict`: the dictionary of the finding with the columns of its lifecycle. -/
def FindingLifecycle.FindingLifecycleRecord.toDict (core : CoreLibrary) (record : FindingLifecycleRecord) : Document :=
  match core.toDict record.finding with
  | .obj entries => .obj (([("fingerprint", .str record.fingerprint), ("status", .str record.status.value),
      ("first_seen", .str (PyTime.isoformat record.firstSeen)),
      ("last_seen", .str (PyTime.isoformat record.lastSeen)), ("occurrences", .int record.occurrences),
      ("job_id", nullable record.jobId), ("assigned_to", nullable record.assignedTo)] :
        List (String × Document)).foldl (fun entries column => Json.setEntry entries column.1 column.2) entries)
  | other => other

/-- `AdapterCapabilities.to_dict`. -/
def JSONSubprocessAdapter.capabilities (core : CoreLibrary) (adapter : JSONSubprocessAdapter) : Document :=
  .obj [("source", .str (core.sourceValue adapter.source)), ("product_id", .str adapter.productId),
    ("version", .str adapter.version), ("queue", .str adapter.queue.value),
    ("timeout_seconds", .float (.rational adapter.timeoutSeconds)), ("max_concurrency", .int adapter.maxConcurrency),
    ("max_input_bytes", .int adapter.maxInputBytes), ("max_output_bytes", .int adapter.maxOutputBytes)]

/-- `JSONSubprocessAdapter.health`, whose only observation is whether the command line is there. -/
def JSONSubprocessAdapter.health (adapter : JSONSubprocessAdapter) (available : Bool) : Document :=
  .obj [("status", .str (if available then "ok" else "degraded")), ("source", .str adapter.productId),
    ("available", .bool available), ("queue", .str adapter.queue.value)]

/-- The response that the server sends for an answer of a handler. -/
def ApiResponse.answer (core : CoreLibrary) : ApiResponse → JsonAnswer
  | .job statusCode record headers => ⟨statusCode, record.toDict core, headers⟩
  | .jobs records => ⟨200, .obj [("count", .int records.length), ("jobs", .arr (records.map (JobRecord.toDict core)))], []⟩
  | .events _ => ⟨200, .null, [("Cache-Control", "no-cache, no-transform")]⟩
  | .findings records nextCursor => ⟨200, .obj [("count", .int records.length),
      ("items", .arr (records.map (FindingLifecycleRecord.toDict core))), ("next_cursor", nullable nextCursor)], []⟩
  | .finding record => ⟨200, record.toDict core, []⟩
  | .document answer => answer

namespace ApiV1

/-- The exception handler of the server. -/
def serverError : ApiResponse := .document Exchange.serverError

/-- `_error` with a job that may be tried again. -/
def dispatchFailed (requestId jobId : String) : ApiResponse :=
  .document ⟨503, .obj [("error", .obj ([("code", .str "DISPATCH_FAILED"),
    ("message", .str "The scan could not be queued"), ("retryable", .bool true)] ++
    (if requestId = "" then [] else [("request_id", .str requestId)]) ++
    if jobId = "" then [] else [("job_id", .str jobId)]))], []⟩

/-- `_error` about a job that is not there. -/
def jobNotFound (requestId jobId : String) : ApiResponse :=
  .document (jobError 404 "JOB_NOT_FOUND" "Scan job not found" requestId jobId)

variable (core : CoreLibrary) (decimal : Char → Option ℕ) (products : Products) (tenantId requestId : String)

/-- The `except` clause of `create_scan`. -/
def failDispatch (jobId message : String) : Handler :=
  .call (.store (.jobs (.transition ⟨tenantId, jobId⟩ .failed none (some "DISPATCH_FAILED") (some message)))) fun
    | StoreResult.jobs (.record failed) => .done (dispatchFailed requestId failed.id)
    | _ => .done serverError

/-- `create_scan` behind the recording of its dispatch. -/
def reload (jobId : String) : Handler :=
  .call (.store (.jobs (.get ⟨tenantId, jobId⟩))) fun
    | StoreResult.jobs (.optional (some job)) => .done (.job 202 job [("Location", "/v1/scans/" ++ job.id)])
    | _ => failDispatch tenantId requestId jobId "scan job disappeared"

/-- `create_scan` for a new job. -/
def dispatchScan (job : JobRecord) (queue : AdapterQueue) : Handler :=
  .call (.submit job queue) fun
    | Except.ok dispatchId =>
      .call (.store (.jobs (.setDispatchId ⟨tenantId, job.id⟩ dispatchId))) fun _ => reload tenantId requestId job.id
    | Except.error message => failDispatch tenantId requestId job.id message

/-- `create_scan`. -/
def createScan (source : FindingSource) (payload : Document) (idempotencyKey : Option String) : Handler :=
  if ∃ text ∈ idempotencyKey, ¬ (1 ≤ text.length ∧ text.length ≤ 128) then
    .done (.document (errorAnswer 400 "INVALID_IDEMPOTENCY_KEY" "Idempotency-Key must contain 1 to 128 characters"
      requestId false []))
  else match products.get? source with
    | none => .done (.document (errorAnswer 404 "UNKNOWN_SOURCE"
        ("No adapter registered for " ++ core.sourceValue source) requestId false []))
    | some adapter =>
      .call (.store (.jobs (.create tenantId source payload idempotencyKey))) fun
        | StoreResult.jobs (.created job true) => dispatchScan tenantId requestId job adapter.queue
        | StoreResult.jobs (.created job false) => .done (.job 200 job [("Location", "/v1/scans/" ++ job.id)])
        | _ => .done serverError

/-- `list_scans`. -/
def listScans (status : Option JobStatus) (source : Option FindingSource) (limit : ℕ) : Handler :=
  .call (.store (.jobs (.listJobs tenantId status source limit))) fun
    | StoreResult.jobs (.records jobs) => .done (.jobs jobs)
    | _ => .done serverError

/-- `get_scan`. -/
def getScan (jobId : String) : Handler :=
  .call (.store (.jobs (.get ⟨tenantId, jobId⟩))) fun
    | StoreResult.jobs (.optional (some job)) => .done (.job 200 job [])
    | StoreResult.jobs (.optional none) => .done (jobNotFound requestId jobId)
    | _ => .done serverError

/-- `cancel_scan`; the dispatcher is asked with the record from before. -/
def cancelScan (jobId : String) : Handler :=
  .call (.store (.jobs (.get ⟨tenantId, jobId⟩))) fun
    | StoreResult.jobs (.optional (some current)) =>
      .call (.store (.jobs (.requestCancel ⟨tenantId, jobId⟩))) fun
        | StoreResult.jobs (.record job) =>
          .call (.cancel current) fun
            | Except.ok () => .done (.job 200 job [])
            | Except.error _ => .done serverError
        | _ => .done serverError
    | StoreResult.jobs (.optional none) => .done (jobNotFound requestId jobId)
    | _ => .done serverError

/-- `scan_events` up to its stream. -/
def scanEvents (jobId : String) (lastEventId : Option String) : Handler :=
  .call (.store (.jobs (.get ⟨tenantId, jobId⟩))) fun
    | StoreResult.jobs (.optional (some _)) =>
      match eventPosition decimal lastEventId with
      | none => .done (.document
          (jobError 400 "INVALID_EVENT_ID" "Last-Event-ID must be an integer" requestId jobId))
      | some after => .done (.events (.opened ⟨tenantId, jobId⟩ after))
    | StoreResult.jobs (.optional none) => .done (jobNotFound requestId jobId)
    | _ => .done serverError

/-- `list_findings` with a registry that has `list_page`. -/
def listFindings (cursor : Option String) (limit : ℕ) (source : Option FindingSource)
    (severity : Option FindingSeverity) (status : Option FindingStatus) : Handler :=
  match pageStart decimal cursor with
  | .error (.valueError _) => .done (.document
      (errorAnswer 400 "INVALID_CURSOR" "The finding cursor is invalid" requestId false []))
  | .error (.outOfRange _) => .done serverError
  | .ok start =>
    .call (.store (.findings tenantId (.listPage start limit source severity status))) fun
      | StoreResult.findings (.page records next) => .done (.findings records (next.map encodeCursor))
      | _ => .done serverError

/-- `update_finding` with a registry that has `update_lifecycle`; the outer options say which fields were set. -/
def updateFinding (role findingId : String) (status : Option (Option FindingStatus))
    (assignedTo : Option (Option String)) : Handler :=
  if status = none ∧ assignedTo = none then
    .done (.document (errorAnswer 400 "EMPTY_UPDATE" "At least one lifecycle field must be provided" requestId false []))
  else
    .call (.store (.findings tenantId (.updateLifecycle findingId status.join assignedTo ("role:" ++ role)))) fun
      | StoreResult.findings (.record (some record)) => .done (.finding record)
      | StoreResult.findings (.record none) => .done (.document
          (errorAnswer 404 "FINDING_NOT_FOUND" "Finding not found" requestId false []))
      | _ => .done serverError

/-- `health()` of every adapter in turn, then go on with the answers. -/
def askHealth (next : List (FindingSource × JSONSubprocessAdapter × Bool) → Handler) : Products → Handler
  | [] => next []
  | (source, adapter) :: rest =>
    .call (.available source) fun (available : Bool) =>
      askHealth (fun known => next ((source, adapter, available) :: known)) rest

/-- `livez`. -/
def livez : Handler := .done (.document ⟨200, .obj [("status", .str "ok")], []⟩)

/-- The answer of `readyz`. -/
def readiness (ready : Bool) : Handler :=
  .done (.document ⟨if ready then 200 else 503, .obj [("status", .str (if ready then "ready" else "degraded"))], []⟩)

/-- `readyz`. -/
def readyz : Handler :=
  askHealth (fun known => .call .ping fun (ping : Bool) =>
    if ping then .call .ready fun (ready : Bool) => readiness (ready && known.all fun entry => entry.2.2)
    else readiness false) products

/-- `list_adapters`, by the texts of their sources. -/
def listAdapters : Handler :=
  .done (.document ⟨200, .obj [("count", .int products.length), ("adapters", .arr
    ((products.insertionSort fun a b => core.sourceValue a.1 ≤ core.sourceValue b.1).map fun entry =>
      entry.2.capabilities core))], []⟩)

/-- `admin_health`. -/
def adminHealth : Handler :=
  .call .ping fun (ping : Bool) => .call .ready fun (ready : Bool) =>
    askHealth (fun known => .done (.document ⟨200, .obj [("status", .str (if ping then "ok" else "degraded")),
      ("dispatcher_ready", .bool ready), ("products", .obj (known.map fun entry => (core.sourceValue entry.1,
        .obj [("health", entry.2.1.health entry.2.2), ("capabilities", entry.2.1.capabilities core)])))], []⟩)) products

end ApiV1

/-! ### Routes -/

/-- What a request asks for: a route with its arguments, or what the framework answers by itself because there is no
such route or because the arguments do not validate. -/
inductive ApiRoute
  | livez
  | readyz
  | listAdapters
  | adminHealth
  | createScan (source : FindingSource) (payload : Document) (idempotencyKey : Option String)
  | listScans (status : Option JobStatus) (source : Option FindingSource) (limit : ℕ)
  | getScan (jobId : String)
  | cancelScan (jobId : String)
  | scanEvents (jobId : String) (lastEventId : Option String)
  | listFindings (cursor : Option String) (limit : ℕ) (source : Option FindingSource)
      (severity : Option FindingSeverity) (status : Option FindingStatus)
  | updateFinding (findingId : String) (status : Option (Option FindingStatus)) (assignedTo : Option (Option String))
  | unserved (answer : JsonAnswer)

namespace ApiRoute

/-- The method and the path of a route. -/
def address : ApiRoute → Option (PyText × PyText)
  | .livez => some (.of "GET", .of "/livez")
  | .readyz => some (.of "GET", .of "/readyz")
  | .listAdapters => some (.of "GET", .of "/v1/adapters")
  | .adminHealth => some (.of "GET", .of "/v1/admin/health")
  | .createScan _ _ _ => some (.of "POST", .of "/v1/scans")
  | .listScans _ _ _ => some (.of "GET", .of "/v1/scans")
  | .getScan jobId => some (.of "GET", .of ("/v1/scans/" ++ jobId))
  | .cancelScan jobId => some (.of "POST", .of ("/v1/scans/" ++ jobId ++ "/cancel"))
  | .scanEvents jobId _ => some (.of "GET", .of ("/v1/scans/" ++ jobId ++ "/events"))
  | .listFindings _ _ _ _ _ => some (.of "GET", .of "/v1/findings")
  | .updateFinding findingId _ _ => some (.of "PATCH", .of ("/v1/findings/" ++ findingId))
  | .unserved _ => none

/-- The id in the path of a route. -/
def segment? : ApiRoute → Option String
  | .getScan id | .cancelScan id | .scanEvents id _ | .updateFinding id _ _ => some id
  | _ => none

/-- What the annotations of the arguments check. -/
def valid : ApiRoute → Bool
  | .listScans _ _ limit => 1 ≤ limit && limit ≤ 200
  | .listFindings _ limit _ _ _ => 1 ≤ limit && limit ≤ 500
  | .updateFinding _ _ assignedTo => assignedTo.join.all fun text => text.length ≤ 255
  | _ => true

/-- The request is for this route: an id fills one segment of the path. What the framework answers is on a path of
this API. -/
def servedAt (route : ApiRoute) (scope : AsgiScope) : Bool :=
  match route.address with
  | some (method, path) => route.valid && route.segment?.all (fun id => id ≠ "" && !id.toList.contains '/') &&
      scope.method = some method && scope.path = some path
  | none => (PyText.of "/v1/").isPrefixOf (scope.path.getD [])

variable (core : CoreLibrary) (decimal : Char → Option ℕ) (products : Products)

/-- The handler of a route, for the tenant and the role of its principal. -/
def handler (tenantId role requestId : String) : ApiRoute → Handler
  | .livez => ApiV1.livez
  | .readyz => ApiV1.readyz products
  | .listAdapters => ApiV1.listAdapters core products
  | .adminHealth => ApiV1.adminHealth core products
  | .createScan source payload idempotencyKey =>
    ApiV1.createScan core products tenantId requestId source payload idempotencyKey
  | .listScans status source limit => ApiV1.listScans tenantId status source limit
  | .getScan jobId => ApiV1.getScan tenantId requestId jobId
  | .cancelScan jobId => ApiV1.cancelScan tenantId requestId jobId
  | .scanEvents jobId lastEventId => ApiV1.scanEvents decimal tenantId requestId jobId lastEventId
  | .listFindings cursor limit source severity status =>
    ApiV1.listFindings decimal tenantId requestId cursor limit source severity status
  | .updateFinding findingId status assignedTo =>
    ApiV1.updateFinding tenantId requestId role findingId status assignedTo
  | .unserved answer => .done (.document answer)

end ApiRoute

end SharedIntegration

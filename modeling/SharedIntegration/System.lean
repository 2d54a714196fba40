import SharedIntegration.RunMoves
import SharedIntegration.Library.Transition

/-!
# The gateway, the broker and the workers

The whole of what touches a job: calls of `create_scan` and of `cancel_scan`, the messages
they publish, and any number of runs of `execute` for each message. A schedule interleaves
their steps in any order; the broker may deliver a message again at any time.
-/

namespace SharedIntegration

open Transition

/-- A response of `create_scan`: a job, or an error with its status, code and text. -/
inductive ScanResponse
  | job (statusCode : ℕ) (record : JobRecord)
  | error (statusCode : ℕ) (code message : String) (jobId : Option String) (retryable : Bool)
  | raised (message : String)

/-- Positions of `create_scan` between two calls of the repository or the dispatcher. -/
inductive ScanPc
  | creating
  | submitting (job : JobRecord)
  | recordingDispatch (job : JobRecord) (dispatchId : String)
  | reloading (job : JobRecord)
  | failing (job : JobRecord) (message : String)
  | answered (response : ScanResponse)

/-- One call of `create_scan`. -/
structure ScanCall where
  tenantId : String
  source : FindingSource
  payload : Document
  idempotencyKey : Option String
  pc : ScanPc

/-- What happens next to a call of `create_scan`. A submission may reach the broker or not,
and may return its id or raise, in any combination. -/
inductive ScanEvent
  | advance
  | submit (published : Bool) (result : Except String String)

/-- The job whose dispatch failure is about to be written. -/
def ScanPc.failingKey : ScanPc → Option JobKey
  | .failing job _ => some job.key
  | _ => none

/-- The checks of `create_scan` before it creates a job. -/
def scanEntry (core : CoreLibrary) (products : List FindingSource) (source : FindingSource)
    (idempotencyKey : Option String) : ScanPc :=
  if ∃ text ∈ idempotencyKey, ¬ (1 ≤ text.length ∧ text.length ≤ 128) then
    .answered (.error 400 "INVALID_IDEMPOTENCY_KEY" "Idempotency-Key must contain 1 to 128 characters"
      none false)
  else if source ∉ products then
    .answered (.error 404 "UNKNOWN_SOURCE"
      ("No adapter registered for " ++ core.sourceValue source) none false)
  else .creating

/-- The state of the whole system. `published` are the messages the broker has taken, and
`cancels` are calls of `request_cancel` that have read a status and not yet written. -/
structure System (World : Type) where
  world : World
  scans : List ScanCall
  published : List JobKey
  runs : List Run
  cancels : List (JobKey × JobStatus)

/-- Who takes a step. -/
inductive Action
  | scanRequest (tenantId : String) (source : FindingSource) (payload : Document)
      (idempotencyKey : Option String)
  | scan (index : ℕ) (event : ScanEvent)
  | deliver (executor : JobExecutor) (key : JobKey)
  | run (index : ℕ) (event : RunEvent)
  | requestCancel (key : JobKey)
  | cancelRead (key : JobKey)
  | cancelWrite (index : ℕ)

/-- A step and what it draws from the clock and from `uuid4`. -/
structure Label where
  action : Action
  moment : Moment

variable {World : Type} (backend : Backend World)

/-- One step of `create_scan`: the new state, the next position and what was published. -/
def ScanCall.step (call : ScanCall) (w : World) (m : Moment) :
    ScanEvent → Option (World × ScanPc × List JobKey)
  | .advance =>
    match call.pc with
    | .creating =>
      match backend.create w m call.tenantId call.source call.payload call.idempotencyKey with
      | .ok (w', job, true) => some (w', .submitting job, [])
      | .ok (w', job, false) => some (w', .answered (.job 200 job), [])
      | .error error => some (w, .answered (.raised error.message), [])
    | .recordingDispatch job dispatchId =>
      some (backend.setDispatchId w m job.key dispatchId, .reloading job, [])
    | .reloading job =>
      match backend.get w job.key with
      | some stored => some (w, .answered (.job 202 stored), [])
      | none => some (w, .failing job "scan job disappeared", [])
    | .failing job message =>
      match backend.transition w m job.key .failed none (some "DISPATCH_FAILED") (some message) with
      | .ok (w', failed) => some (w', .answered (.error 503 "DISPATCH_FAILED"
          "The scan could not be queued" (some failed.id) true), [])
      | .error error => some (w, .answered (.raised error.message), [])
    | _ => none
  | .submit published result =>
    match call.pc with
    | .submitting job =>
      let messages := if published then [job.key] else []
      match result with
      | .ok dispatchId => some (w, .recordingDispatch job dispatchId, messages)
      | .error message => some (w, .failing job message, messages)
    | _ => none

namespace System

/-- A freshly migrated system. -/
def initial : System World := ⟨backend.empty, [], [], [], []⟩

/-- One step of the system; `products` are the adapters registered with the gateway. -/
def step (products : List FindingSource) (s : System World) (label : Label) :
    Option (System World) :=
  match label.action with
  | .scanRequest tenantId source payload idempotencyKey =>
    some { s with scans := s.scans ++ [⟨tenantId, source, payload, idempotencyKey,
      scanEntry backend.core products source idempotencyKey⟩] }
  | .scan index event => do
    let call ← s.scans[index]?
    let (world, pc, messages) ← call.step backend s.world label.moment event
    some { s with
      world
      scans := s.scans.set index { call with pc }
      published := s.published ++ messages }
  | .deliver executor key =>
    if key ∈ s.published then some { s with runs := s.runs ++ [Run.fresh executor key] } else none
  | .run index event => do
    let run ← s.runs[index]?
    let (world, run') ← run.step backend s.world label.moment event
    some { s with world, runs := s.runs.set index run' }
  | .requestCancel key =>
    match backend.requestCancel s.world label.moment key with
    | .ok (world, _) => some { s with world }
    | .error _ => some s
  | .cancelRead key => do
    let _ ← backend.unlockedCancel
    let current ← backend.get s.world key
    if current.status.terminal then some s
    else some { s with cancels := s.cancels ++ [(key, current.status)] }
  | .cancelWrite index => do
    let write ← backend.unlockedCancel
    let (key, current) ← s.cancels[index]?
    some { s with
      world := write s.world label.moment key current
      cancels := s.cancels.eraseIdx index }

end System

/-- The steps of a call of `create_scan` up to the publication of its message. -/
def publishScan (index : ℕ) (tenantId : String) (source : FindingSource) (payload : Document)
    (m : Moment) : List Label :=
  [⟨.scanRequest tenantId source payload none, m⟩, ⟨.scan index .advance, m⟩,
    ⟨.scan index (.submit true (.ok "dispatch")), m⟩]

/-- The same run takes several steps. -/
def runLabels (index : ℕ) (m : Moment) (events : List RunEvent) : List Label :=
  events.map fun event => ⟨.run index event, m⟩

end SharedIntegration

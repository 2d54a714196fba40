import SharedIntegration.Repositories

/-!
# Execution of persisted scan jobs

`JobExecutor.execute` as a machine that stops between any two repository calls, registry
calls and awaits, which is where other processes, a task cancellation or the death of the
worker can interfere. The adapter, the registry and the correlation rules may behave in any
way their interfaces allow.
-/

namespace SharedIntegration

/-- How a registry call ended. -/
abbrev CallResult := Except String Unit

/-- A job repository together with the finding registry a worker writes to. Registry calls
have the bound tenant as an argument and never touch a job. -/
structure Backend (World : Type) extends JobRepository World where
  core : CoreLibrary
  findings : World → (tenantId : String) → Except String (List Finding)
  addForJob : World → Moment → (tenantId : String) → Finding → (jobId : Option String) →
    World × CallResult
  addCorrelation : World → Moment → (tenantId : String) → Correlation → World × CallResult
  addForJob_view : ∀ w m tenantId finding jobId,
    view (addForJob w m tenantId finding jobId).1 = view w
  addCorrelation_view : ∀ w m tenantId correlation,
    view (addCorrelation w m tenantId correlation).1 = view w

/-- `ProductCLIError`: the class attributes of the raised class, whether that class is a
`ProductTimeoutError`, and the text. -/
structure ProductCLIError where
  code : String
  retryable : Bool
  timeout : Bool
  message : String

/-- What awaiting the scan task gives. -/
inductive ScanOutcome
  | findings (found : List Finding)
  | productError (error : ProductCLIError)
  | otherError (message : String)
  | cancelled

/-- `JobExecutor`, as far as it decides what a run does. -/
structure JobExecutor where
  products : List FindingSource
  correlations : List CorrelationRule
  maxAttempts : ℕ
  maxAttempts_pos : 1 ≤ maxAttempts

/-- One attempt is enough for an executor. -/
theorem JobExecutor.once : 1 ≤ 1 := Nat.le_refl 1

/-- So are two. -/
theorem JobExecutor.twice : 1 ≤ 2 := by decide

/-- How a call of `execute` ended. -/
inductive Ending
  | returned
  | raised (message : String)
  | cancelledError
deriving DecidableEq

/-- The local variables of the loop in `_store_results`. -/
structure StoreLoop where
  existing : List Finding
  finding : Finding
  rest : List Finding
  count : ℕ

/-- Positions inside the `try` statement of one attempt and inside its handlers. -/
inductive Stage
  | waiting
  | polling (settled : Option ScanOutcome)
  | stopping
  | abandoning
  | storing (found : List Finding)
  | adding (loop : StoreLoop)
  | recording (loop : StoreLoop)
  | correlating (loop : StoreLoop) (rules : List CorrelationRule) (pending : List Correlation)
  | recordingCorrelation (loop : StoreLoop) (rules : List CorrelationRule)
      (correlation : Correlation) (pending : List Correlation)
  | succeeding (count : ℕ)
  | jobCancelled
  | asyncCancelled
  | cancellingAsync
  | retrying (code : String)
  | sleeping
  | failing (timeout : Bool) (code message : String)

/-- Positions of `execute`; attempts count from one. -/
inductive Pc
  | start
  | unknownSource (source : FindingSource)
  | loopTop (attempt : ℕ)
  | cancelling (attempt : ℕ)
  | claiming (attempt : ℕ) (payload : Document)
  | trying (attempt : ℕ) (stage : Stage)
  | done (ending : Ending)
  | dead

/-- Whether a run has ended in a given way. -/
instance (ending : Ending) : ∀ pc : Pc, Decidable (pc = .done ending)
  | .done other => decidable_of_iff (other = ending) (by simp)
  | .start | .unknownSource _ | .loopTop _ | .cancelling _ | .claiming _ _ | .trying _ _ | .dead =>
    isFalse nofun

/-- Whether a run has lost its worker. -/
instance : ∀ pc : Pc, Decidable (pc = .dead)
  | .dead => isTrue rfl
  | .start | .unknownSource _ | .loopTop _ | .cancelling _ | .claiming _ _ | .trying _ _ | .done _ =>
    isFalse nofun

/-- One call of `execute`: its arguments, its position, its `adapter`, and a history of how
often it claimed the job, how often from the queue, and which scans it started. -/
structure Run where
  executor : JobExecutor
  key : JobKey
  pc : Pc
  adapter : Option FindingSource
  claims : ℕ
  queuedClaims : ℕ
  scans : List (Option FindingSource × Document)

/-- A call that has not begun. -/
def Run.fresh (executor : JobExecutor) (key : JobKey) : Run :=
  ⟨executor, key, .start, none, 0, 0, []⟩

/-- What happens next to a run. -/
inductive RunEvent
  | advance
  | appendConflict
  | pollTimeout
  | scanSettles (outcome : ScanOutcome)
  | scanStops (outcome : ScanOutcome)
  | taskCancelled
  | crash

/-- The worker goes on by itself. -/
def RunEvent.advances : RunEvent → Bool
  | .advance => true
  | _ => false

/-- `except Exception`. -/
def internalError (message : String) : Stage := .failing false "INTERNAL_ERROR" message

/-- `return await scan_task`, and the handler that catches what it raises. -/
def afterScan (executor : JobExecutor) (attempt : ℕ) : ScanOutcome → Stage
  | .findings found => .storing found
  | .productError error =>
    if error.retryable && attempt < executor.maxAttempts then .retrying error.code
    else .failing error.timeout error.code error.message
  | .otherError message => internalError message
  | .cancelled => .asyncCancelled

/-- `await scan_task` of a scan told to stop: a normal end and `CancelledError` are dropped in
favour of the exception `dropped` stands for, any other exception goes to its own handler. -/
def afterStop (executor : JobExecutor) (attempt : ℕ) (dropped : Stage) : ScanOutcome → Stage
  | .findings _ | .cancelled => dropped
  | outcome => afterScan executor attempt outcome

/-- The head of the loop in `_store_results`. -/
def storeNext (existing : List Finding) (count : ℕ) : List Finding → Stage
  | [] => .succeeding count
  | finding :: rest => .adding ⟨existing, finding, rest, count⟩

/-- The payload of a correlation event. -/
def correlationPayload (core : CoreLibrary) (correlation : Correlation) : Document :=
  .obj [("rule_id", .str correlation.ruleId),
    ("findings", .arr (correlation.findings.map .str)),
    ("severity", .str (core.severityValue correlation.severity)),
    ("narrative", .str correlation.narrative)]

/-- The payload of a retry event. -/
def retryPayload (attempt : ℕ) (code : String) : Document :=
  .obj [("attempt", .int attempt), ("next_attempt", .int (attempt + 1)), ("code", .str code)]

/-- The text of a lost sequence number. -/
def appendConflictMessage : String :=
  "UNIQUE constraint failed: scan_job_events.tenant_id, scan_job_events.job_id, " ++
    "scan_job_events.sequence"

variable {World : Type} (backend : Backend World)

/-- A `transition` that ends the run, in a handler or before the loop. -/
def endWith (key : JobKey) (w : World) (m : Moment) (status : JobStatus)
    (errorCode errorMessage : Option String) : World × Pc :=
  match backend.transition w m key status none errorCode errorMessage with
  | .ok (w', _) => (w', .done .returned)
  | .error error => (w, .done (.raised error.message))

/-- An `append_event` inside the `try` statement: a conflict is the loss of its number, and the
await just before it may have been cancelled after its call took effect. -/
def recordEvent (key : JobKey) (attempt : ℕ) (w : World) (m : Moment) (kind : String)
    (payload : Document) (next : Stage) : RunEvent → Option (World × Pc)
  | .advance =>
    match backend.appendEvent w m key kind payload with
    | .ok (w', _) => some (w', .trying attempt next)
    | .error error => some (w, .trying attempt (internalError error.message))
  | .appendConflict =>
    if backend.unlockedAppend then
      some (w, .trying attempt (internalError appendConflictMessage))
    else none
  | .taskCancelled => some (w, .trying attempt .asyncCancelled)
  | _ => none

/-- `_scan_with_cancellation`. -/
def scanStep (executor : JobExecutor) (key : JobKey) (attempt : ℕ) (w : World) :
    Stage → RunEvent → Option Stage
  | .waiting, .pollTimeout => some (.polling none)
  | .waiting, .scanSettles outcome => some (.polling (some outcome))
  | .waiting, .taskCancelled => some .abandoning
  | .polling settled, .advance =>
    match backend.get w key, settled with
    | some current, none => if current.cancelRequested then some .stopping else some .waiting
    | some current, some outcome =>
      if current.cancelRequested then some (afterStop executor attempt .jobCancelled outcome)
      else some (afterScan executor attempt outcome)
    | none, none => some .waiting
    | none, some outcome => some (afterScan executor attempt outcome)
  | .stopping, .scanStops outcome => some (afterStop executor attempt .jobCancelled outcome)
  | .stopping, .taskCancelled => some .jobCancelled
  | .abandoning, .scanStops outcome => some (afterStop executor attempt .asyncCancelled outcome)
  | .abandoning, .taskCancelled => some .asyncCancelled
  | _, _ => none

/-- `_store_results`. -/
def storeStep (executor : JobExecutor) (key : JobKey) (attempt : ℕ) (w : World) (m : Moment) :
    Stage → RunEvent → Option (World × Pc)
  | .storing found, .advance =>
    match backend.findings w key.tenantId with
    | .ok existing => some (w, .trying attempt (storeNext existing found.length found))
    | .error message => some (w, .trying attempt (internalError message))
  | .adding loop, .advance =>
    match backend.addForJob w m key.tenantId loop.finding (some key.jobId) with
    | (w', .ok ()) => some (w', .trying attempt (.recording loop))
    | (w', .error message) => some (w', .trying attempt (internalError message))
  | .adding _, .taskCancelled => some (w, .trying attempt .asyncCancelled)
  | .recording loop, event =>
    recordEvent backend key attempt w m "finding" (backend.core.toDict loop.finding)
      (.correlating loop executor.correlations []) event
  | .correlating loop rules (correlation :: pending), .advance =>
    match backend.addCorrelation w m key.tenantId correlation with
    | (w', .ok ()) => some (w', .trying attempt (.recordingCorrelation loop rules correlation pending))
    | (w', .error message) => some (w', .trying attempt (internalError message))
  | .correlating _ _ (_ :: _), .taskCancelled => some (w, .trying attempt .asyncCancelled)
  | .correlating loop (rule :: rules) [], .advance =>
    match rule loop.finding loop.existing with
    | .ok pending => some (w, .trying attempt (.correlating loop rules pending))
    | .error message => some (w, .trying attempt (internalError message))
  | .correlating loop [] [], .advance =>
    some (w, .trying attempt (storeNext (loop.existing ++ [loop.finding]) loop.count loop.rest))
  | .recordingCorrelation loop rules correlation pending, event =>
    recordEvent backend key attempt w m "correlation" (correlationPayload backend.core correlation)
      (.correlating loop rules pending) event
  | _, _ => none

/-- The end of the `try` statement and its handlers. -/
def handlerStep (key : JobKey) (attempt : ℕ) (w : World) (m : Moment) :
    Stage → RunEvent → Option (World × Pc)
  | .succeeding count, .advance =>
    match backend.transition w m key .succeeded (some count) none none with
    | .ok (w', _) => some (w', .done .returned)
    | .error error => some (w, .trying attempt (internalError error.message))
  | .jobCancelled, .advance => some (endWith backend key w m .cancelled none none)
  | .asyncCancelled, .advance =>
    match backend.get w key with
    | some current =>
      if current.status.terminal then some (w, .done .cancelledError)
      else some (w, .trying attempt .cancellingAsync)
    | none => some (w, .done .cancelledError)
  | .cancellingAsync, .advance =>
    match backend.transition w m key .cancelled none none none with
    | .ok (w', _) => some (w', .done .cancelledError)
    | .error error => some (w, .done (.raised error.message))
  | .retrying code, .advance =>
    match backend.appendEvent w m key "retrying" (retryPayload attempt code) with
    | .ok (w', _) => some (w', .trying attempt .sleeping)
    | .error error => some (w, .done (.raised error.message))
  | .retrying _, .appendConflict =>
    if backend.unlockedAppend then some (w, .done (.raised appendConflictMessage)) else none
  | .sleeping, .advance => some (w, .loopTop (attempt + 1))
  | .sleeping, .taskCancelled => some (w, .done .cancelledError)
  | .failing timeout code message, .advance =>
    some (endWith backend key w m (if timeout then .timedOut else .failed) (some code) (some message))
  | _, _ => none

/-- The `try` statement of one attempt. -/
def tryStep (executor : JobExecutor) (key : JobKey) (attempt : ℕ) (w : World) (m : Moment)
    (stage : Stage) (event : RunEvent) : Option (World × Pc) :=
  ((scanStep backend executor key attempt w stage event).map fun stage' =>
    (w, .trying attempt stage')).or
  ((storeStep backend executor key attempt w m stage event).or
    (handlerStep backend key attempt w m stage event))

namespace Run

/-- A run that has not ended and whose worker is alive. -/
def live (run : Run) : Bool :=
  match run.pc with
  | .done _ | .dead => false
  | _ => true

/-- The run at another position. -/
def goto (run : Run) (pc : Pc) : Run := { run with pc := pc }

/-- The run once it has looked up its adapter. -/
def admitted (run : Run) (source : FindingSource) : Run :=
  { run with pc := .loopTop 1, adapter := some source }

/-- The run after a successful claim, which starts a scan with the payload read before. -/
def claimed (run : Run) (attempt : ℕ) (payload : Document) : Run :=
  { run with
    pc := .trying attempt .waiting
    claims := run.claims + 1
    queuedClaims := run.queuedClaims + if attempt = 1 then 1 else 0
    scans := run.scans ++ [(run.adapter, payload)] }

/-- One step of `execute` on a living worker. -/
def proceed (run : Run) (w : World) (m : Moment) (event : RunEvent) : Option (World × Run) :=
  match run.pc, event with
  | .start, .advance =>
    match backend.get w run.key with
    | none => some (w, run.goto (.done .returned))
    | some job =>
      if job.status.terminal then some (w, run.goto (.done .returned))
      else if job.source ∈ run.executor.products then some (w, run.admitted job.source)
      else some (w, run.goto (.unknownSource job.source))
  | .start, .taskCancelled => some (w, run.goto (.done .cancelledError))
  | .unknownSource source, .advance =>
    let (w', pc') := endWith backend run.key w m .failed (some "UNKNOWN_SOURCE")
      (some ("No adapter registered for " ++ backend.core.sourceValue source))
    some (w', run.goto pc')
  | .loopTop attempt, .advance =>
    match backend.get w run.key with
    | none => some (w, run.goto (.done .returned))
    | some current =>
      if current.cancelRequested ∨ current.status = .cancelled then
        if current.status = .cancelled then some (w, run.goto (.done .returned))
        else some (w, run.goto (.cancelling attempt))
      else some (w, run.goto (.claiming attempt current.payload))
  | .cancelling _, .advance =>
    let (w', pc') := endWith backend run.key w m .cancelled none none
    some (w', run.goto pc')
  | .claiming attempt payload, .advance =>
    match backend.markRunning w m run.key (attempt = 1) with
    | (w', some _) => some (w', run.claimed attempt payload)
    | (w', none) => some (w', run.goto (.done .returned))
  | .trying attempt stage, event =>
    (tryStep backend run.executor run.key attempt w m stage event).map fun (w', pc') =>
      (w', run.goto pc')
  | _, _ => none

/-- One step of a run; its worker may die at any time. -/
def step (run : Run) (w : World) (m : Moment) : RunEvent → Option (World × Run)
  | .crash => if run.live then some (w, run.goto .dead) else none
  | event => run.proceed backend w m event

end Run

end SharedIntegration

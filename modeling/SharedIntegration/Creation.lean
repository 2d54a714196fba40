import SharedIntegration.FindingLifecycle
import SharedIntegration.System
import SharedIntegration.Library.Uncommitted

/-!
# Concurrent creation of jobs

`SQLAlchemyJobRepository.create` as the statements of its transactions, and `create_scan` around
it. Between any two statements other calls may run. Rows of an open transaction are seen by nobody
else, but an insert that conflicts with one of them waits.
-/

namespace SharedIntegration

open Relational Transition

namespace Creation

/-- Where a call of `create` stands. The tenant row that its transaction has inserted is kept
until the commit. After `create` has returned, the `create_scan` that called it goes on. -/
inductive Pc
  | finding
  | readingTenant
  | insertingTenant
  | insertingJob (tenant : Option TenantRow)
  | committing (tenant : Option TenantRow)
  | recovering
  | reloading
  | raised (error : RepositoryError)
  | returned (job : JobRecord) (created : Bool) (scan : ScanPc)

/-- `create` returns to `create_scan`, which submits the jobs that were created. -/
def Pc.answer (job : JobRecord) (created : Bool) : Pc :=
  .returned job created (if created then .submitting job else .answered (.job 200 job))

/-- A call of `create` with its arguments, the time it reads and the uuid it draws. -/
structure Call where
  tenantId : String
  source : FindingSource
  payload : Document
  idempotencyKey : Option String
  moment : Moment
  pc : Pc

namespace Call

/-- The call at another position. -/
def goto (call : Call) (pc : Pc) : Call := { call with pc }

/-- The job that the call creates unless it finds one. -/
def key (call : Call) : JobKey := ⟨call.tenantId, "job_" ++ call.moment.uuid⟩

/-- The default row of the call's tenant. -/
def tenantRow (call : Call) : TenantRow :=
  ⟨call.tenantId, call.tenantId, call.tenantId, "active", 90, call.moment.now, call.moment.now⟩

/-- The row of the call's job. -/
def jobRow (call : Call) : JobRow :=
  ⟨.created call.key call.source call.payload call.idempotencyKey call.moment.now, SqlJobs.queues call.source⟩

/-- The tenant row that the call has inserted and not committed. -/
def uncommittedTenant (call : Call) : Option TenantRow :=
  match call.pc with
  | .insertingJob tenant | .committing tenant => tenant
  | _ => none

/-- The job row that the call has inserted and not committed. -/
def uncommittedJob (call : Call) : Option JobRow :=
  match call.pc with
  | .committing _ => some call.jobRow
  | _ => none

/-- The job of the call's idempotency key. -/
def existing (db : Database) (call : Call) : Option JobRecord :=
  call.idempotencyKey.bind (SqlJobs.findByIdempotencyKey db call.tenantId)

/-- The tenants after a transaction has committed the row that it inserted, if any. -/
def committedTenants (db : Database) : Option TenantRow → Option (Table TenantRow TenantRow.Conflict)
  | some row => db.tenants.insert row
  | none => some db.tenants

/-- The commit, with the event and the audit entry that go with the job. -/
def commit (core : CoreLibrary) (db : Database) (call : Call) (tenant : Option TenantRow) : Option Database := do
  let tenants ← committedTenants db tenant
  let jobTables ← db.jobTables.insertRow call.jobRow
  let jobTables := jobTables.appendEvent call.key "status" (statusPayload .queued none none) call.moment.now
  some (SqlJobs.audit { db with tenants, jobTables } call.tenantId "job.created" "job" (some call.key.jobId)
    (.obj [("source", .str (core.sourceValue call.source)), ("queue", .str (SqlJobs.queues call.source))])
    call.moment.now)

/-- The next statement of `create`, beside the uncommitted rows of other calls; `none` while it waits
for one of them and after `create` has returned. -/
def advance (core : CoreLibrary) (db : Database) (tenants : List TenantRow) (jobs : List JobRow) (call : Call) :
    Option (Database × Pc) :=
  match call.pc with
  | .finding =>
    match call.existing db with
    | some job => some (db, .answer job false)
    | none => some (db, .readingTenant)
  | .readingTenant =>
    match db.tenants.find fun row => row.id = call.tenantId with
    | some _ => some (db, .insertingJob none)
    | none => some (db, .insertingTenant)
  | .insertingTenant =>
    match db.tenants.tryInsert tenants call.tenantRow with
    | .waits => none
    | .refused => some (db, .recovering)
    | .accepted => some (db, .insertingJob (some call.tenantRow))
  | .insertingJob tenant =>
    match db.jobTables.jobs.tryInsert jobs call.jobRow with
    | .waits => none
    | .refused => some (db, .recovering)
    | .accepted => some (db, .committing tenant)
  | .committing tenant => (call.commit core db tenant).map fun db' => (db', .reloading)
  | .recovering =>
    match call.existing db with
    | some job => some (db, .answer job false)
    | none => some (db, .raised .integrityError)
  | .reloading =>
    match SqlJobs.get db call.key with
    | some job => some (db, .answer job true)
    | none => some (db, .raised (.runtimeError "created job could not be reloaded"))
  | .raised _ | .returned _ _ _ => none

/-- The next step of `create_scan` after `create` has returned. -/
def continueScan (backend : Backend Database) (db : Database) (m : Moment) (call : Call) (event : ScanEvent) :
    Option (Database × Pc) :=
  match call.pc with
  | .returned job created scan =>
    ((ScanCall.mk call.tenantId call.source call.payload call.idempotencyKey scan).step backend db m event).map
      fun (db', scan', _) => (db', .returned job created scan')
  | _ => none

@[simp] theorem goto_pc (call : Call) (pc : Pc) : (call.goto pc).pc = pc := rfl

@[simp] theorem goto_moment (call : Call) (pc : Pc) : (call.goto pc).moment = call.moment := rfl

@[simp] theorem goto_key (call : Call) (pc : Pc) : (call.goto pc).key = call.key := rfl

@[simp] theorem goto_tenantRow (call : Call) (pc : Pc) : (call.goto pc).tenantRow = call.tenantRow := rfl

@[simp] theorem goto_jobRow (call : Call) (pc : Pc) : (call.goto pc).jobRow = call.jobRow := rfl

@[simp] theorem goto_existing (db : Database) (call : Call) (pc : Pc) :
    (call.goto pc).existing db = call.existing db := rfl

@[simp] theorem goto_commit (core : CoreLibrary) (db : Database) (call : Call) (pc : Pc) :
    (call.goto pc).commit core db = call.commit core db := rfl

/-- The job that a step hands to the dispatcher. -/
def submission (call : Call) (event : ScanEvent) : Option JobKey :=
  match call.pc, event with
  | .returned _ _ (.submitting job), .submit _ _ => some job.key
  | _, _ => none

end Call

/-- The committed rows, the calls in progress and what the dispatcher was given. -/
structure System where
  db : Database
  calls : List Call
  submitted : List JobKey

/-- Who takes a step. -/
inductive Label
  | start (tenantId : String) (source : FindingSource) (payload : Document) (idempotencyKey : Option String)
      (moment : Moment)
  | advance (index : ℕ)
  | scan (index : ℕ) (event : ScanEvent) (moment : Moment)

/-- `uuid4` never gives a value twice, nor one that names a stored job. -/
def System.Fresh (s : System) (uuid : String) : Prop :=
  (∀ call ∈ s.calls, call.moment.uuid ≠ uuid) ∧ ∀ row ∈ s.db.jobTables.jobs.rows, row.id ≠ "job_" ++ uuid

instance (s : System) (uuid : String) : Decidable (s.Fresh uuid) :=
  inferInstanceAs (Decidable ((∀ call ∈ s.calls, call.moment.uuid ≠ uuid) ∧
    ∀ row ∈ s.db.jobTables.jobs.rows, row.id ≠ "job_" ++ uuid))

/-- One step of one call. -/
def System.step (core : CoreLibrary) (text : TextLibrary) (s : System) : Label → Option System
  | .start tenantId source payload idempotencyKey moment => do
    guard (s.Fresh moment.uuid)
    return { s with calls := s.calls ++ [⟨tenantId, source, payload, idempotencyKey, moment, .finding⟩] }
  | .advance index => do
    let call ← s.calls[index]?
    let others := s.calls.eraseIdx index
    let (db, pc) ← call.advance core s.db (others.filterMap Call.uncommittedTenant)
      (others.filterMap Call.uncommittedJob)
    return { s with db, calls := s.calls.set index (call.goto pc) }
  | .scan index event moment => do
    let call ← s.calls[index]?
    let (db, pc) ← call.continueScan (relationalBackend core text) s.db moment event
    return ⟨db, s.calls.set index (call.goto pc), s.submitted ++ (call.submission event).toList⟩

/-- No call has been made yet. -/
def System.initial (db : Database) : System := ⟨db, [], []⟩

end Creation

end SharedIntegration

import SharedIntegration.RepositoryCalls
import SharedIntegration.Library.Connection

/-!
# The statements of the SQLite job repository

`SQLiteJobRepository` once more, statement by statement on the connection that all tenants share. Each statement
may raise, also when it is one of the last of its call. Only `create` rolls back, and only after an integrity
error. Without faults, and with no writes left open, a call does what it does as one step.
-/

namespace SharedIntegration

open Relational

/-- Tables with the same rows are the same. -/
theorem JobTables.eq_of_rows {Row : Type} [JobColumns Row] {tables tables' : JobTables Row}
    (hjobs : tables.jobs.rows = tables'.jobs.rows) (hevents : tables.events.rows = tables'.events.rows) :
    tables = tables' := by
  obtain ⟨⟨jobs, _⟩, ⟨events, _⟩, _⟩ := tables
  obtain ⟨⟨jobs', _⟩, ⟨events', _⟩, _⟩ := tables'
  cases hjobs
  cases hevents
  rfl

namespace SqliteJobs

variable {db : State} {key : JobKey}

/-- An update changes nothing exactly if the record that it selects already is as it would be written. -/
theorem updateJob_eq_iff {condition : JobRecord → Bool} {change : JobRecord → JobRecord}
    (hchange : KeepsIdentity change) : db.updateJob key condition change hchange = db ↔
      ∀ record, get db key = some record → condition record = true → change record = record := by
  constructor
  · intro hsame record hget hcondition
    have hview := congrFun (congrArg JobTables.view hsame) key
    rw [get_eq] at hget
    obtain ⟨v, hv, rfl⟩ := Option.map_eq_some_iff.mp hget
    rw [JobTables.view_updateJob, Function.update_self, hv, Option.map_some, Option.some.injEq, if_pos hcondition]
      at hview
    exact congrArg JobView.record hview
  · intro hsame
    refine JobTables.eq_of_rows ?_ rfl
    refine (List.map_congr_left fun row hrow => ?_).trans (List.map_id _)
    split
    · next hselected =>
      rw [Bool.and_eq_true, decide_eq_true_eq] at hselected
      have hget : get db key = some row := hselected.1 ▸ JobTables.findRow_of_mem hrow
      exact hsame row hget hselected.2
    · rfl

/-- A stored job is still stored after an update. -/
theorem exists_get_updateJob {record : JobRecord} (hget : get db key = some record) (condition : JobRecord → Bool)
    {change : JobRecord → JobRecord} (hchange : KeepsIdentity change) :
    ∃ record', get (db.updateJob key condition change hchange) key = some record' := by
  rw [get_eq] at hget
  obtain ⟨v, hv, -⟩ := Option.map_eq_some_iff.mp hget
  rw [get_eq, JobTables.view_updateJob, Function.update_self, hv]
  exact ⟨_, rfl⟩

/-- An event takes no job away. -/
theorem get_appendEvent (db : State) (key : JobKey) (kind : String) (payload : Document) (now : Instant) :
    get (db.appendEvent key kind payload now) key = get db key := by
  rw [get_eq, get_eq, JobTables.view_appendEvent, Function.update_self, Option.map_map]
  rfl

/-- An event of a stored job is one more event. -/
theorem length_appendEvent {record : JobRecord} (hget : get db key = some record) (kind : String) (payload : Document)
    (now : Instant) : (db.appendEvent key kind payload now).events.rows.length = db.events.rows.length + 1 := by
  have hjob : ∃ row ∈ db.jobs.rows, (JobColumns.record row).key = key := by
    obtain ⟨hmem, hkey⟩ := Table.find_eq_some hget
    exact ⟨record, hmem, of_decide_eq_true hkey⟩
  unfold JobTables.appendEvent
  rw [dif_pos hjob]
  exact List.length_append

/-- A job of which one row is selected is stored, and meets the condition. -/
theorem exists_get_of_rowcount {condition : JobRecord → Bool} (hcount : db.rowcount key condition = 1) :
    ∃ record, get db key = some record ∧ condition record = true := by
  rw [JobTables.rowcount_eq] at hcount
  rw [get_eq]
  cases hv : db.view key with
  | none =>
    rw [hv] at hcount
    cases hcount
  | some v =>
    refine ⟨v.record, rfl, ?_⟩
    by_contra hcondition
    simp [hv, Option.filter, hcondition] at hcount

/-- An update of no row changes nothing. -/
theorem updateJob_of_rowcount {condition : JobRecord → Bool} {change : JobRecord → JobRecord}
    (hchange : KeepsIdentity change) (hcount : db.rowcount key condition ≠ 1) :
    db.updateJob key condition change hchange = db := by
  refine (updateJob_eq_iff hchange).mpr fun record hget hcondition => absurd ?_ hcount
  rw [get_eq] at hget
  obtain ⟨v, hv, rfl⟩ := Option.map_eq_some_iff.mp hget
  rw [JobTables.rowcount_eq, hv]
  simp [Option.filter, hcondition]

end SqliteJobs

/-- The statements of a call; each call executes each of them at most once. -/
inductive Statement
  | lookup
  | write
  | nextSequence
  | insertEvent
  | commit
  | rollback
  | lookupAgain
  | reload
deriving DecidableEq, Repr

/-- What a statement raises when it fails. -/
inductive SqliteFault
  | integrityError
  | otherError
deriving DecidableEq, Repr

/-- The statements of a call that fail. -/
abbrev Faults := Statement → Option SqliteFault

/-- What a call raises: an error of the repository, or another error of the database. -/
inductive Raised
  | repository (error : RepositoryError)
  | database
deriving DecidableEq, Repr

/-- The exception that a fault is. -/
def SqliteFault.raised : SqliteFault → Raised
  | .integrityError => .repository .integrityError
  | .otherError => .database

/-- What a statement raises, if it fails. -/
def Faults.at (faults : Faults) (statement : Statement) : Option Raised := (faults statement).map SqliteFault.raised

namespace SqliteTransactions

open SqliteJobs (State)

/-- A call of the repository, as a session on its connection. -/
abbrev Calling (Value : Type) : Type := Session State Raised Value

variable (faults : Faults) (m : Moment)

/-- `_required` and `_required_locked`. -/
def required (statement : Statement) (key : JobKey) : Calling JobRecord := do
  match ← Session.select (faults.at statement) fun db => SqliteJobs.get db key with
  | some record => return record
  | none => Session.raise (.repository (.keyError key.jobId))

/-- `_append_event_locked`. -/
def appendEventLocked (key : JobKey) (kind : String) (payload : Document) : Calling JobEvent := do
  let event ← Session.select (faults.at .nextSequence) fun db => db.nextEvent key kind payload m.now
  Session.change (faults.at .insertEvent) fun db => db.appendEvent key kind payload m.now
  return event

/-- `find_by_idempotency_key`, if there is a key. -/
def find (statement : Statement) (tenantId : String) : Option String → Calling (Option JobRecord)
  | none => return none
  | some text => Session.select (faults.at statement) fun db => SqliteJobs.findByIdempotencyKey db tenantId text

/-- The `INSERT` of a job. -/
def insertRow (record : JobRecord) (db : State) : Except Raised (State × Unit) :=
  match db.insertRow record with
  | some db' => .ok (db', ())
  | none => .error (.repository .integrityError)

/-- The statements of `create` that an integrity error rolls back. -/
def insertJob (key : JobKey) (source : FindingSource) (payload : Document) (idempotencyKey : Option String) :
    Calling Unit := do
  Session.execute (faults.at .write) (insertRow (.created key source payload idempotencyKey m.now))
  let _ ← appendEventLocked faults m key "status" (statusPayload .queued none none)
  Session.commit (faults.at .commit)

/-- What `create` does after an integrity error: the job that won the race, or the error again. -/
def recover (tenantId : String) (idempotencyKey : Option String) : Calling JobRecord := do
  Session.rollback (faults.at .rollback)
  match ← find faults .lookupAgain tenantId idempotencyKey with
  | some existing => return existing
  | none => Session.raise (.repository .integrityError)

/-- The `except` clause of `create`. -/
def handle (tenantId : String) (idempotencyKey : Option String) : Raised → Calling (Option JobRecord)
  | .repository .integrityError => do return some (← recover faults tenantId idempotencyKey)
  | error => Session.raise error

/-- The `try` statement of `create`: nothing if the job was inserted, or the job that won the race. -/
def insertOrFind (key : JobKey) (source : FindingSource) (payload : Document) (idempotencyKey : Option String) :
    Calling (Option JobRecord) :=
  Session.rescue (do insertJob faults m key source payload idempotencyKey; return none)
    (handle faults key.tenantId idempotencyKey)

/-- `create`. -/
def create (tenantId : String) (source : FindingSource) (payload : Document) (idempotencyKey : Option String) :
    Calling (JobRecord × Bool) := do
  match ← find faults .lookup tenantId idempotencyKey with
  | some existing => return (existing, false)
  | none =>
    let key : JobKey := ⟨tenantId, "job_" ++ m.uuid⟩
    match ← insertOrFind faults m key source payload idempotencyKey with
    | some existing => return (existing, false)
    | none =>
      match ← Session.select (faults.at .reload) fun db => SqliteJobs.get db key with
      | some created => return (created, true)
      | none => Session.raise (.repository (.runtimeError "created job could not be reloaded"))

/-- `mark_running`. -/
def markRunning (key : JobKey) (requireQueued : Bool) : Calling (Option JobRecord) := do
  let rowcount ← Session.execute (faults.at .write) fun db =>
    .ok (db.updateJob key (JobView.claimable requireQueued) (.startAttempt m.now) (startAttempt_keeps_at m),
      db.rowcount key (JobView.claimable requireQueued))
  if rowcount ≠ 1 then
    Session.commit (faults.at .commit)
    return none
  else
    let _ ← appendEventLocked faults m key "status" (statusPayload .running none none)
    Session.commit (faults.at .commit)
    return some (← required faults .reload key)

/-- The statements of `transition` and `request_cancel` after the first: an `UPDATE`, its event and the commit. -/
def writeJob (key : JobKey) (change : JobRecord → JobRecord) (hchange : KeepsIdentity change) (kind : String)
    (payload : Document) : Calling JobRecord := do
  Session.change (faults.at .write) fun db => db.updateJob key (fun _ => true) change hchange
  let _ ← appendEventLocked faults m key kind payload
  Session.commit (faults.at .commit)
  required faults .reload key

/-- `transition`. -/
def transition (key : JobKey) (status : JobStatus) (resultCount : Option ℕ) (errorCode errorMessage : Option String) :
    Calling JobRecord := do
  let _ ← required faults .lookup key
  writeJob faults m key (.writeStatus m.now status resultCount errorCode errorMessage)
    (writeStatus_keeps_at m status resultCount errorCode errorMessage) "status"
    (statusPayload status errorCode errorMessage)

/-- `append_event`. -/
def appendEvent (key : JobKey) (kind : String) (payload : Document) : Calling JobEvent := do
  let _ ← required faults .lookup key
  let event ← appendEventLocked faults m key kind payload
  Session.commit (faults.at .commit)
  return event

/-- `set_dispatch_id`. -/
def setDispatchId (key : JobKey) (dispatchId : String) : Calling Unit := do
  Session.change (faults.at .write) fun db =>
    db.updateJob key (fun _ => true) (.recordDispatch m.now dispatchId) (recordDispatch_keeps_at m dispatchId)
  Session.commit (faults.at .commit)

/-- `request_cancel`. -/
def requestCancel (key : JobKey) : Calling JobRecord := do
  let current ← required faults .lookup key
  if current.status.terminal then return current
  else
    writeJob faults m key (.flagCancel m.now current.status) (flagCancel_keeps m.now current.status)
      "cancel_requested" (statusPayload (JobRecord.cancelStatus current.status) none none)

/-- A call that reads executes one statement. -/
def read (answer : State → RepositoryResult) : Calling RepositoryResult := Session.select (faults.at .lookup) answer

/-- A call on the connection. -/
def perform : RepositoryCall → Calling RepositoryResult
  | .create tenantId source payload idempotencyKey => do
    let (record, isNew) ← create faults m tenantId source payload idempotencyKey
    return .created record isNew
  | .get key => read faults fun db => .optional (SqliteJobs.get db key)
  | .listJobs tenantId status source limit =>
    read faults fun db => .records (SqliteJobs.listJobs db tenantId status source limit)
  | .findByIdempotencyKey tenantId idempotencyKey =>
    read faults fun db => .optional (SqliteJobs.findByIdempotencyKey db tenantId idempotencyKey)
  | .markRunning key requireQueued => do return .optional (← markRunning faults m key requireQueued)
  | .transition key status resultCount errorCode errorMessage => do
    return .record (← transition faults m key status resultCount errorCode errorMessage)
  | .appendEvent key kind payload => do return .event (← appendEvent faults m key kind payload)
  | .listEvents key afterSequence limit =>
    read faults fun db => .events (SqliteJobs.listEvents db key afterSequence.toNat limit)
  | .setDispatchId key dispatchId => do
    setDispatchId faults m key dispatchId
    return .unit
  | .requestCancel key => do return .record (← requestCancel faults m key)

/-! ### Calls without faults -/

variable {m : Moment}

/-- No statement fails. -/
def noFaults : Faults := fun _ => none

/-- What a call returns or raises, as the outcome of its session. -/
def answer : RepositoryResult → Except Raised RepositoryResult
  | .raised error => .error (.repository error)
  | result => .ok result

/-- `_required` without a fault, on a stored job. -/
theorem required_of_get {faults : Faults} {statement : Statement} {key : JobKey} {connection : Connection State}
    {record : JobRecord} (hfault : faults.at statement = none)
    (hget : SqliteJobs.get connection.working key = some record) :
    required faults statement key connection = (.ok record, connection) := by
  refine (Session.bind_of_returns (Session.select_returns.mpr ⟨hfault, rfl, rfl⟩)).trans ?_
  rw [hget]
  rfl

/-- `_required` without a fault, on a job that is not stored. -/
theorem required_of_missing {faults : Faults} {statement : Statement} {key : JobKey} {connection : Connection State}
    (hfault : faults.at statement = none) (hget : SqliteJobs.get connection.working key = none) :
    required faults statement key connection = (.error (.repository (.keyError key.jobId)), connection) := by
  refine (Session.bind_of_returns (Session.select_returns.mpr ⟨hfault, rfl, rfl⟩)).trans ?_
  rw [hget]
  rfl

/-- Without faults and without open writes, a call is one step of the repository. -/
theorem perform_undisturbed (db : State) (call : RepositoryCall) :
    perform noFaults m call (.clean db) =
      (answer (SqliteJobs.queried.perform db m call).2, .clean (SqliteJobs.queried.perform db m call).1) := by
  cases call with
  | get key => rfl
  | listJobs tenantId status source limit => rfl
  | findByIdempotencyKey tenantId idempotencyKey => rfl
  | listEvents key afterSequence limit => rfl
  | setDispatchId key dispatchId => rfl
  | create tenantId source payload idempotencyKey =>
    have hstep : SqliteJobs.queried.perform db m (.create tenantId source payload idempotencyKey) =
      outcome db (fun created => .created created.1 created.2)
        (SqliteJobs.create db m tenantId source payload idempotencyKey) := rfl
    have hfind : ∀ statement, find noFaults statement tenantId idempotencyKey (.clean db) =
        (.ok (idempotencyKey.bind (SqliteJobs.findByIdempotencyKey db tenantId)), .clean db) := by
      intro statement
      cases idempotencyKey with
      | none => rfl
      | some text => rfl
    rw [hstep, SqliteJobs.create]
    cases hfound : idempotencyKey.bind (SqliteJobs.findByIdempotencyKey db tenantId) with
    | some existing =>
      have hlookup := hfind .lookup
      rw [hfound] at hlookup
      exact Session.bind_of_returns (Session.bind_of_returns hlookup)
    | none =>
      have hlookup := hfind .lookup
      have hagain := hfind .lookupAgain
      rw [hfound] at hlookup hagain
      dsimp only
      cases hinsert : db.insertRow
          (.created ⟨tenantId, "job_" ++ m.uuid⟩ source payload idempotencyKey m.now) with
      | none =>
        have hrefused : Session.execute (noFaults.at .write)
            (insertRow (.created ⟨tenantId, "job_" ++ m.uuid⟩ source payload idempotencyKey m.now)) (.clean db) =
              (.error (.repository .integrityError), .clean db) :=
          Session.execute_raises.mpr ⟨rfl, .inr ⟨rfl, by rw [insertRow, Connection.clean, hinsert]⟩⟩
        have hrecover : recover noFaults tenantId idempotencyKey (.clean db) =
            (.error (.repository .integrityError), .clean db) := Session.bind_of_returns hagain
        refine Session.bind_of_raises ((Session.bind_of_returns hlookup).trans (Session.bind_of_raises ?_))
        exact Session.rescue_raises.mpr ⟨_, _, Session.bind_of_raises (Session.bind_of_raises hrefused), Session.bind_of_raises hrecover⟩
      | some inserted =>
        have hinserted : Session.execute (noFaults.at .write)
            (insertRow (.created ⟨tenantId, "job_" ++ m.uuid⟩ source payload idempotencyKey m.now)) (.clean db) =
              (.ok (), ⟨db, inserted⟩) :=
          Session.execute_returns.mpr ⟨rfl, inserted, by rw [insertRow, Connection.clean, hinsert], rfl⟩
        have hjob : insertJob noFaults m ⟨tenantId, "job_" ++ m.uuid⟩ source payload idempotencyKey (.clean db) =
            (.ok (), .clean (inserted.appendEvent ⟨tenantId, "job_" ++ m.uuid⟩ "status"
              (statusPayload .queued none none) m.now)) := Session.bind_of_returns hinserted
        have hwon : insertOrFind noFaults m ⟨tenantId, "job_" ++ m.uuid⟩ source payload idempotencyKey (.clean db) =
            (.ok none, .clean (inserted.appendEvent ⟨tenantId, "job_" ++ m.uuid⟩ "status"
              (statusPayload .queued none none) m.now)) :=
          Session.rescue_returns.mpr (.inl (Session.bind_of_returns hjob))
        have hview := (JobTables.view_insertRow_appendEvent rfl hinsert "status" (statusPayload .queued none none) m.now).2
        obtain ⟨created, hget⟩ : ∃ created, SqliteJobs.get (inserted.appendEvent ⟨tenantId, "job_" ++ m.uuid⟩ "status"
            (statusPayload .queued none none) m.now) ⟨tenantId, "job_" ++ m.uuid⟩ = some created :=
          ⟨_, SqliteJobs.get_of_view_update hview⟩
        dsimp only
        rw [hget]
        refine Session.bind_of_returns ((Session.bind_of_returns hlookup).trans ((Session.bind_of_returns hwon).trans ?_))
        refine (Session.bind_of_returns (Session.select_returns.mpr ⟨rfl, rfl, rfl⟩)).trans ?_
        rw [Connection.clean, hget]
        rfl
  | markRunning key requireQueued =>
    have hstep : SqliteJobs.queried.perform db m (.markRunning key requireQueued) =
      ((SqliteJobs.markRunning db m key requireQueued).1, .optional (SqliteJobs.markRunning db m key requireQueued).2) :=
        rfl
    rw [hstep, SqliteJobs.markRunning]
    have hwrite : Session.execute (noFaults.at .write) (fun db : State => .ok
        (db.updateJob key (JobView.claimable requireQueued) (.startAttempt m.now) (startAttempt_keeps m.now),
          db.rowcount key (JobView.claimable requireQueued))) (.clean db) =
        (.ok (db.rowcount key (JobView.claimable requireQueued)),
          ⟨db, db.updateJob key (JobView.claimable requireQueued) (.startAttempt m.now) (startAttempt_keeps m.now)⟩) :=
      rfl
    refine Session.bind_of_returns ((Session.bind_of_returns hwrite).trans ?_)
    by_cases hcount : db.rowcount key (JobView.claimable requireQueued) = 1
    · obtain ⟨record, hget, -⟩ := SqliteJobs.exists_get_of_rowcount hcount
      obtain ⟨record', hafter⟩ := SqliteJobs.exists_get_updateJob hget (JobView.claimable requireQueued)
        (startAttempt_keeps m.now)
      rw [← SqliteJobs.get_appendEvent _ key "status" (statusPayload .running none none) m.now] at hafter
      rw [if_pos hcount, if_neg (not_not.mpr hcount)]
      dsimp only
      rw [hafter]
      exact Session.bind_of_returns (@required_of_get noFaults .reload key (.clean _) record' rfl hafter)
    · rw [if_neg hcount, if_pos hcount, SqliteJobs.updateJob_of_rowcount (startAttempt_keeps m.now) hcount]
      rfl
  | transition key status resultCount errorCode errorMessage =>
    have hstep : SqliteJobs.queried.perform db m (.transition key status resultCount errorCode errorMessage) =
      outcome db .record (SqliteJobs.transition db m key status resultCount errorCode errorMessage) := rfl
    rw [hstep, SqliteJobs.transition]
    cases hget : SqliteJobs.get db key with
    | none => exact Session.bind_of_raises (Session.bind_of_raises (required_of_missing rfl hget))
    | some record =>
      obtain ⟨record', hafter⟩ := SqliteJobs.exists_get_updateJob hget (fun _ => true)
        (writeStatus_keeps m.now status resultCount errorCode errorMessage)
      rw [← SqliteJobs.get_appendEvent _ key "status" (statusPayload status errorCode errorMessage) m.now] at hafter
      dsimp only
      rw [SqliteJobs.required, hafter]
      refine Session.bind_of_returns ((Session.bind_of_returns (required_of_get rfl hget)).trans ?_)
      exact @required_of_get noFaults .reload key (.clean _) record' rfl hafter
  | appendEvent key kind payload =>
    have hstep : SqliteJobs.queried.perform db m (.appendEvent key kind payload) =
      outcome db .event (SqliteJobs.appendEvent db m key kind payload) := rfl
    rw [hstep, SqliteJobs.appendEvent]
    cases hget : SqliteJobs.get db key with
    | none => exact Session.bind_of_raises (Session.bind_of_raises (required_of_missing rfl hget))
    | some record => exact Session.bind_of_returns (Session.bind_of_returns (required_of_get rfl hget))
  | requestCancel key =>
    have hstep : SqliteJobs.queried.perform db m (.requestCancel key) =
      outcome db .record (SqliteJobs.requestCancel db m key) := rfl
    rw [hstep, SqliteJobs.requestCancel]
    cases hget : SqliteJobs.get db key with
    | none => exact Session.bind_of_raises (Session.bind_of_raises (required_of_missing rfl hget))
    | some record =>
      dsimp only
      by_cases hterminal : record.status.terminal = true
      · rw [if_pos hterminal]
        refine Session.bind_of_returns ((Session.bind_of_returns (required_of_get rfl hget)).trans ?_)
        rw [if_pos hterminal]
        rfl
      · obtain ⟨record', hafter⟩ := SqliteJobs.exists_get_updateJob hget (fun _ => true)
          (flagCancel_keeps m.now record.status)
        rw [← SqliteJobs.get_appendEvent _ key "cancel_requested"
          (statusPayload (JobRecord.cancelStatus record.status) none none) m.now] at hafter
        have hwrite : SqliteJobs.get (SqliteJobs.writeCancel db m key record.status) key = some record' := hafter
        rw [if_neg hterminal, SqliteJobs.required, hwrite]
        refine Session.bind_of_returns ((Session.bind_of_returns (required_of_get rfl hget)).trans ?_)
        rw [if_neg hterminal]
        exact @required_of_get noFaults .reload key (.clean _) record' rfl hafter

end SqliteTransactions

end SharedIntegration

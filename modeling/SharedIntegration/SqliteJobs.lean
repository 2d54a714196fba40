import SharedIntegration.JobTables

/-!
# The SQLite job repository

`SQLiteJobRepository` on its two tables. A lock serializes the calls of one process, and a
call that starts with its `UPDATE` or `INSERT` holds the database until it commits. Between
processes, `request_cancel` writes what it decided from a status it read before it owned the
database, so its write is also given alone, and `append_event` may find the number it read
taken. The only other value read that early is the result count a `transition` carries over.
-/

namespace SharedIntegration

open Relational

namespace SqliteJobs

/-- The two tables of the database file; JSON columns hold the documents they encode. -/
abbrev State := JobTables JobRecord

/-- `get`. -/
def get (db : State) (key : JobKey) : Option JobRecord := db.findRow key

/-- `_required`. -/
def required (db : State) (key : JobKey) : Except RepositoryError (State × JobRecord) :=
  match get db key with
  | some record => .ok (db, record)
  | none => .error (.keyError key.jobId)

/-- `find_by_idempotency_key`. -/
def findByIdempotencyKey (db : State) (tenantId idempotencyKey : String) : Option JobRecord :=
  db.jobs.find fun row => row.tenantId = tenantId ∧ row.idempotencyKey = some idempotencyKey

/-- `create`: an idempotent match, else a new job, else the match that won the race. -/
def create (db : State) (m : Moment) (tenantId : String) (source : FindingSource)
    (payload : Document) (idempotencyKey : Option String) :
    Except RepositoryError (State × JobRecord × Bool) :=
  match idempotencyKey.bind (findByIdempotencyKey db tenantId) with
  | some existing => .ok (db, existing, false)
  | none =>
    let key : JobKey := ⟨tenantId, "job_" ++ m.uuid⟩
    match db.insertRow (.created key source payload idempotencyKey m.now) with
    | some db' =>
      let db' := db'.appendEvent key "status" (statusPayload .queued none none) m.now
      match get db' key with
      | some created => .ok (db', created, true)
      | none => .error (.runtimeError "created job could not be reloaded")
    | none =>
      match idempotencyKey.bind (findByIdempotencyKey db tenantId) with
      | some existing => .ok (db, existing, false)
      | none => .error .integrityError

/-- `mark_running`: one conditional `UPDATE`, then the status event if it matched a row. -/
def markRunning (db : State) (m : Moment) (key : JobKey) (requireQueued : Bool) :
    State × Option JobRecord :=
  if db.rowcount key (JobView.claimable requireQueued) = 1 then
    let db := db.updateJob key (JobView.claimable requireQueued)
      (.startAttempt m.now) (startAttempt_keeps_at m)
    let db := db.appendEvent key "status" (statusPayload .running none none) m.now
    (db, get db key)
  else (db, none)

/-- `transition`. -/
def transition (db : State) (m : Moment) (key : JobKey) (status : JobStatus)
    (resultCount : Option ℕ) (errorCode errorMessage : Option String) :
    Except RepositoryError (State × JobRecord) :=
  match get db key with
  | none => .error (.keyError key.jobId)
  | some _ =>
    let db := db.updateJob key (fun _ => true)
      (.writeStatus m.now status resultCount errorCode errorMessage)
      (writeStatus_keeps_at m status resultCount errorCode errorMessage)
    required (db.appendEvent key "status" (statusPayload status errorCode errorMessage) m.now) key

/-- `append_event`. -/
def appendEvent (db : State) (m : Moment) (key : JobKey) (kind : String) (payload : Document) :
    Except RepositoryError (State × JobEvent) :=
  match get db key with
  | none => .error (.keyError key.jobId)
  | some _ => .ok (db.appendEvent key kind payload m.now, db.nextEvent key kind payload m.now)

/-- `list_events`. -/
def listEvents (db : State) (key : JobKey) (afterSequence limit : ℕ) : List JobEvent :=
  ((db.jobLog key).filter fun event => afterSequence < event.sequence).take limit

/-- `set_dispatch_id`. -/
def setDispatchId (db : State) (m : Moment) (key : JobKey) (dispatchId : String) : State :=
  db.updateJob key (fun _ => true) (.recordDispatch m.now dispatchId)
    (recordDispatch_keeps_at m dispatchId)

/-- The `UPDATE` and the event of `request_cancel`, for the status it has read. -/
def writeCancel (db : State) (m : Moment) (key : JobKey) (current : JobStatus) : State :=
  let db := db.updateJob key (fun _ => true) (.flagCancel m.now current)
    (flagCancel_keeps m.now current)
  db.appendEvent key "cancel_requested" (statusPayload (JobRecord.cancelStatus current) none none)
    m.now

/-- `request_cancel`, when no other process writes the job meanwhile. -/
def requestCancel (db : State) (m : Moment) (key : JobKey) :
    Except RepositoryError (State × JobRecord) :=
  match get db key with
  | none => .error (.keyError key.jobId)
  | some current =>
    if current.status.terminal then .ok (db, current)
    else required (writeCancel db m key current.status) key

/-- `get` reads the record that the view shows. -/
theorem get_eq (db : State) (key : JobKey) : get db key = (db.view key).map JobView.record := by
  rw [JobTables.view, Option.map_map, get]
  exact Option.map_id.symm ▸ rfl

/-- What `get` reads after the view of a job was replaced. -/
theorem get_of_view_update {db db' : State} {key : JobKey} {v : JobView}
    (h : db'.view = Function.update db.view key (some v)) : get db' key = some v.record := by
  rw [get_eq, h, Function.update_self, Option.map_some]

/-- `_required` returns the record that the view shows. -/
theorem required_ok {db db' : State} {key : JobKey} {v : JobView}
    (h : db'.view = Function.update db.view key (some v)) :
    ∃ db'', required db' key = .ok (db'', v.record) ∧
      db''.view = Function.update db.view key (some v) :=
  ⟨db', by rw [required, get_of_view_update h], h⟩

/-- A job found by its idempotency key is the stored job of that tenant. -/
theorem findByIdempotencyKey_eq_some {db : State} {tenantId idempotencyKey : String}
    {record : JobRecord} (h : findByIdempotencyKey db tenantId idempotencyKey = some record) :
    record.tenantId = tenantId ∧ get db record.key = some record := by
  obtain ⟨hmem, hkeys⟩ := Table.find_eq_some h
  simp only [decide_eq_true_eq] at hkeys
  exact ⟨hkeys.1, JobTables.findRow_of_mem hmem⟩

/-- `create` returns the stored match, or a new queued job. -/
theorem create_ok {db db' : State} {m : Moment} {tenantId : String} {source : FindingSource}
    {payload : Document} {idempotencyKey : Option String} {record : JobRecord} {isNew : Bool}
    (h : create db m tenantId source payload idempotencyKey = .ok (db', record, isNew)) :
    (isNew = false ∧ db' = db ∧ record.tenantId = tenantId ∧ get db record.key = some record) ∨
    (isNew = true ∧ record.tenantId = tenantId ∧ db.view record.key = none ∧
      record = (JobView.created record.key source payload idempotencyKey m.now).record ∧
      db'.view = Function.update db.view record.key
        (some (JobView.created record.key source payload idempotencyKey m.now))) := by
  unfold create at h
  cases hfound : idempotencyKey.bind (findByIdempotencyKey db tenantId) with
  | some existing =>
    obtain ⟨text, -, htext⟩ := Option.bind_eq_some_iff.mp hfound
    rw [hfound] at h
    cases h
    exact .inl ⟨rfl, rfl, findByIdempotencyKey_eq_some htext⟩
  | none =>
    simp only [hfound] at h
    cases hinsert : db.insertRow
        (.created ⟨tenantId, "job_" ++ m.uuid⟩ source payload idempotencyKey m.now) with
    | some inserted =>
      have hkey : (JobColumns.record (JobRecord.created ⟨tenantId, "job_" ++ m.uuid⟩ source payload
        idempotencyKey m.now)).key = ⟨tenantId, "job_" ++ m.uuid⟩ := rfl
      obtain ⟨hnone, hview⟩ := JobTables.view_insertRow_appendEvent hkey hinsert "status"
        (statusPayload .queued none none) m.now
      simp only [hinsert, get_of_view_update hview] at h
      cases h
      exact .inr ⟨rfl, rfl, hnone, rfl, hview⟩
    | none =>
      simp only [hinsert] at h
      cases h

/-- `mark_running` on a claimable job starts an attempt of it. -/
theorem markRunning_claimed {db : State} {key : JobKey} {v : JobView} (m : Moment)
    (requireQueued : Bool) (hv : db.view key = some v)
    (hclaim : JobView.claimable requireQueued v.record = true) :
    (markRunning db m key requireQueued).2 = some (v.markRunning m.now).record ∧
      (markRunning db m key requireQueued).1.view =
        Function.update db.view key (some (v.markRunning m.now)) := by
  have hcount : db.rowcount key (JobView.claimable requireQueued) = 1 := by
    rw [JobTables.rowcount_eq, hv]
    simp [Option.filter, hclaim]
  have hview : (markRunning db m key requireQueued).1.view =
      Function.update db.view key (some (v.markRunning m.now)) := by
    rw [markRunning, if_pos hcount, JobTables.view_updateJob_appendEvent, hv]
    simp only [Option.map_some, hclaim, if_true]
    rfl
  refine ⟨?_, hview⟩
  rw [show (v.markRunning m.now).record = _ from rfl, ← get_of_view_update hview, markRunning,
    if_pos hcount]

/-- `mark_running` on any other job does nothing. -/
theorem markRunning_refused {db : State} {key : JobKey} (m : Moment) (requireQueued : Bool)
    (h : ∀ v, db.view key = some v → JobView.claimable requireQueued v.record = false) :
    markRunning db m key requireQueued = (db, none) := by
  have hcount : db.rowcount key (JobView.claimable requireQueued) ≠ 1 := by
    rw [JobTables.rowcount_eq]
    cases hv : db.view key with
    | none => simp
    | some v => simp [Option.filter, h v hv]
  rw [markRunning, if_neg hcount]

/-- `transition` on a stored job. -/
theorem transition_ok {db : State} {key : JobKey} {v : JobView} (m : Moment) (status : JobStatus)
    (resultCount : Option ℕ) (errorCode errorMessage : Option String) (hv : db.view key = some v) :
    ∃ db', transition db m key status resultCount errorCode errorMessage =
        .ok (db', (v.transition m.now status resultCount errorCode errorMessage).record) ∧
      db'.view = Function.update db.view key
        (some (v.transition m.now status resultCount errorCode errorMessage)) := by
  have hget : get db key = some v.record := by rw [get_eq, hv, Option.map_some]
  rw [transition, hget]
  refine required_ok ?_
  rw [JobTables.view_updateJob_appendEvent, hv]
  rfl

/-- `append_event` on a stored job. -/
theorem appendEvent_ok {db : State} {key : JobKey} {v : JobView} (m : Moment) (kind : String)
    (payload : Document) (hv : db.view key = some v) :
    ∃ db' event, appendEvent db m key kind payload = .ok (db', event) ∧
      db'.view = Function.update db.view key (some (v.append kind payload m.now)) := by
  have hget : get db key = some v.record := by rw [get_eq, hv, Option.map_some]
  rw [appendEvent, hget]
  refine ⟨_, _, rfl, ?_⟩
  rw [JobTables.view_appendEvent, hv]
  rfl

/-- The write of `request_cancel` changes its job, if it is stored. -/
theorem writeCancel_view (db : State) (m : Moment) (key : JobKey) (current : JobStatus) :
    (writeCancel db m key current).view =
      Function.update db.view key ((db.view key).map fun v => v.writeCancel m.now current) := by
  rw [writeCancel, JobTables.view_updateJob_appendEvent]
  rfl

/-- `request_cancel` on a stored job. -/
theorem requestCancel_ok {db : State} {key : JobKey} {v : JobView} (m : Moment)
    (hv : db.view key = some v) :
    ∃ db', requestCancel db m key = .ok (db', (v.requestCancel m.now).record) ∧
      db'.view = Function.update db.view key (some (v.requestCancel m.now)) := by
  have hget : get db key = some v.record := by rw [get_eq, hv, Option.map_some]
  simp only [requestCancel, hget, JobView.requestCancel]
  split
  · refine ⟨db, rfl, ?_⟩
    rw [← hv, Function.update_eq_self]
  · refine required_ok ?_
    rw [writeCancel_view, hv, Option.map_some]

/-- A job without a view is not stored. -/
theorem get_eq_none {db : State} {key : JobKey} (h : db.view key = none) : get db key = none := by
  rw [get_eq, h, Option.map_none]

end SqliteJobs

/-- `SQLiteJobRepository`. -/
def sqliteJobRepository : JobRepository SqliteJobs.State where
  empty := .empty
  create := SqliteJobs.create
  get := SqliteJobs.get
  markRunning := SqliteJobs.markRunning
  transition := SqliteJobs.transition
  appendEvent := SqliteJobs.appendEvent
  listEvents := SqliteJobs.listEvents
  setDispatchId := SqliteJobs.setDispatchId
  requestCancel := SqliteJobs.requestCancel
  unlockedCancel := some SqliteJobs.writeCancel
  unlockedAppend := true
  view := JobTables.view
  view_empty _ := rfl
  view_key := JobTables.view_key
  get_eq := SqliteJobs.get_eq
  listEvents_eq after limit hv := by
    obtain ⟨row, -, rfl⟩ := Option.map_eq_some_iff.mp hv
    rfl
  create_ok := SqliteJobs.create_ok
  markRunning_claimed := SqliteJobs.markRunning_claimed
  markRunning_refused := SqliteJobs.markRunning_refused
  transition_ok := SqliteJobs.transition_ok
  transition_missing _ _ _ _ _ hnone := by rw [SqliteJobs.transition, SqliteJobs.get_eq_none hnone]
  appendEvent_ok := SqliteJobs.appendEvent_ok
  appendEvent_missing _ _ _ hnone := by rw [SqliteJobs.appendEvent, SqliteJobs.get_eq_none hnone]
  setDispatchId_view _ _ _ _ := JobTables.view_updateJob _ _ _ _ _
  requestCancel_ok := SqliteJobs.requestCancel_ok
  requestCancel_missing _ hnone := by rw [SqliteJobs.requestCancel, SqliteJobs.get_eq_none hnone]
  unlockedCancel_view h := by
    cases h
    exact SqliteJobs.writeCancel_view

end SharedIntegration

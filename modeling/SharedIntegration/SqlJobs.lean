import SharedIntegration.DbModels

/-!
# The relational job repository

`SQLAlchemyJobRepository` on the shared schema. Each call is one transaction that holds the
job's row from its first read of it, so a call is one step. Every write is made of the
statements of `JobTables`, which is what makes the repository lawful.
-/

namespace SharedIntegration

open Relational

namespace SqlJobs

/-- `_QUEUES`. -/
def queues : FindingSource → String
  | .soc => "fast"
  | .vuln => "analysis"
  | .lab => "sandbox"
  | .code => "analysis"
  | .reverse => "sandbox"
  | .firmware => "sandbox"
  | .external => "analysis"

/-- `_ensure_tenant`: insert the default row of a tenant that has none. -/
def ensureTenant (tenants : Table TenantRow TenantRow.Conflict) (tenantId : String)
    (now : Instant) : Option (Table TenantRow TenantRow.Conflict) :=
  match tenants.find fun row => row.id = tenantId with
  | some _ => some tenants
  | none => tenants.insert ⟨tenantId, tenantId, tenantId, "active", 90, now, now⟩

/-- `_ensure_tenant` leaves a tenant that has a row alone, and inserts the default row of any other. -/
theorem ensureTenant_cases {tenants tenants' : Table TenantRow TenantRow.Conflict} {tenantId : String} {now : Instant}
    (h : ensureTenant tenants tenantId now = some tenants') :
    ((∃ row ∈ tenants.rows, row.id = tenantId) ∧ tenants' = tenants) ∨
      ((∀ row ∈ tenants.rows, row.id ≠ tenantId) ∧
        tenants.insert ⟨tenantId, tenantId, tenantId, "active", 90, now, now⟩ = some tenants') := by
  unfold ensureTenant at h
  split at h
  · next row hrow =>
    obtain ⟨hmem, hid⟩ := Table.find_eq_some hrow
    cases h
    exact .inl ⟨⟨row, hmem, of_decide_eq_true hid⟩, rfl⟩
  · next hnone =>
    exact .inr ⟨fun row hrow => of_decide_eq_false ((Table.find_eq_none_iff _ _).mp hnone row hrow), h⟩

/-- The default row of a tenant is not refused: the tenant has a row, or nobody has its id for a slug. -/
def Serves (tenants : Table TenantRow TenantRow.Conflict) (tenantId : String) : Prop :=
  (∃ row ∈ tenants.rows, row.id = tenantId) ∨ ∀ row ∈ tenants.rows, row.slug ≠ tenantId

/-- Default rows of new tenants are in nobody's way. -/
theorem Serves.append {tenants tenants' : Table TenantRow TenantRow.Conflict} {new : List TenantRow} {tenantId : String}
    (hrows : tenants'.rows = tenants.rows ++ new) (hslugs : ∀ row ∈ new, row.slug = row.id)
    (h : Serves tenants tenantId) : Serves tenants' tenantId := by
  unfold Serves
  rw [hrows]
  by_cases hsame : ∃ row ∈ new, row.id = tenantId
  · obtain ⟨row, hrow, hid⟩ := hsame
    exact Or.inl ⟨row, List.mem_append_right _ hrow, hid⟩
  · rcases h with ⟨row, hrow, hid⟩ | hfree
    · exact Or.inl ⟨row, List.mem_append_left _ hrow, hid⟩
    · refine Or.inr fun row hrow hslug => ?_
      rcases List.mem_append.mp hrow with hold | hnew
      · exact hfree row hold hslug
      · exact hsame ⟨row, hnew, (hslugs row hnew).symm.trans hslug⟩

/-- No default row makes room for a tenant that was refused before. -/
theorem Serves.of_append {tenants tenants' : Table TenantRow TenantRow.Conflict} {new : List TenantRow}
    {tenantId : String} (hrows : tenants'.rows = tenants.rows ++ new) (hslugs : ∀ row ∈ new, row.slug = row.id)
    (hfree : ∀ row ∈ new, ∀ old ∈ tenants.rows, ¬ TenantRow.Conflict old row) (h : Serves tenants' tenantId) :
    Serves tenants tenantId := by
  unfold Serves at h
  rw [hrows] at h
  rcases h with ⟨row, hrow, hid⟩ | hslug
  · rcases List.mem_append.mp hrow with hold | hnew
    · exact Or.inl ⟨row, hold, hid⟩
    · refine Or.inr fun old hold hslug => hfree row hnew old hold (Or.inr ?_)
      rw [hslug, hslugs row hnew, hid]
  · exact Or.inr fun old hold => hslug old (List.mem_append_left _ hold)

/-- A tenant that has got its row is served, and the others are as before. -/
theorem Serves.ensureTenant {tenants tenants' : Table TenantRow TenantRow.Conflict} {tenantId other : String}
    {now : Instant} (hensure : SqlJobs.ensureTenant tenants tenantId now = some tenants') (h : Serves tenants other) :
    Serves tenants' other := by
  rcases ensureTenant_cases hensure with ⟨-, rfl⟩ | ⟨-, hinsert⟩
  · exact h
  · refine h.append (Table.insert_eq_some hinsert).1 fun row hrow => ?_
    rw [List.mem_singleton.mp hrow]

/-- When `_ensure_tenant` succeeds. -/
theorem exists_ensureTenant_iff {tenants : Table TenantRow TenantRow.Conflict} {tenantId : String} {now : Instant} :
    (∃ tenants', ensureTenant tenants tenantId now = some tenants') ↔ Serves tenants tenantId := by
  constructor
  · rintro ⟨tenants', h⟩
    rcases ensureTenant_cases h with ⟨hstored, -⟩ | ⟨-, hinsert⟩
    · exact .inl hstored
    · exact .inr fun row hrow hslug => (Table.insert_eq_some hinsert).2 row hrow (.inr hslug)
  · intro h
    unfold ensureTenant
    split
    · exact ⟨tenants, rfl⟩
    · next hnone =>
      have hmissing : ∀ row ∈ tenants.rows, row.id ≠ tenantId := fun row hrow =>
        of_decide_eq_false ((Table.find_eq_none_iff _ _).mp hnone row hrow)
      have hfree : ∀ row ∈ tenants.rows, row.slug ≠ tenantId := h.resolve_left fun ⟨row, hrow, hid⟩ =>
        hmissing row hrow hid
      rw [← Option.ne_none_iff_exists']
      intro hrefused
      obtain ⟨row, hrow, hid | hslug⟩ := (Table.insert_eq_none_iff _ _).mp hrefused
      · exact hmissing row hrow hid
      · exact hfree row hrow hslug

/-- `_ensure_tenant` succeeds for such a tenant, and no default row makes it fail for another one later. -/
theorem ensureTenant_serves {tenants : Table TenantRow TenantRow.Conflict} {tenantId : String}
    (h : Serves tenants tenantId) (now : Instant) :
    ∃ tenants', ensureTenant tenants tenantId now = some tenants' ∧
      ∀ other, Serves tenants other → Serves tenants' other := by
  obtain ⟨tenants', hensure⟩ := exists_ensureTenant_iff.mpr h
  exact ⟨tenants', hensure, fun _ hother => hother.ensureTenant hensure⟩

/-- As long as every tenant keeps its id as slug, its default row is never refused. -/
theorem ensureTenant_ok {tenants : Table TenantRow TenantRow.Conflict}
    (htenants : ∀ row ∈ tenants.rows, row.slug = row.id) (tenantId : String) (now : Instant) :
    ∃ tenants', ensureTenant tenants tenantId now = some tenants' ∧
      ∀ row ∈ tenants'.rows, row.slug = row.id := by
  have hserves : Serves tenants tenantId := by
    by_cases hstored : ∃ row ∈ tenants.rows, row.id = tenantId
    · exact .inl hstored
    · exact .inr fun row hrow hslug => hstored ⟨row, hrow, (htenants row hrow).symm.trans hslug⟩
  obtain ⟨tenants', hensure⟩ := exists_ensureTenant_iff.mpr hserves
  refine ⟨tenants', hensure, fun row hrow => ?_⟩
  rcases ensureTenant_cases hensure with ⟨-, rfl⟩ | ⟨-, hinsert⟩
  · exact htenants row hrow
  · rw [(Table.insert_eq_some hinsert).1] at hrow
    rcases List.mem_append.mp hrow with hold | hnew
    · exact htenants row hold
    · rw [List.mem_singleton.mp hnew]

/-- `_audit`. -/
def audit (db : Database) (tenantId action resourceType : String) (resourceId : Option String)
    (details : Document) (now : Instant) : Database :=
  { db with auditEvents := db.auditEvents ++
      [⟨tenantId, "system", action, resourceType, resourceId, none, "success", details, now⟩] }

/-- What the database shows of a job. -/
def view (db : Database) (key : JobKey) : Option JobView := db.jobTables.view key

/-- `get`. -/
def get (db : Database) (key : JobKey) : Option JobRecord := (view db key).map JobView.record

/-- `_required`. -/
def required (db : Database) (key : JobKey) : Except RepositoryError (Database × JobRecord) :=
  match get db key with
  | some record => .ok (db, record)
  | none => .error (.keyError key.jobId)

/-- `find_by_idempotency_key`. -/
def findByIdempotencyKey (db : Database) (tenantId idempotencyKey : String) : Option JobRecord :=
  (db.jobTables.jobs.find fun row =>
    row.tenantId = tenantId ∧ row.idempotencyKey = some idempotencyKey).map JobRow.toJobRecord

/-- The transaction of `create`; `none` is an integrity error. -/
def insertJob (core : CoreLibrary) (db : Database) (m : Moment) (tenantId : String)
    (source : FindingSource) (payload : Document) (idempotencyKey : Option String) :
    Option Database := do
  let key : JobKey := ⟨tenantId, "job_" ++ m.uuid⟩
  let tenants ← ensureTenant db.tenants tenantId m.now
  let jobTables ← db.jobTables.insertRow
    ⟨.created key source payload idempotencyKey m.now, queues source⟩
  let jobTables := jobTables.appendEvent key "status" (statusPayload .queued none none) m.now
  some (audit { db with tenants, jobTables } tenantId "job.created" "job" (some key.jobId)
    (.obj [("source", .str (core.sourceValue source)), ("queue", .str (queues source))]) m.now)

/-- `create`: an idempotent match, else a new job, else the match that won the race. -/
def create (core : CoreLibrary) (db : Database) (m : Moment) (tenantId : String)
    (source : FindingSource) (payload : Document) (idempotencyKey : Option String) :
    Except RepositoryError (Database × JobRecord × Bool) :=
  match idempotencyKey.bind (findByIdempotencyKey db tenantId) with
  | some existing => .ok (db, existing, false)
  | none =>
    match insertJob core db m tenantId source payload idempotencyKey with
    | some db' =>
      match get db' ⟨tenantId, "job_" ++ m.uuid⟩ with
      | some created => .ok (db', created, true)
      | none => .error (.runtimeError "created job could not be reloaded")
    | none =>
      match idempotencyKey.bind (findByIdempotencyKey db tenantId) with
      | some existing => .ok (db, existing, false)
      | none => .error .integrityError

/-- `mark_running`: one conditional `UPDATE`, then the status event if it matched a row. -/
def markRunning (db : Database) (m : Moment) (key : JobKey) (requireQueued : Bool) :
    Database × Option JobRecord :=
  if db.jobTables.rowcount key (JobView.claimable requireQueued) = 1 then
    let jobTables := db.jobTables.updateJob key (JobView.claimable requireQueued)
      (.startAttempt m.now) (startAttempt_keeps m.now)
    let jobTables := jobTables.appendEvent key "status" (statusPayload .running none none) m.now
    let db := { db with jobTables }
    (db, get db key)
  else (db, none)

/-- `transition`. -/
def transition (db : Database) (m : Moment) (key : JobKey) (status : JobStatus)
    (resultCount : Option ℕ) (errorCode errorMessage : Option String) :
    Except RepositoryError (Database × JobRecord) :=
  match db.jobTables.findRow key with
  | none => .error (.keyError key.jobId)
  | some _ =>
    let payload := statusPayload status errorCode errorMessage
    let jobTables := db.jobTables.updateJob key (fun _ => true)
      (.writeStatus m.now status resultCount errorCode errorMessage)
      (writeStatus_keeps m.now status resultCount errorCode errorMessage)
    let jobTables := jobTables.appendEvent key "status" payload m.now
    required (audit { db with jobTables } key.tenantId "job.status_changed" "job" (some key.jobId)
      payload m.now) key

/-- `append_event`. -/
def appendEvent (db : Database) (m : Moment) (key : JobKey) (kind : String) (payload : Document) :
    Except RepositoryError (Database × JobEvent) :=
  match db.jobTables.findRow key with
  | none => .error (.keyError key.jobId)
  | some _ =>
    .ok ({ db with jobTables := db.jobTables.appendEvent key kind payload m.now },
      db.jobTables.nextEvent key kind payload m.now)

/-- `list_events`. -/
def listEvents (db : Database) (key : JobKey) (afterSequence limit : ℕ) : List JobEvent :=
  ((db.jobTables.jobLog key).filter fun event => afterSequence < event.sequence).take limit

/-- `set_dispatch_id`. -/
def setDispatchId (db : Database) (m : Moment) (key : JobKey) (dispatchId : String) : Database :=
  let jobTables := db.jobTables.updateJob key (fun _ => true)
    (.recordDispatch m.now dispatchId) (recordDispatch_keeps m.now dispatchId)
  { db with jobTables }

/-- `request_cancel`, which holds the row's lock from its read to its write. -/
def requestCancel (db : Database) (m : Moment) (key : JobKey) :
    Except RepositoryError (Database × JobRecord) :=
  match db.jobTables.findRow key with
  | none => .error (.keyError key.jobId)
  | some row =>
    if row.status.terminal then .ok (db, row.toJobRecord)
    else
      let payload := statusPayload (JobRecord.cancelStatus row.status) none none
      let jobTables := db.jobTables.updateJob key (fun _ => true)
        (.flagCancel m.now row.status) (flagCancel_keeps m.now row.status)
      let jobTables := jobTables.appendEvent key "cancel_requested" payload m.now
      required (audit { db with jobTables } key.tenantId "job.cancel_requested" "job"
        (some key.jobId) payload m.now) key

/-- The row of a viewed job. -/
theorem findRow_of_view {db : Database} {key : JobKey} {v : JobView} (h : view db key = some v) :
    ∃ row, db.jobTables.findRow key = some row ∧ row.toJobRecord = v.record := by
  obtain ⟨row, hrow, rfl⟩ := Option.map_eq_some_iff.mp h
  exact ⟨row, hrow, rfl⟩

/-- A job without a view has no row. -/
theorem findRow_of_view_none {db : Database} {key : JobKey} (h : view db key = none) :
    db.jobTables.findRow key = none := Option.map_eq_none_iff.mp h

/-- What `get` reads after the view of a job was replaced. -/
theorem get_of_view_update {db db' : Database} {key : JobKey} {v : JobView}
    (h : view db' = Function.update (view db) key (some v)) : get db' key = some v.record := by
  rw [get, h, Function.update_self, Option.map_some]

/-- `_required` returns the record that the view shows. -/
theorem required_ok {db db' : Database} {key : JobKey} {v : JobView}
    (h : view db' = Function.update (view db) key (some v)) :
    ∃ db'', required db' key = .ok (db'', v.record) ∧
      view db'' = Function.update (view db) key (some v) :=
  ⟨db', by rw [required, get_of_view_update h], h⟩

/-- A job found by its idempotency key is the stored job of that tenant. -/
theorem findByIdempotencyKey_eq_some {db : Database} {tenantId idempotencyKey : String}
    {record : JobRecord} (h : findByIdempotencyKey db tenantId idempotencyKey = some record) :
    record.tenantId = tenantId ∧ get db record.key = some record := by
  obtain ⟨row, hrow, rfl⟩ := Option.map_eq_some_iff.mp h
  obtain ⟨hmem, hkeys⟩ := Table.find_eq_some hrow
  simp only [decide_eq_true_eq] at hkeys
  refine ⟨hkeys.1, ?_⟩
  rw [get, view, JobTables.view, ← show JobColumns.record row = row.toJobRecord from rfl,
    JobTables.findRow_of_mem hmem]
  rfl

/-- The transaction of `create` shows the new job and leaves every other job alone. -/
theorem insertJob_eq_some {core : CoreLibrary} {db db' : Database} {m : Moment} {tenantId : String}
    {source : FindingSource} {payload : Document} {idempotencyKey : Option String}
    (h : insertJob core db m tenantId source payload idempotencyKey = some db') :
    view db ⟨tenantId, "job_" ++ m.uuid⟩ = none ∧
      view db' = Function.update (view db) ⟨tenantId, "job_" ++ m.uuid⟩
        (some (.created ⟨tenantId, "job_" ++ m.uuid⟩ source payload idempotencyKey m.now)) := by
  simp only [insertJob, Option.bind_eq_bind, Option.bind_eq_some_iff, Option.some.injEq] at h
  obtain ⟨tenants, -, jobTables, hinsert, rfl⟩ := h
  exact JobTables.view_insertRow_appendEvent rfl hinsert _ _ _

/-- `create` returns the stored match, or a new queued job. -/
theorem create_ok {core : CoreLibrary} {db db' : Database} {m : Moment} {tenantId : String}
    {source : FindingSource} {payload : Document} {idempotencyKey : Option String}
    {record : JobRecord} {isNew : Bool}
    (h : create core db m tenantId source payload idempotencyKey = .ok (db', record, isNew)) :
    (isNew = false ∧ db' = db ∧ record.tenantId = tenantId ∧ get db record.key = some record) ∨
    (isNew = true ∧ record.tenantId = tenantId ∧ view db record.key = none ∧
      record = (JobView.created record.key source payload idempotencyKey m.now).record ∧
      view db' = Function.update (view db) record.key
        (some (JobView.created record.key source payload idempotencyKey m.now))) := by
  have hmatch : ∀ {existing}, idempotencyKey.bind (findByIdempotencyKey db tenantId) = some existing →
      existing.tenantId = tenantId ∧ get db existing.key = some existing := by
    intro existing hfound
    obtain ⟨text, -, htext⟩ := Option.bind_eq_some_iff.mp hfound
    exact findByIdempotencyKey_eq_some htext
  unfold create at h
  cases hfound : idempotencyKey.bind (findByIdempotencyKey db tenantId) with
  | some existing =>
    rw [hfound] at h
    cases h
    exact .inl ⟨rfl, rfl, hmatch hfound⟩
  | none =>
    rw [hfound] at h
    cases hinsert : insertJob core db m tenantId source payload idempotencyKey with
    | some inserted =>
      obtain ⟨hnone, hview⟩ := insertJob_eq_some hinsert
      simp only [hinsert, get_of_view_update hview] at h
      cases h
      exact .inr ⟨rfl, rfl, hnone, rfl, hview⟩
    | none =>
      simp only [hinsert] at h
      cases h

/-- `mark_running` on a claimable job starts an attempt of it. -/
theorem markRunning_claimed {db : Database} {key : JobKey} {v : JobView} (m : Moment)
    (requireQueued : Bool) (hv : view db key = some v)
    (hclaim : JobView.claimable requireQueued v.record = true) :
    (markRunning db m key requireQueued).2 = some (v.markRunning m.now).record ∧
      view (markRunning db m key requireQueued).1 =
        Function.update (view db) key (some (v.markRunning m.now)) := by
  have hcount : db.jobTables.rowcount key (JobView.claimable requireQueued) = 1 := by
    rw [JobTables.rowcount_eq, show db.jobTables.view key = some v from hv]
    simp [Option.filter, hclaim]
  have hview : view (markRunning db m key requireQueued).1 =
      Function.update (view db) key (some (v.markRunning m.now)) := by
    rw [markRunning, if_pos hcount]
    change JobTables.view _ = _
    rw [JobTables.view_updateJob_appendEvent, show db.jobTables.view key = some v from hv]
    simp only [Option.map_some, hclaim, if_true]
    rfl
  refine ⟨?_, hview⟩
  rw [show (v.markRunning m.now).record = _ from rfl, ← get_of_view_update hview, markRunning,
    if_pos hcount]

/-- `mark_running` on any other job does nothing. -/
theorem markRunning_refused {db : Database} {key : JobKey} (m : Moment) (requireQueued : Bool)
    (h : ∀ v, view db key = some v → JobView.claimable requireQueued v.record = false) :
    markRunning db m key requireQueued = (db, none) := by
  have hcount : db.jobTables.rowcount key (JobView.claimable requireQueued) ≠ 1 := by
    rw [JobTables.rowcount_eq]
    cases hv : db.jobTables.view key with
    | none => simp
    | some v => simp [Option.filter, h v hv]
  rw [markRunning, if_neg hcount]

/-- Changing a job's columns, appending the event and auditing it is one change of the view. -/
theorem view_changed {db : Database} {key : JobKey} {v : JobView} (hv : view db key = some v)
    (change : JobRecord → JobRecord) (hchange : KeepsIdentity change) (kind action : String)
    (payload : Document) (now : Instant) :
    view (audit { db with jobTables := (db.jobTables.updateJob key (fun _ => true) change
        hchange).appendEvent key kind payload now } key.tenantId action "job" (some key.jobId)
        payload now) =
      Function.update (view db) key
        (some (JobView.append { v with record := change v.record } kind payload now)) := by
  have hjob : db.jobTables.view key = some v := hv
  have happended := JobTables.view_updateJob_appendEvent db.jobTables key (fun _ => true) change
    hchange kind payload now
  simp only [hjob, Option.map_some, if_true] at happended
  exact happended

/-- `transition` on a stored job. -/
theorem transition_ok {db : Database} {key : JobKey} {v : JobView} (m : Moment) (status : JobStatus)
    (resultCount : Option ℕ) (errorCode errorMessage : Option String) (hv : view db key = some v) :
    ∃ db', transition db m key status resultCount errorCode errorMessage =
        .ok (db', (v.transition m.now status resultCount errorCode errorMessage).record) ∧
      view db' = Function.update (view db) key
        (some (v.transition m.now status resultCount errorCode errorMessage)) := by
  obtain ⟨row, hrow, -⟩ := findRow_of_view hv
  rw [transition, hrow]
  exact required_ok (view_changed hv _ _ _ _ _ _)

/-- `append_event` on a stored job. -/
theorem appendEvent_ok {db : Database} {key : JobKey} {v : JobView} (m : Moment) (kind : String)
    (payload : Document) (hv : view db key = some v) :
    ∃ db' event, appendEvent db m key kind payload = .ok (db', event) ∧
      view db' = Function.update (view db) key (some (v.append kind payload m.now)) := by
  obtain ⟨row, hrow, -⟩ := findRow_of_view hv
  rw [appendEvent, hrow]
  refine ⟨_, _, rfl, ?_⟩
  change JobTables.view _ = _
  rw [JobTables.view_appendEvent, show db.jobTables.view key = some v from hv]
  rfl

/-- `set_dispatch_id` changes the columns of its job, if it is stored. -/
theorem setDispatchId_view (db : Database) (m : Moment) (key : JobKey) (dispatchId : String) :
    view (setDispatchId db m key dispatchId) =
      Function.update (view db) key ((view db key).map fun v => v.setDispatchId m.now dispatchId) :=
  JobTables.view_updateJob _ _ _ _ _

/-- `request_cancel` on a stored job. -/
theorem requestCancel_ok {db : Database} {key : JobKey} {v : JobView} (m : Moment)
    (hv : view db key = some v) :
    ∃ db', requestCancel db m key = .ok (db', (v.requestCancel m.now).record) ∧
      view db' = Function.update (view db) key (some (v.requestCancel m.now)) := by
  obtain ⟨row, hrow, hrecord⟩ := findRow_of_view hv
  simp only [requestCancel, hrow, JobView.requestCancel, hrecord]
  split
  · refine ⟨db, rfl, ?_⟩
    rw [← hv, Function.update_eq_self]
  · exact required_ok (view_changed hv _ _ _ _ _ _)

end SqlJobs

/-- `SQLAlchemyJobRepository`. -/
def sqlAlchemyJobRepository (core : CoreLibrary) : JobRepository Database where
  empty := .empty
  create := SqlJobs.create core
  get := SqlJobs.get
  markRunning := SqlJobs.markRunning
  transition := SqlJobs.transition
  appendEvent := SqlJobs.appendEvent
  listEvents := SqlJobs.listEvents
  setDispatchId := SqlJobs.setDispatchId
  requestCancel := SqlJobs.requestCancel
  unlockedCancel := none
  unlockedAppend := false
  view := SqlJobs.view
  view_empty _ := rfl
  view_key := JobTables.view_key
  get_eq _ _ := rfl
  listEvents_eq after limit hv := by
    obtain ⟨row, -, rfl⟩ := Option.map_eq_some_iff.mp hv
    rfl
  create_ok := SqlJobs.create_ok
  markRunning_claimed := SqlJobs.markRunning_claimed
  markRunning_refused := SqlJobs.markRunning_refused
  transition_ok := SqlJobs.transition_ok
  transition_missing _ _ _ _ _ hnone := by rw [SqlJobs.transition, SqlJobs.findRow_of_view_none hnone]
  appendEvent_ok := SqlJobs.appendEvent_ok
  appendEvent_missing _ _ _ hnone := by rw [SqlJobs.appendEvent, SqlJobs.findRow_of_view_none hnone]
  setDispatchId_view := SqlJobs.setDispatchId_view
  requestCancel_ok := SqlJobs.requestCancel_ok
  requestCancel_missing _ hnone := by rw [SqlJobs.requestCancel, SqlJobs.findRow_of_view_none hnone]
  unlockedCancel_view h := by cases h

end SharedIntegration

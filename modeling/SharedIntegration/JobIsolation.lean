import SharedIntegration.TenantParts

/-!
# Tenants of the job repository

Calls of the relational job repository against two databases that agree off one tenant.
-/

namespace SharedIntegration

open Relational

namespace Isolation

variable {removed : String} {core : CoreLibrary} {db db' : Database} {m : Moment} {key : JobKey}

/-- The tenant has a row. -/
def Stored (db : Database) (tenantId : String) : Prop := ∃ row ∈ db.tenants.rows, row.id = tenantId

/-- A tenant that has a row needs no default row. -/
theorem ensureTenant_stored {tenantId : String} (h : Stored db tenantId) (now : Instant) :
    SqlJobs.ensureTenant db.tenants tenantId now = some db.tenants := by
  unfold SqlJobs.ensureTenant
  split
  · rfl
  · next hnone =>
    obtain ⟨row, hrow, hid⟩ := h
    have hmissed := (Table.find_eq_none_iff _ _).mp hnone row hrow
    exact absurd hid (of_decide_eq_false hmissed)

/-- The tables after the transaction of `create`. -/
def withJob (core : CoreLibrary) (db : Database) (m : Moment) (tenantId : String) (source : FindingSource)
    (jobTables : JobTables JobRow) : Database :=
  SqlJobs.audit { db with
      jobTables := jobTables.appendEvent ⟨tenantId, "job_" ++ m.uuid⟩ "status"
        (statusPayload .queued none none) m.now }
    tenantId "job.created" "job" (some ("job_" ++ m.uuid))
    (.obj [("source", .str (core.sourceValue source)), ("queue", .str (SqlJobs.queues source))]) m.now

/-- The row that `create` inserts. -/
def newRow (m : Moment) (tenantId : String) (source : FindingSource) (payload : Document)
    (idempotencyKey : Option String) : JobRow :=
  ⟨.created ⟨tenantId, "job_" ++ m.uuid⟩ source payload idempotencyKey m.now, SqlJobs.queues source⟩

/-- `create` makes sure of the tenant, and then inserts a job and nothing else. -/
theorem insertJob_eq (core : CoreLibrary) (db : Database) (m : Moment) (tenantId : String) (source : FindingSource)
    (payload : Document) (idempotencyKey : Option String) :
    SqlJobs.insertJob core db m tenantId source payload idempotencyKey =
      (SqlJobs.ensureTenant db.tenants tenantId m.now).bind fun tenants =>
        (db.jobTables.insertRow (newRow m tenantId source payload idempotencyKey)).map
          (withJob core { db with tenants } m tenantId source) := by
  unfold SqlJobs.insertJob
  cases SqlJobs.ensureTenant db.tenants tenantId m.now with
  | none => rfl
  | some tenants =>
    rw [Option.bind_some, Option.map_eq_bind]
    rfl

/-- For a tenant that has a row, `create` inserts a job and nothing else. -/
theorem insertJob_stored {tenantId : String} (h : Stored db tenantId) (source : FindingSource)
    (payload : Document) (idempotencyKey : Option String) :
    SqlJobs.insertJob core db m tenantId source payload idempotencyKey =
      (db.jobTables.insertRow (newRow m tenantId source payload idempotencyKey)).map
        (withJob core db m tenantId source) := by
  rw [insertJob_eq, ensureTenant_stored h]
  rfl

/-- The tables of everything but jobs are the same. -/
structure JobsOnly (db db' : Database) : Prop where
  tenants : db'.tenants = db.tenants
  findings : db'.findings = db.findings
  findingSequence : db'.findingSequence = db.findingSequence
  correlations : db'.correlations = db.correlations
  correlationFindings : db'.correlationFindings = db.correlationFindings

/-- Nothing changed. -/
theorem JobsOnly.refl (db : Database) : JobsOnly db db := ⟨rfl, rfl, rfl, rfl, rfl⟩

/-- The database that an outcome leaves. -/
theorem outcome_fst {Store Value : Type} {w : Store} {wrap : Value → RepositoryResult}
    {result : Except RepositoryError (Store × Value)} {P : Store → Prop} (hw : P w)
    (hok : ∀ w' value, result = .ok (w', value) → P w') : P (outcome w wrap result).1 := by
  cases result with
  | ok pair => exact hok pair.1 pair.2 rfl
  | error error => exact hw

/-- What `required` leaves. -/
theorem required_eq_ok {db₁ : Database} {record : JobRecord} (h : SqlJobs.required db key = .ok (db₁, record)) :
    db₁ = db := by
  unfold SqlJobs.required at h
  split at h
  · cases h
    rfl
  · cases h

/-- What a call of the repository does to the job tables: nothing, a change of one job of its tenant with
or without an event, an event, or a new job with its first event. -/
inductive JobWrite (m : Moment) (tenantId : String) (tables : JobTables JobRow) : JobTables JobRow → Prop
  | none : JobWrite m tenantId tables tables
  | update (key : JobKey) (hkey : key.tenantId = tenantId) (condition : JobRecord → Bool)
    (change : JobRecord → JobRecord) (hchange : KeepsIdentity change) :
    JobWrite m tenantId tables (tables.updateJob key condition change hchange)
  | updateAppend (key : JobKey) (hkey : key.tenantId = tenantId) (condition : JobRecord → Bool)
    (change : JobRecord → JobRecord) (hchange : KeepsIdentity change) (kind : String) (payload : Document) :
    JobWrite m tenantId tables ((tables.updateJob key condition change hchange).appendEvent key kind payload m.now)
  | append (key : JobKey) (hkey : key.tenantId = tenantId) (kind : String) (payload : Document) :
    JobWrite m tenantId tables (tables.appendEvent key kind payload m.now)
  | create (row : JobRow) (inserted : JobTables JobRow) (hrow : row.tenantId = tenantId)
    (hid : row.id = "job_" ++ m.uuid) (hinsert : tables.insertRow row = some inserted) (kind : String)
    (payload : Document) :
    JobWrite m tenantId tables (inserted.appendEvent ⟨tenantId, "job_" ++ m.uuid⟩ kind payload m.now)

/-- A write for a tenant that leaves all other tables alone. -/
def Writes (m : Moment) (tenantId : String) (db db₁ : Database) : Prop :=
  JobWrite m tenantId db.jobTables db₁.jobTables ∧ JobsOnly db db₁

/-- A call that only reads. -/
theorem Writes.refl (m : Moment) (tenantId : String) (db : Database) : Writes m tenantId db db :=
  ⟨.none, JobsOnly.refl db⟩

/-- Such a write, after the tenant was given a row if it had none. -/
def Ensures (m : Moment) (tenantId : String) (db db₁ : Database) : Prop :=
  ∃ tenants, (tenants = db.tenants ∨ SqlJobs.ensureTenant db.tenants tenantId m.now = some tenants) ∧
    Writes m tenantId { db with tenants } db₁

/-- A write that needs no tenant. -/
theorem Ensures.of_writes {tenantId : String} {db₁ : Database} (h : Writes m tenantId db db₁) :
    Ensures m tenantId db db₁ := ⟨db.tenants, Or.inl rfl, h⟩

/-- A call that makes sure of no tenant is a write. -/
theorem perform_writes (call : RepositoryCall) (hensured : call.ensured = none) :
    Writes m call.tenantId db ((SqlJobs.queried core).perform db m call).1 := by
  cases call with
  | create tenantId source payload idempotencyKey => cases hensured
  | get key => exact Writes.refl m key.tenantId db
  | listJobs tenantId status source limit => exact Writes.refl m tenantId db
  | findByIdempotencyKey tenantId idempotencyKey => exact Writes.refl m tenantId db
  | markRunning key requireQueued =>
    change Writes m key.tenantId db (SqlJobs.markRunning db m key requireQueued).1
    unfold SqlJobs.markRunning
    split
    · exact ⟨.updateAppend key rfl _ _ (startAttempt_keeps m.now) _ _, ⟨rfl, rfl, rfl, rfl, rfl⟩⟩
    · exact Writes.refl m key.tenantId db
  | transition key status resultCount errorCode errorMessage =>
    refine outcome_fst (P := Writes m key.tenantId db) (Writes.refl m key.tenantId db) ?_
    intro db₁ value h
    replace h : SqlJobs.transition db m key status resultCount errorCode errorMessage = .ok (db₁, value) := h
    unfold SqlJobs.transition at h
    split at h
    · cases h
    · rw [required_eq_ok h]
      exact ⟨.updateAppend key rfl _ _ (writeStatus_keeps m.now status resultCount errorCode errorMessage) _ _,
        ⟨rfl, rfl, rfl, rfl, rfl⟩⟩
  | appendEvent key kind payload =>
    refine outcome_fst (P := Writes m key.tenantId db) (Writes.refl m key.tenantId db) ?_
    intro db₁ value h
    replace h : SqlJobs.appendEvent db m key kind payload = .ok (db₁, value) := h
    unfold SqlJobs.appendEvent at h
    split at h
    · cases h
    · cases h
      exact ⟨.append key rfl kind payload, ⟨rfl, rfl, rfl, rfl, rfl⟩⟩
  | listEvents key afterSequence limit => exact Writes.refl m key.tenantId db
  | setDispatchId key dispatchId =>
    exact ⟨.update key rfl (fun _ => true) _ (recordDispatch_keeps m.now dispatchId), ⟨rfl, rfl, rfl, rfl, rfl⟩⟩
  | requestCancel key =>
    refine outcome_fst (P := Writes m key.tenantId db) (Writes.refl m key.tenantId db) ?_
    intro db₁ value h
    replace h : SqlJobs.requestCancel db m key = .ok (db₁, value) := h
    unfold SqlJobs.requestCancel at h
    split at h
    · cases h
    · next row hrow =>
      split at h
      · cases h
        exact Writes.refl _ _ _
      · rw [required_eq_ok h]
        exact ⟨.updateAppend key rfl _ _ (flagCancel_keeps m.now row.status) _ _, ⟨rfl, rfl, rfl, rfl, rfl⟩⟩

/-- Every call is such a write. -/
theorem perform_ensures (call : RepositoryCall) :
    Ensures m call.tenantId db ((SqlJobs.queried core).perform db m call).1 := by
  cases call with
  | create tenantId source payload idempotencyKey =>
    refine outcome_fst (P := Ensures m tenantId db) (Ensures.of_writes (Writes.refl m tenantId db)) ?_
    intro db₁ value h
    replace h : SqlJobs.create core db m tenantId source payload idempotencyKey = .ok (db₁, value) := h
    unfold SqlJobs.create at h
    rw [insertJob_eq] at h
    split at h
    · cases h
      exact Ensures.of_writes (Writes.refl _ _ _)
    · split at h
      · next hinsert =>
        obtain ⟨tenants, hensure, hinsert⟩ := Option.bind_eq_some_iff.mp hinsert
        obtain ⟨inserted, hrow, rfl⟩ := Option.map_eq_some_iff.mp hinsert
        split at h
        · cases h
          exact ⟨tenants, Or.inr hensure, .create _ inserted rfl rfl hrow _ _, ⟨rfl, rfl, rfl, rfl, rfl⟩⟩
        · cases h
      · split at h
        · cases h
          exact Ensures.of_writes (Writes.refl _ _ _)
        · cases h
  | _ => exact Ensures.of_writes (perform_writes _ rfl)

/-- For a tenant that has a row, every call is a write. -/
theorem perform_write (call : RepositoryCall) (hstored : Stored db call.tenantId) :
    Writes m call.tenantId db ((SqlJobs.queried core).perform db m call).1 := by
  obtain ⟨tenants, hsame | hensured, hwrites⟩ := @perform_ensures core db m call
  · rw [hsame] at hwrites
    exact hwrites
  · rw [ensureTenant_stored hstored, Option.some.injEq] at hensured
    rw [← hensured] at hwrites
    exact hwrites

/-- A write for the tenant keeps the agreement. -/
theorem JobWrite.outside {tables tables₁ tables' : JobTables JobRow} (h : JobWrite m removed tables tables₁)
    (hagree : JobsAgree removed tables tables') : JobsAgree removed tables₁ tables' := by
  cases h with
  | none => exact hagree
  | update key hkey condition change hchange => exact hagree.updateJob_outside hkey condition hchange
  | updateAppend key hkey condition change hchange kind payload =>
    exact (hagree.updateJob_outside hkey condition hchange).appendEvent_outside hkey kind payload m.now
  | append key hkey kind payload => exact hagree.appendEvent_outside hkey kind payload m.now
  | create row inserted hrow hid hinsert kind payload =>
    exact (hagree.insertRow_outside hrow hinsert).appendEvent_outside rfl kind payload m.now

/-- A write adds at most one job, under the id that was drawn. -/
theorem JobWrite.ids {tenantId : String} {tables tables₁ : JobTables JobRow}
    (h : JobWrite m tenantId tables tables₁) :
    ∀ row ∈ tables₁.jobs.rows, (∃ old ∈ tables.jobs.rows, old.id = row.id) ∨ row.id = "job_" ++ m.uuid := by
  have hupdate : ∀ (key : JobKey) (condition : JobRecord → Bool) (change : JobRecord → JobRecord)
      (hchange : KeepsIdentity change), ∀ row ∈ (tables.updateJob key condition change hchange).jobs.rows,
        ∃ old ∈ tables.jobs.rows, old.id = row.id := by
    intro key condition change hchange row hrow
    obtain ⟨old, hold, rfl⟩ := List.mem_map.mp hrow
    refine ⟨old, hold, ?_⟩
    split
    · exact (hchange.id old.toJobRecord).symm
    · rfl
  cases h with
  | none => exact fun row hrow => Or.inl ⟨row, hrow, rfl⟩
  | update key hkey condition change hchange =>
    exact fun row hrow => Or.inl (hupdate key condition change hchange row hrow)
  | updateAppend key hkey condition change hchange kind payload =>
    intro row hrow
    rw [(appendEvent_rows _ key kind payload m.now).1] at hrow
    exact Or.inl (hupdate key condition change hchange row hrow)
  | append key hkey kind payload =>
    intro row hrow
    rw [(appendEvent_rows tables key kind payload m.now).1] at hrow
    exact Or.inl ⟨row, hrow, rfl⟩
  | create new inserted hnew hid hinsert kind payload =>
    intro row hrow
    rw [(appendEvent_rows inserted _ kind payload m.now).1] at hrow
    unfold JobTables.insertRow at hinsert
    split at hinsert
    · cases hinsert
      rcases List.mem_append.mp hrow with hold | hlast
      · exact Or.inl ⟨row, hold, rfl⟩
      · rw [List.mem_singleton.mp hlast]
        exact Or.inr hid
    · cases hinsert

/-- The same result, and databases that agree. -/
def JobsAlike (removed : String) (done done' : Database × RepositoryResult) : Prop :=
  done.2 = done'.2 ∧ JobsAgree removed done.1.jobTables done'.1.jobTables

/-- A write followed by reloading the job does the same in both databases. -/
theorem required_alike (h : JobsAgree removed db.jobTables db'.jobTables) {before before' : Database}
    (hbefore : JobsAgree removed before.jobTables before'.jobTables) (hkey : key.tenantId ≠ removed) :
    JobsAlike removed (outcome before .record (SqlJobs.required db key))
      (outcome before' .record (SqlJobs.required db' key)) := by
  have hget : SqlJobs.get db key = SqlJobs.get db' key := congrArg (Option.map JobView.record) (h.view_eq hkey)
  unfold SqlJobs.required
  rw [hget]
  split
  · exact ⟨rfl, h⟩
  · exact ⟨rfl, hbefore⟩

/-- Updating a job of another tenant and appending an event to it does the same in both databases. -/
theorem JobsAgree.updateAppend {tables tables' : JobTables JobRow} (h : JobsAgree removed tables tables')
    (hkey : key.tenantId ≠ removed) (condition : JobRecord → Bool) {change : JobRecord → JobRecord}
    (hchange : KeepsIdentity change) (kind : String) (payload : Document) (now : Instant) :
    JobsAgree removed ((tables.updateJob key condition change hchange).appendEvent key kind payload now)
      ((tables'.updateJob key condition change hchange).appendEvent key kind payload now) :=
  (h.updateJob key condition hchange).appendEvent hkey kind payload now

/-- A job of another tenant is read alike. -/
theorem get_eq (h : JobsAgree removed db.jobTables db'.jobTables) (hkey : key.tenantId ≠ removed) :
    SqlJobs.get db key = SqlJobs.get db' key := congrArg (Option.map JobView.record) (h.view_eq hkey)

/-- A job of another tenant is found by its idempotency key alike. -/
theorem findByIdempotencyKey_eq (h : JobsAgree removed db.jobTables db'.jobTables) {tenantId : String}
    (htenant : tenantId ≠ removed) (idempotencyKey : String) :
    SqlJobs.findByIdempotencyKey db tenantId idempotencyKey =
      SqlJobs.findByIdempotencyKey db' tenantId idempotencyKey := by
  apply congrArg (Option.map JobRow.toJobRecord)
  apply h.find_eq
  intro row hrow
  rw [decide_eq_true_eq] at hrow
  exact fun hremoved => htenant (hrow.1.symm.trans hremoved)

/-- `create` for another tenant. -/
theorem create_alike (h : JobsAgree removed db.jobTables db'.jobTables) {tenantId : String}
    (htenant : tenantId ≠ removed) (hstored : Stored db tenantId) (hstored' : Stored db' tenantId)
    (hnew : ∀ old ∈ db.jobTables.jobs.rows, old.id ≠ "job_" ++ m.uuid)
    (hnew' : ∀ old ∈ db'.jobTables.jobs.rows, old.id ≠ "job_" ++ m.uuid) (source : FindingSource)
    (payload : Document) (idempotencyKey : Option String) (wrap : JobRecord × Bool → RepositoryResult) :
    JobsAlike removed (outcome db wrap (SqlJobs.create core db m tenantId source payload idempotencyKey))
      (outcome db' wrap (SqlJobs.create core db' m tenantId source payload idempotencyKey)) := by
  have hfind : idempotencyKey.bind (SqlJobs.findByIdempotencyKey db tenantId) =
      idempotencyKey.bind (SqlJobs.findByIdempotencyKey db' tenantId) := by
    congr 1
    funext text
    exact findByIdempotencyKey_eq h htenant text
  unfold SqlJobs.create
  rw [hfind, insertJob_stored hstored, insertJob_stored hstored']
  cases idempotencyKey.bind (SqlJobs.findByIdempotencyKey db' tenantId) with
  | some existing => exact ⟨rfl, h⟩
  | none =>
    obtain ⟨hnone, hnone'⟩ | ⟨inserted, inserted', hinsert, hinsert', hagree⟩ :=
      @JobsAgree.insertRow removed _ _ h (newRow m tenantId source payload idempotencyKey) htenant hnew hnew'
    · rw [hnone, hnone']
      exact ⟨rfl, h⟩
    · have hkey : (JobKey.mk tenantId ("job_" ++ m.uuid)).tenantId ≠ removed := htenant
      have hafter : JobsAgree removed (withJob core db m tenantId source inserted).jobTables
          (withJob core db' m tenantId source inserted').jobTables :=
        hagree.appendEvent hkey "status" (statusPayload .queued none none) m.now
      rw [hinsert, hinsert', Option.map_some, Option.map_some]
      dsimp only
      rw [get_eq hafter hkey]
      split
      · exact ⟨rfl, hafter⟩
      · exact ⟨rfl, h⟩

/-- `mark_running` for another tenant. -/
theorem markRunning_alike (h : JobsAgree removed db.jobTables db'.jobTables) (hkey : key.tenantId ≠ removed)
    (requireQueued : Bool) :
    (SqlJobs.markRunning db m key requireQueued).2 = (SqlJobs.markRunning db' m key requireQueued).2 ∧
      JobsAgree removed (SqlJobs.markRunning db m key requireQueued).1.jobTables
        (SqlJobs.markRunning db' m key requireQueued).1.jobTables := by
  have hcount : db.jobTables.rowcount key (JobView.claimable requireQueued) =
      db'.jobTables.rowcount key (JobView.claimable requireQueued) := by
    rw [JobTables.rowcount_eq, JobTables.rowcount_eq, h.view_eq hkey]
  have hafter := h.updateAppend hkey (JobView.claimable requireQueued) (startAttempt_keeps m.now) "status"
    (statusPayload .running none none) m.now
  unfold SqlJobs.markRunning
  rw [hcount]
  split
  · exact ⟨congrArg (Option.map JobView.record) (hafter.view_eq hkey), hafter⟩
  · exact ⟨rfl, h⟩

/-- `transition` for another tenant. -/
theorem transition_alike (h : JobsAgree removed db.jobTables db'.jobTables) (hkey : key.tenantId ≠ removed)
    (status : JobStatus) (resultCount : Option ℕ) (errorCode errorMessage : Option String) :
    JobsAlike removed
      (outcome db .record (SqlJobs.transition db m key status resultCount errorCode errorMessage))
      (outcome db' .record (SqlJobs.transition db' m key status resultCount errorCode errorMessage)) := by
  have hafter := h.updateAppend hkey (fun _ => true)
    (writeStatus_keeps m.now status resultCount errorCode errorMessage) "status"
    (statusPayload status errorCode errorMessage) m.now
  unfold SqlJobs.transition
  rw [h.findRow_eq hkey]
  split
  · exact ⟨rfl, h⟩
  · exact required_alike hafter h hkey

/-- `request_cancel` for another tenant. -/
theorem requestCancel_alike (h : JobsAgree removed db.jobTables db'.jobTables) (hkey : key.tenantId ≠ removed) :
    JobsAlike removed (outcome db .record (SqlJobs.requestCancel db m key))
      (outcome db' .record (SqlJobs.requestCancel db' m key)) := by
  unfold SqlJobs.requestCancel
  rw [h.findRow_eq hkey]
  split
  · exact ⟨rfl, h⟩
  · next row hrow =>
    have hafter := h.updateAppend hkey (fun _ => true) (flagCancel_keeps m.now row.status) "cancel_requested"
      (statusPayload (JobRecord.cancelStatus row.status) none none) m.now
    split
    · exact ⟨rfl, h⟩
    · exact required_alike hafter h hkey

/-- `append_event` for another tenant. -/
theorem appendEvent_alike (h : JobsAgree removed db.jobTables db'.jobTables) (hkey : key.tenantId ≠ removed)
    (kind : String) (payload : Document) :
    JobsAlike removed (outcome db .event (SqlJobs.appendEvent db m key kind payload))
      (outcome db' .event (SqlJobs.appendEvent db' m key kind payload)) := by
  unfold SqlJobs.appendEvent
  rw [h.findRow_eq hkey, h.nextEvent_eq hkey]
  split
  · exact ⟨rfl, h⟩
  · exact ⟨rfl, h.appendEvent hkey kind payload m.now⟩

/-- `list_jobs` for another tenant. -/
theorem listJobs_eq (h : JobsAgree removed db.jobTables db'.jobTables) {tenantId : String}
    (htenant : tenantId ≠ removed) (status : Option JobStatus) (source : Option FindingSource) (limit : ℕ) :
    SqlJobs.listJobs db tenantId status source limit = SqlJobs.listJobs db' tenantId status source limit := by
  unfold SqlJobs.listJobs
  rw [h.jobs.select_same]
  intro row hrow
  simp only [listed, Bool.and_eq_true, decide_eq_true_eq] at hrow
  exact decide_eq_true fun hremoved => htenant (hrow.1.1.symm.trans hremoved)

/-- A call for another tenant returns the same in both databases and keeps the agreement. -/
theorem perform_alike (call : RepositoryCall) (h : JobsAgree removed db.jobTables db'.jobTables)
    (htenant : call.tenantId ≠ removed) (hstored : Stored db call.tenantId) (hstored' : Stored db' call.tenantId)
    (hnew : ∀ old ∈ db.jobTables.jobs.rows, old.id ≠ "job_" ++ m.uuid)
    (hnew' : ∀ old ∈ db'.jobTables.jobs.rows, old.id ≠ "job_" ++ m.uuid) :
    JobsAlike removed ((SqlJobs.queried core).perform db m call) ((SqlJobs.queried core).perform db' m call) := by
  cases call with
  | create tenantId source payload idempotencyKey =>
    exact create_alike h htenant hstored hstored' hnew hnew' source payload idempotencyKey _
  | get key => exact ⟨congrArg RepositoryResult.optional (get_eq h htenant), h⟩
  | listJobs tenantId status source limit =>
    exact ⟨congrArg RepositoryResult.records (listJobs_eq h htenant status source limit), h⟩
  | findByIdempotencyKey tenantId idempotencyKey =>
    exact ⟨congrArg RepositoryResult.optional (findByIdempotencyKey_eq h htenant idempotencyKey), h⟩
  | markRunning key requireQueued =>
    obtain ⟨hresult, hafter⟩ := markRunning_alike h htenant requireQueued
    exact ⟨congrArg RepositoryResult.optional hresult, hafter⟩
  | transition key status resultCount errorCode errorMessage =>
    exact transition_alike h htenant status resultCount errorCode errorMessage
  | appendEvent key kind payload => exact appendEvent_alike h htenant kind payload
  | listEvents key afterSequence limit =>
    have hlog : db.jobTables.jobLog key = db'.jobTables.jobLog key := by
      rw [JobTables.jobLog, JobTables.jobLog, h.events_eq htenant]
    refine ⟨congrArg RepositoryResult.events ?_, h⟩
    change SqlJobs.listEvents db key afterSequence.toNat limit = SqlJobs.listEvents db' key afterSequence.toNat limit
    rw [SqlJobs.listEvents, SqlJobs.listEvents, hlog]
  | setDispatchId key dispatchId =>
    exact ⟨rfl, h.updateJob key (fun _ => true) (recordDispatch_keeps m.now dispatchId)⟩
  | requestCancel key => exact requestCancel_alike h htenant

end Isolation

end SharedIntegration

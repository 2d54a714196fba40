import SharedIntegration.Library.ForeignKeys
import SharedIntegration.MigrationReruns

/-!
# Foreign keys of the stores

The foreign keys of jobs, events, findings, correlations, links and audit events, which the database enforces
and the operations of the model do not check. Every call of a store keeps them: before it writes a row, it has
read or inserted each row that the new one refers to, and no call deletes a row.
-/

namespace SharedIntegration

open Relational FindingLifecycle Isolation

/-- The foreign keys of jobs, events, findings, correlations and audit events. -/
structure Database.ForeignKeys (db : Database) : Prop where
  jobTenants : Refers (fun row : JobRow => some row.tenantId) TenantRow.id db.jobTables.jobs.rows db.tenants.rows
  eventJobs : Refers (fun event : JobEvent => some event.key) (fun row : JobRow => row.key) db.jobTables.events.rows
    db.jobTables.jobs.rows
  findingTenants : Refers (fun row : FindingRow => some row.tenantId) TenantRow.id db.findings.rows db.tenants.rows
  correlationTenants : Refers (fun row : CorrelationRow => some row.tenantId) TenantRow.id db.correlations.rows
    db.tenants.rows
  linkCorrelations : Refers (fun link : CorrelationFindingRow => some (link.tenantId, link.correlationId))
    (fun row : CorrelationRow => (row.tenantId, row.id)) db.correlationFindings.rows db.correlations.rows
  auditTenants : Refers (fun event : AuditEventRow => some event.tenantId) TenantRow.id db.auditEvents db.tenants.rows

/-! ### Tables that change -/

namespace Database.ForeignKeys

variable {core : CoreLibrary} {text : TextLibrary} {db db' : Database} {m : Moment} {tenantId : String} {key : JobKey}

/-- A freshly migrated database. -/
theorem empty : Database.empty.ForeignKeys :=
  ⟨Refers.nil, Refers.nil, Refers.nil, Refers.nil, Refers.nil, Refers.nil⟩

/-- A stored tenant can be referred to. -/
theorem tenant_of_stored (hstored : Isolation.Stored db tenantId) : ∀ id ∈ some tenantId, ∃ row ∈ db.tenants.rows, row.id = id := by
  rintro id ⟨⟩
  exact hstored

/-- Tenants that keep their ids. -/
theorem withTenants (h : db.ForeignKeys) {tenants : Table TenantRow TenantRow.Conflict}
    (hkept : KeysKept TenantRow.id db.tenants.rows tenants.rows) : { db with tenants }.ForeignKeys where
  jobTenants := h.jobTenants.kept hkept
  eventJobs := h.eventJobs
  findingTenants := h.findingTenants.kept hkept
  correlationTenants := h.correlationTenants.kept hkept
  linkCorrelations := h.linkCorrelations
  auditTenants := h.auditTenants.kept hkept

/-- Other job tables, whose jobs refer to tenants. -/
theorem withJobTables (h : db.ForeignKeys) {jobTables : JobTables JobRow}
    (hjobs : Refers (fun row : JobRow => some row.tenantId) TenantRow.id jobTables.jobs.rows db.tenants.rows) :
    { db with jobTables }.ForeignKeys :=
  { h with
    jobTenants := hjobs
    eventJobs := by
      rintro event hevent key ⟨⟩
      exact jobTables.owned event hevent }

/-- Other findings, which refer to tenants. -/
theorem withFindings (h : db.ForeignKeys) {findings : Table FindingRow FindingRow.Conflict} {findingSequence : ℕ}
    (hfindings : Refers (fun row : FindingRow => some row.tenantId) TenantRow.id findings.rows db.tenants.rows) :
    { db with findings, findingSequence }.ForeignKeys :=
  { h with findingTenants := hfindings }

/-- An audit event of a stored tenant. -/
theorem withAudit (h : db.ForeignKeys) {event : AuditEventRow} (hstored : Isolation.Stored db event.tenantId) :
    { db with auditEvents := db.auditEvents ++ [event] }.ForeignKeys :=
  { h with auditTenants := h.auditTenants.concat (tenant_of_stored hstored) }

/-- `_ensure_tenant`. -/
theorem ensureTenant (h : db.ForeignKeys) {tenants : Table TenantRow TenantRow.Conflict} {now : Instant}
    (hensure : SqlJobs.ensureTenant db.tenants tenantId now = some tenants) :
    { db with tenants }.ForeignKeys ∧ Isolation.Stored { db with tenants } tenantId :=
  ⟨h.withTenants (KeysKept.of_subset (ensureTenant_eq_some hensure).1), (ensureTenant_eq_some hensure).2⟩

/-- The tenant of a stored job. -/
theorem stored_of_job (h : db.ForeignKeys) {row : JobRow} (hrow : db.jobTables.findRow key = some row) :
    Isolation.Stored db key.tenantId := by
  have hmem : row ∈ db.jobTables.jobs.rows := (Table.find_eq_some hrow).1
  have hkey : row.tenantId = key.tenantId := congrArg JobKey.tenantId (JobTables.findRow_key hrow)
  exact hkey ▸ h.jobTenants row hmem _ rfl

/-- An update of a job and an event of it. -/
theorem updateJob (h : db.ForeignKeys) (key : JobKey) (condition : JobRecord → Bool)
    {change : JobRecord → JobRecord} (hchange : KeepsIdentity change) (kind : String) (payload : Document)
    (now : Instant) :
    { db with jobTables :=
      (db.jobTables.updateJob key condition change hchange).appendEvent key kind payload now }.ForeignKeys := by
  apply h.withJobTables
  rw [(appendEvent_rows _ key kind payload now).1]
  exact h.jobTenants.update _ hchange.keepsKeys fun row =>
    congrArg (fun key : JobKey => some key.tenantId) (hchange.key row.toJobRecord)

/-! ### Calls of the job repository -/

/-- `create`. -/
theorem create (h : db.ForeignKeys) {source : FindingSource} {payload : Document} {idempotencyKey : Option String}
    {value : JobRecord × Bool} (hcreate : SqlJobs.create core db m tenantId source payload idempotencyKey = .ok (db', value)) :
    db'.ForeignKeys := by
  unfold SqlJobs.create at hcreate
  split at hcreate
  · cases hcreate
    exact h
  · split at hcreate
    · next inserted hinsert =>
      simp only [SqlJobs.insertJob, Option.bind_eq_bind, Option.bind_eq_some_iff, Option.some.injEq] at hinsert
      obtain ⟨tenants, hensure, jobTables, hrow, rfl⟩ := hinsert
      split at hcreate
      · cases hcreate
        obtain ⟨htenants, hstored⟩ := h.ensureTenant hensure
        have hjobs : Refers (fun row : JobRow => some row.tenantId) TenantRow.id
            (jobTables.appendEvent ⟨tenantId, "job_" ++ m.uuid⟩ "status" (statusPayload .queued none none) m.now).jobs.rows
            tenants.rows := by
          rw [(appendEvent_rows jobTables _ _ _ m.now).1, (insertRow_kept hrow).1]
          exact htenants.jobTenants.concat (tenant_of_stored hstored)
        exact (htenants.withJobTables hjobs).withAudit hstored
      · cases hcreate
    · split at hcreate
      · cases hcreate
        exact h
      · cases hcreate

/-- `transition`. -/
theorem transition (h : db.ForeignKeys) {status : JobStatus} {resultCount : Option ℕ}
    {errorCode errorMessage : Option String} {record : JobRecord}
    (htransition : SqlJobs.transition db m key status resultCount errorCode errorMessage = .ok (db', record)) :
    db'.ForeignKeys := by
  unfold SqlJobs.transition at htransition
  split at htransition
  · cases htransition
  · next row hrow =>
    rw [required_eq_ok htransition]
    exact (h.updateJob ..).withAudit (h.stored_of_job hrow)

/-- `request_cancel`. -/
theorem requestCancel (h : db.ForeignKeys) {record : JobRecord}
    (hcancel : SqlJobs.requestCancel db m key = .ok (db', record)) : db'.ForeignKeys := by
  unfold SqlJobs.requestCancel at hcancel
  split at hcancel
  · cases hcancel
  · next row hrow =>
    split at hcancel
    · cases hcancel
      exact h
    · rw [required_eq_ok hcancel]
      exact (h.updateJob ..).withAudit (h.stored_of_job hrow)

/-- A call of the job repository. -/
theorem jobs_call (h : db.ForeignKeys) (call : RepositoryCall) :
    ((SqlJobs.queried core).perform db m call).1.ForeignKeys := by
  cases call with
  | create tenantId source payload idempotencyKey =>
    exact outcome_fst (P := Database.ForeignKeys) h fun after value hcreate => h.create hcreate
  | get | listJobs | findByIdempotencyKey | listEvents => exact h
  | markRunning key requireQueued =>
    change (SqlJobs.markRunning db m key requireQueued).1.ForeignKeys
    unfold SqlJobs.markRunning
    split
    · exact h.updateJob ..
    · exact h
  | transition key status resultCount errorCode errorMessage =>
    exact outcome_fst (P := Database.ForeignKeys) h fun after value htransition => h.transition htransition
  | appendEvent key kind payload =>
    refine outcome_fst (P := Database.ForeignKeys) h fun after value happend => ?_
    replace happend : SqlJobs.appendEvent db m key kind payload = .ok (after, value) := happend
    unfold SqlJobs.appendEvent at happend
    split at happend
    · cases happend
    · cases happend
      apply h.withJobTables
      rw [(appendEvent_rows _ key kind payload m.now).1]
      exact h.jobTenants
  | setDispatchId key dispatchId =>
    apply h.withJobTables
    exact h.jobTenants.update _ (recordDispatch_keeps m.now dispatchId).keepsKeys fun _ => rfl
  | requestCancel key =>
    exact outcome_fst (P := Database.ForeignKeys) h fun after value hcancel => h.requestCancel hcancel

/-! ### Calls of the finding registry -/

/-- Changing the row of a fingerprint. -/
theorem updateFingerprint (h : db.ForeignKeys) (tenantId fingerprint : String) {change : FindingRow → FindingRow}
    (hkeys : KeepsKeys FindingRow.Conflict change) (hchange : ∀ row, (change row).tenantId = row.tenantId) :
    { db with findings :=
      FindingLifecycle.updateFingerprint db.findings tenantId fingerprint change hkeys }.ForeignKeys :=
  h.withFindings (h.findingTenants.update _ hkeys fun row => congrArg some (hchange row))

/-- `add_for_job`. -/
theorem addForJob (h : db.ForeignKeys) (tenantId : String) (finding : Finding) (jobId : Option String) :
    (FindingLifecycle.addForJob core text db m tenantId finding jobId).1.ForeignKeys := by
  unfold FindingLifecycle.addForJob
  split
  · next after hstore =>
    rcases storeFinding_eq_some hstore with hlocked | ⟨-, hlost⟩
    · obtain ⟨tenants, hensure, ⟨-, findings, hinsert, rfl⟩ | ⟨row, -, rfl⟩⟩ := storeLocked_cases hlocked
      · obtain ⟨htenants, hstored⟩ := h.ensureTenant hensure
        exact htenants.withFindings (htenants.findingTenants.insert (tenant_of_stored hstored) hinsert)
      · obtain ⟨htenants, -⟩ := h.ensureTenant hensure
        exact htenants.updateFingerprint tenantId _ _ fun _ => rfl
    · obtain ⟨row, -, rfl⟩ := storeLost_cases hlost
      exact h.updateFingerprint tenantId _ _ fun _ => rfl
  · exact h

/-- `add_correlation`. -/
theorem addCorrelation (h : db.ForeignKeys) (tenantId : String) (correlation : Correlation) :
    (FindingLifecycle.addCorrelation db m tenantId correlation).1.ForeignKeys := by
  unfold FindingLifecycle.addCorrelation
  split
  · next after hinsert =>
    obtain ⟨tenants, correlations, links, hensure, hrow, hlinks, rfl⟩ := insertCorrelation_eq_some hinsert
    obtain ⟨htenants, hstored⟩ := h.ensureTenant hensure
    have hcorrelation : ∀ key ∈ some (tenantId, "corr_" ++ m.uuid), ∃ row ∈ correlations.rows,
        (row.tenantId, row.id) = key := by
      rintro key ⟨⟩
      exact ⟨_, Migration.mem_of_insert hrow, rfl⟩
    have hkept : KeysKept (fun row : CorrelationRow => (row.tenantId, row.id)) db.correlations.rows correlations.rows :=
      KeysKept.of_insert hrow
    exact { htenants with
      correlationTenants := htenants.correlationTenants.insert (tenant_of_stored hstored) hrow
      linkCorrelations := (h.linkCorrelations.kept hkept).insertAll (fun _ => hcorrelation) hlinks }
  · exact h

/-- `update_lifecycle`. -/
theorem updateLifecycle (h : db.ForeignKeys) (tenantId findingId : String) (status : Option FindingStatus)
    (assignedTo : Option (Option String)) (actor : String) :
    (FindingLifecycle.updateLifecycle core db m tenantId findingId status assignedTo actor).1.ForeignKeys := by
  unfold FindingLifecycle.updateLifecycle
  split
  · exact h
  · next row hrow =>
    obtain ⟨hmem, hkey⟩ := Table.find_eq_some hrow
    have hstored : Isolation.Stored db tenantId := (of_decide_eq_true hkey).1 ▸ h.findingTenants row hmem _ rfl
    exact (h.withFindings (h.findingTenants.update _ (FindingRow.triage_keeps status assignedTo m.now)
      fun _ => rfl)).withAudit hstored

/-- A call of one of the stores. -/
theorem perform (h : db.ForeignKeys) (call : StoreCall) : (call.perform core text db m).1.ForeignKeys := by
  cases call with
  | jobs call => exact h.jobs_call call
  | findings tenantId call =>
    cases call with
    | addForJob finding jobId => exact h.addForJob tenantId finding jobId
    | addCorrelation correlation => exact h.addCorrelation tenantId correlation
    | updateLifecycle findingId status assignedTo actor =>
      exact h.updateLifecycle tenantId findingId status assignedTo actor
    | findings | correlations | query | listPage => exact h

end Database.ForeignKeys

/-- After any calls of the stores, made by any tenants in any order, each foreign key refers to a row that is there. -/
theorem foreign_keys_hold (core : CoreLibrary) (text : TextLibrary) (calls : List (StoreCall × Moment)) :
    (StoreCall.performAll core text .empty calls).ForeignKeys := by
  have hrun : ∀ db : Database, db.ForeignKeys → (StoreCall.performAll core text db calls).ForeignKeys := by
    induction calls with
    | nil => exact fun db hdb => hdb
    | cons made rest ih => exact fun db hdb => ih _ (hdb.perform made.1)
  exact hrun .empty .empty

end SharedIntegration

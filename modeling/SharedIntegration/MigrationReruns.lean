import SharedIntegration.Migration
import SharedIntegration.Storable

/-!
# Repeated imports

What makes the import skip a row is a key that is already there: the id of a tenant, the id and the tenant of a
job, the number of an event, the fingerprint of a finding, the id of a correlation. Neither a call of a repository
nor an import takes such a key away, so an import that has succeeded once finds every key of its source again.
-/

namespace SharedIntegration

open Relational Rerun Fallible FindingLifecycle Isolation

variable {core : CoreLibrary} {text : TextLibrary} {secrets : SecretLibrary} {db db' : Database}

/-! ### Keys that imports look up -/

/-- Every key that an import looks up is still there. -/
structure Kept (db db' : Database) : Prop where
  tenants : KeysKept TenantRow.id db.tenants.rows db'.tenants.rows
  jobs : KeysKept (fun row : JobRow => row.key) db.jobTables.jobs.rows db'.jobTables.jobs.rows
  events : KeysKept (fun event : JobEvent => (event.key, event.sequence)) db.jobTables.events.rows
    db'.jobTables.events.rows
  findings : KeysKept (fun row : FindingRow => (row.tenantId, row.fingerprint)) db.findings.rows db'.findings.rows
  correlations : KeysKept CorrelationRow.id db.correlations.rows db'.correlations.rows

namespace Kept

/-- Nothing happened. -/
theorem refl (db : Database) : Kept db db :=
  ⟨KeysKept.refl _ _, KeysKept.refl _ _, KeysKept.refl _ _, KeysKept.refl _ _, KeysKept.refl _ _⟩

/-- One change after another. -/
theorem trans {db'' : Database} (h : Kept db db') (h' : Kept db' db'') : Kept db db'' :=
  ⟨h.tenants.trans h'.tenants, h.jobs.trans h'.jobs, h.events.trans h'.events, h.findings.trans h'.findings,
    h.correlations.trans h'.correlations⟩

/-- Only the tenants have changed, and kept their ids. -/
theorem withTenants {tenants : Table TenantRow TenantRow.Conflict}
    (h : KeysKept TenantRow.id db.tenants.rows tenants.rows) : Kept db { db with tenants } :=
  { refl db with tenants := h }

/-- Only the job tables have changed, and kept their keys. -/
theorem withJobTables {jobTables : JobTables JobRow}
    (hjobs : KeysKept (fun row : JobRow => row.key) db.jobTables.jobs.rows jobTables.jobs.rows)
    (hevents : KeysKept (fun event : JobEvent => (event.key, event.sequence)) db.jobTables.events.rows
      jobTables.events.rows) : Kept db { db with jobTables } :=
  { refl db with jobs := hjobs, events := hevents }

/-- Only the findings have changed, and kept their fingerprints. -/
theorem withFindings {findings : Table FindingRow FindingRow.Conflict} {findingSequence : ℕ}
    (h : KeysKept (fun row : FindingRow => (row.tenantId, row.fingerprint)) db.findings.rows findings.rows) :
    Kept db { db with findings, findingSequence } :=
  { refl db with findings := h }

/-- Only correlations and their links have changed, and kept their ids. -/
theorem withCorrelations {correlations : Table CorrelationRow CorrelationRow.Conflict}
    {correlationFindings : Table CorrelationFindingRow CorrelationFindingRow.Conflict}
    (h : KeysKept CorrelationRow.id db.correlations.rows correlations.rows) :
    Kept db { db with correlations, correlationFindings } :=
  { refl db with correlations := h }

/-- Audit events are not looked up. -/
theorem withAudit {auditEvents : List AuditEventRow} (h : Kept db db') : Kept db { db' with auditEvents } :=
  ⟨h.tenants, h.jobs, h.events, h.findings, h.correlations⟩

end Kept

/-- `_ensure_tenant` keeps all keys. -/
theorem ensureTenant_kept {tenants : Table TenantRow TenantRow.Conflict} {tenantId : String} {now : Instant}
    (h : SqlJobs.ensureTenant db.tenants tenantId now = some tenants) : Kept db { db with tenants } :=
  Kept.withTenants (KeysKept.of_subset (ensureTenant_eq_some h).1)

/-! ### Calls of the repositories -/

/-- An update of a job keeps its key. -/
theorem updateJob_jobs_kept (tables : JobTables JobRow) (key : JobKey) (condition : JobRecord → Bool)
    (change : JobRecord → JobRecord) (hchange : KeepsIdentity change) :
    KeysKept (fun row : JobRow => row.key) tables.jobs.rows
      (tables.updateJob key condition change hchange).jobs.rows :=
  KeysKept.of_update _ _ hchange.keepsKeys fun row => hchange.key row.toJobRecord

/-- Appending an event keeps the keys of jobs and events. -/
theorem appendEvent_kept (tables : JobTables JobRow) (key : JobKey) (kind : String) (payload : Document)
    (now : Instant) : (tables.appendEvent key kind payload now).jobs.rows = tables.jobs.rows ∧
      KeysKept (fun event : JobEvent => (event.key, event.sequence)) tables.events.rows
        (tables.appendEvent key kind payload now).events.rows := by
  obtain ⟨hjobs, hevents⟩ := appendEvent_rows tables key kind payload now
  rw [hjobs, hevents]
  exact ⟨rfl, KeysKept.of_subset fun _ hrow => List.mem_append_left _ hrow⟩

/-- A job that is inserted leaves the others and all events where they are. -/
theorem insertRow_kept {tables tables' : JobTables JobRow} {row : JobRow} (h : tables.insertRow row = some tables') :
    tables'.jobs.rows = tables.jobs.rows ++ [row] ∧ tables'.events = tables.events := by
  unfold JobTables.insertRow at h
  split at h
  · cases h
    exact ⟨rfl, rfl⟩
  · cases h

/-- A write of the job repository keeps the keys of jobs and events. -/
theorem jobWrite_kept {m : Moment} {tenantId : String} {tables tables' : JobTables JobRow}
    (h : JobWrite m tenantId tables tables') :
    KeysKept (fun row : JobRow => row.key) tables.jobs.rows tables'.jobs.rows ∧
      KeysKept (fun event : JobEvent => (event.key, event.sequence)) tables.events.rows tables'.events.rows := by
  cases h with
  | none => exact ⟨KeysKept.refl _ _, KeysKept.refl _ _⟩
  | update key hkey condition change hchange =>
    exact ⟨updateJob_jobs_kept tables key condition change hchange, KeysKept.refl _ _⟩
  | updateAppend key hkey condition change hchange kind payload =>
    obtain ⟨hjobs, hevents⟩ := appendEvent_kept (tables.updateJob key condition change hchange) key kind payload m.now
    rw [hjobs]
    exact ⟨updateJob_jobs_kept tables key condition change hchange, hevents⟩
  | append key hkey kind payload =>
    obtain ⟨hjobs, hevents⟩ := appendEvent_kept tables key kind payload m.now
    rw [hjobs]
    exact ⟨KeysKept.refl _ _, hevents⟩
  | create row inserted hrow hid hinsert kind payload =>
    obtain ⟨hjobs, hevents⟩ := appendEvent_kept inserted ⟨tenantId, "job_" ++ m.uuid⟩ kind payload m.now
    obtain ⟨hrows, hsame⟩ := insertRow_kept hinsert
    rw [hsame] at hevents
    rw [hjobs, hrows]
    exact ⟨KeysKept.of_subset fun _ hold => List.mem_append_left _ hold, hevents⟩

/-- `add_for_job` keeps all keys. -/
theorem addForJob_kept (db : Database) (m : Moment) (tenantId : String) (finding : Finding) (jobId : Option String) :
    Kept db (addForJob core text db m tenantId finding jobId).1 := by
  unfold addForJob
  split
  · next db' hstore =>
    rcases storeFinding_eq_some hstore with hlocked | ⟨-, hlost⟩
    · obtain ⟨tenants, hensure, hstored⟩ := storeLocked_cases hlocked
      apply (ensureTenant_kept hensure).trans
      rcases hstored with ⟨-, findings, hinsert, rfl⟩ | ⟨row, -, rfl⟩
      · exact Kept.withFindings (KeysKept.of_insert hinsert)
      · exact Kept.withFindings (KeysKept.of_update _ _ _ fun _ => rfl)
    · obtain ⟨row, -, rfl⟩ := storeLost_cases hlost
      exact Kept.withFindings (KeysKept.of_update _ _ _ fun _ => rfl)
  · exact Kept.refl db

/-- `add_correlation` keeps all keys. -/
theorem addCorrelation_kept (db : Database) (m : Moment) (tenantId : String) (correlation : Correlation) :
    Kept db (addCorrelation db m tenantId correlation).1 := by
  unfold addCorrelation
  split
  · next db' hinsert =>
    obtain ⟨tenants, correlations, links, hensure, hrow, -, rfl⟩ := insertCorrelation_eq_some hinsert
    exact (ensureTenant_kept hensure).trans (Kept.withCorrelations (KeysKept.of_insert hrow))
  · exact Kept.refl db

/-- A call of one of the stores keeps all keys. -/
theorem StoreCall.perform_kept (db : Database) (m : Moment) (call : StoreCall) :
    Kept db (call.perform core text db m).1 := by
  cases call with
  | jobs call =>
    obtain ⟨tenants, hensure, hwrite, hsame⟩ := @perform_ensures core db m call
    have htenants : Kept db { db with tenants } := by
      rcases hensure with rfl | hensure
      · exact Kept.refl db
      · exact ensureTenant_kept hensure
    obtain ⟨hjobs, hevents⟩ := jobWrite_kept hwrite
    apply htenants.trans
    constructor
    · exact KeysKept.of_subset fun row hrow => hsame.tenants ▸ hrow
    · exact hjobs
    · exact hevents
    · exact KeysKept.of_subset fun row hrow => hsame.findings ▸ hrow
    · exact KeysKept.of_subset fun row hrow => hsame.correlations ▸ hrow
  | findings tenantId call =>
    cases call with
    | addForJob finding jobId => exact addForJob_kept db m tenantId finding jobId
    | addCorrelation correlation => exact addCorrelation_kept db m tenantId correlation
    | updateLifecycle findingId status assignedTo actor =>
      change Kept db (updateLifecycle core db m tenantId findingId status assignedTo actor).1
      unfold updateLifecycle
      split
      · exact Kept.refl db
      · have hkeys : KeepsKeys FindingRow.Conflict (FindingRow.triage status assignedTo m.now) :=
          FindingRow.triage_keeps status assignedTo m.now
        exact (Kept.withFindings (KeysKept.of_update db.findings _ hkeys fun _ => rfl)).withAudit
    | _ => exact Kept.refl db

/-- Every call of a repository keeps all keys. -/
theorem LiveCall.perform_kept (db : IdentityDatabase) (call : LiveCall) :
    Kept db.toDatabase (call.perform secrets core text db).toDatabase := by
  cases call with
  | store m call => exact call.perform_kept db.toDatabase m
  | identity draw call =>
    change Kept db.toDatabase (Identity.afterCall secrets db (draw, call)).toDatabase
    unfold Identity.afterCall
    split
    · next db' result hperform =>
      have hsame := Identity.perform_sameStores hperform
      have htenants := (Identity.perform_tenants hperform).kept
      constructor
      · exact htenants
      · exact KeysKept.of_subset fun row hrow => hsame.jobTables ▸ hrow
      · exact KeysKept.of_subset fun row hrow => hsame.jobTables ▸ hrow
      · exact KeysKept.of_subset fun row hrow => hsame.findings ▸ hrow
      · exact KeysKept.of_subset fun row hrow => hsame.correlations ▸ hrow
    · exact Kept.refl _

/-! ### Imports of one row -/

namespace Migration

variable {lib : MigrationLibrary core} {now : Instant}

/-- A tenant is imported unless it is there. -/
theorem importTenant_cases {tenantId : String} {isNew : Bool}
    (h : importTenant lib now db tenantId = .ok (db', isNew)) :
    (isNew = false ∧ db' = db ∧ Stored db tenantId) ∨
      ∃ tenants, isNew = true ∧ db' = { db with tenants } ∧
        db.tenants.insert (importedTenant lib now tenantId) = some tenants := by
  unfold importTenant at h
  split at h
  · next row hrow =>
    cases h
    obtain ⟨hmem, hid⟩ := Table.find_eq_some hrow
    exact Or.inl ⟨rfl, rfl, row, hmem, of_decide_eq_true hid⟩
  · split at h
    · next tenants hinsert =>
      cases h
      exact Or.inr ⟨tenants, rfl, rfl, hinsert⟩
    · cases h

/-- A row that an insert adds is there. -/
theorem mem_of_insert {Row : Type} {conflict : Row → Row → Prop} [DecidableRel conflict] {table table' : Table Row conflict}
    {row : Row} (h : table.insert row = some table') : row ∈ table'.rows := by
  rw [(Table.insert_eq_some h).1]
  exact List.mem_append_right _ List.mem_cons_self

/-- The import of tenants is repeatable. -/
theorem importTenant_repeatable (lib : MigrationLibrary core) (now : Instant) :
    Repeatable (importTenant lib now) id Kept Stored where
  refl := Kept.refl
  trans := Kept.trans
  kept h := by
    obtain ⟨-, rfl, -⟩ | ⟨tenants, -, rfl, hinsert⟩ := importTenant_cases h
    · exact Kept.refl _
    · exact Kept.withTenants (KeysKept.of_insert hinsert)
  known h := by
    obtain ⟨-, rfl, hstored⟩ | ⟨tenants, -, rfl, hinsert⟩ := importTenant_cases h
    · exact hstored
    · exact ⟨_, mem_of_insert hinsert, rfl⟩
  mono hkept hstored := by
    obtain ⟨row, hrow, hid⟩ := hstored
    obtain ⟨row', hrow', hid'⟩ := hkept.tenants row hrow
    exact ⟨row', hrow', hid'.trans hid⟩
  skips {db tenantId} hstored := by
    obtain ⟨row, hrow, hid⟩ := hstored
    refine ⟨db, ?_, rfl⟩
    unfold importTenant
    split
    · rfl
    · next hnone => exact absurd hid (of_decide_eq_false ((Table.find_eq_none_iff _ _).mp hnone row hrow))

/-- The job is stored under its tenant. -/
def JobStored (db : Database) (row : LegacyJob) : Prop :=
  ∃ old ∈ db.jobTables.jobs.rows, old.key = ⟨row.tenantId, row.jobId⟩

/-- The row of a job is looked up by its id. -/
theorem findJob_eq {tables : JobTables JobRow} {row : JobRow} (hrow : row ∈ tables.jobs.rows) {jobId : String}
    (hid : row.id = jobId) : (tables.jobs.find fun old => old.id = jobId) = some row := by
  apply Table.find_eq_some_of_mem _ _ _ hrow (decide_eq_true hid)
  intro a b ha hb
  exact Or.inl ((of_decide_eq_true ha).trans (of_decide_eq_true hb).symm)

/-- A job is imported unless it is there. -/
theorem importJob_cases {row : LegacyJob} {isNew : Bool} (h : importJob lib db row = .ok (db', isNew)) :
    (isNew = false ∧ db' = db ∧ JobStored db row) ∨
      ∃ source payload createdAt updatedAt jobTables, isNew = true ∧ db' = { db with jobTables } ∧
        parseSource lib row.source = .ok source ∧ jsonObject "job payload" row.payload = .ok payload ∧
        parseDatetime row.createdAt = .ok createdAt ∧ parseDatetime row.updatedAt = .ok updatedAt ∧
        db.jobTables.insertRow (importedJob row source payload createdAt updatedAt) = some jobTables := by
  unfold importJob at h
  split at h
  · next existing hfind =>
    split at h
    · next htenant =>
      cases h
      obtain ⟨hmem, hid⟩ := Table.find_eq_some hfind
      have hkey : existing.key = ⟨row.tenantId, row.jobId⟩ := by
        rw [JobRecord.key, htenant, of_decide_eq_true hid]
      exact Or.inl ⟨rfl, rfl, existing, hmem, hkey⟩
    · cases h
  · obtain ⟨source, hsource, h⟩ := bind_eq_ok.mp h
    obtain ⟨payload, hpayload, h⟩ := bind_eq_ok.mp h
    obtain ⟨createdAt, hcreated, h⟩ := bind_eq_ok.mp h
    obtain ⟨updatedAt, hupdated, h⟩ := bind_eq_ok.mp h
    split at h
    · next jobTables hinsert =>
      cases h
      exact Or.inr ⟨source, payload, createdAt, updatedAt, jobTables, rfl, rfl, hsource, hpayload, hcreated,
        hupdated, hinsert⟩
    · cases h

/-- The import of jobs is repeatable. -/
theorem importJob_repeatable (lib : MigrationLibrary core) : Repeatable (importJob lib) id Kept JobStored where
  refl := Kept.refl
  trans := Kept.trans
  kept h := by
    obtain ⟨-, rfl, -⟩ | ⟨_, _, _, _, jobTables, -, rfl, -, -, -, -, hinsert⟩ := importJob_cases h
    · exact Kept.refl _
    · obtain ⟨hjobs, hevents⟩ := insertRow_kept hinsert
      apply Kept.withJobTables
      · rw [hjobs]
        exact KeysKept.of_subset fun _ hold => List.mem_append_left _ hold
      · rw [hevents]
        exact KeysKept.refl _ _
  known h := by
    obtain ⟨-, rfl, hstored⟩ | ⟨source, payload, createdAt, updatedAt, jobTables, -, rfl, -, -, -, -, hinsert⟩ :=
      importJob_cases h
    · exact hstored
    · refine ⟨importedJob _ source payload createdAt updatedAt, ?_, rfl⟩
      change _ ∈ jobTables.jobs.rows
      rw [(insertRow_kept hinsert).1]
      exact List.mem_append_right _ List.mem_cons_self
  mono hkept hstored := by
    obtain ⟨old, hold, hkey⟩ := hstored
    obtain ⟨old', hold', hkey'⟩ := hkept.jobs old hold
    exact ⟨old', hold', hkey'.trans hkey⟩
  skips {db row} hstored := by
    obtain ⟨old, hold, hkey⟩ := hstored
    have hid : old.id = row.jobId := congrArg JobKey.jobId hkey
    have htenant : old.tenantId = row.tenantId := congrArg JobKey.tenantId hkey
    have hfind : (db.jobTables.jobs.find fun old => old.id = row.jobId) = some old := findJob_eq hold hid
    refine ⟨db, ?_, rfl⟩
    unfold importJob
    rw [hfind]
    exact if_pos htenant

/-- The event is stored. -/
def EventStored (db : Database) (row : LegacyJobEvent) : Prop :=
  ∃ old ∈ db.jobTables.events.rows, (old.key, old.sequence) = (⟨row.tenantId, row.jobId⟩, row.sequence)

/-- What `INSERT` of an event adds. -/
theorem insertEvent_eq_some {Row : Type} [JobColumns Row] {tables tables' : JobTables Row} {event : JobEvent}
    (h : tables.insertEvent event = some tables') :
    tables'.jobs = tables.jobs ∧ tables'.events.rows = tables.events.rows ++ [event] := by
  unfold JobTables.insertEvent at h
  split at h
  · split at h
    · cases h
      exact ⟨rfl, rfl⟩
    · cases h
  · cases h

/-- An event is imported unless it is there. -/
theorem importJobEvent_cases {row : LegacyJobEvent} {isNew : Bool} (h : importJobEvent db row = .ok (db', isNew)) :
    (isNew = false ∧ db' = db ∧ EventStored db row) ∨
      ∃ payload createdAt jobTables, isNew = true ∧ db' = { db with jobTables } ∧
        jsonObject "job event payload" row.payload = .ok payload ∧ parseDatetime row.createdAt = .ok createdAt ∧
        db.jobTables.insertEvent (importedEvent row payload createdAt) = some jobTables := by
  unfold importJobEvent at h
  split at h
  · next existing hfind =>
    cases h
    obtain ⟨hmem, hkeys⟩ := Table.find_eq_some hfind
    obtain ⟨htenant, hjob, hsequence⟩ := of_decide_eq_true hkeys
    refine Or.inl ⟨rfl, rfl, existing, hmem, ?_⟩
    rw [JobEvent.key, htenant, hjob, hsequence]
  · split at h
    · cases h
    · obtain ⟨payload, hpayload, h⟩ := bind_eq_ok.mp h
      obtain ⟨createdAt, hcreated, h⟩ := bind_eq_ok.mp h
      split at h
      · next jobTables hinsert =>
        cases h
        exact Or.inr ⟨payload, createdAt, jobTables, rfl, rfl, hpayload, hcreated, hinsert⟩
      · cases h

/-- The import of events is repeatable. -/
theorem importJobEvent_repeatable : Repeatable importJobEvent id Kept EventStored where
  refl := Kept.refl
  trans := Kept.trans
  kept h := by
    obtain ⟨-, rfl, -⟩ | ⟨_, _, jobTables, -, rfl, -, -, hinsert⟩ := importJobEvent_cases h
    · exact Kept.refl _
    · obtain ⟨hjobs, hevents⟩ := insertEvent_eq_some hinsert
      apply Kept.withJobTables
      · rw [hjobs]
        exact KeysKept.refl _ _
      · rw [hevents]
        exact KeysKept.of_subset fun _ hold => List.mem_append_left _ hold
  known h := by
    obtain ⟨-, rfl, hstored⟩ | ⟨payload, createdAt, jobTables, -, rfl, -, -, hinsert⟩ := importJobEvent_cases h
    · exact hstored
    · refine ⟨importedEvent _ payload createdAt, ?_, rfl⟩
      change _ ∈ jobTables.events.rows
      rw [(insertEvent_eq_some hinsert).2]
      exact List.mem_append_right _ List.mem_cons_self
  mono hkept hstored := by
    obtain ⟨old, hold, hkey⟩ := hstored
    obtain ⟨old', hold', hkey'⟩ := hkept.events old hold
    exact ⟨old', hold', hkey'.trans hkey⟩
  skips {db row} hstored := by
    obtain ⟨old, hold, hkeys⟩ := hstored
    obtain ⟨hkey, hsequence⟩ := Prod.mk.inj hkeys
    have htenant : old.tenantId = row.tenantId := congrArg JobKey.tenantId hkey
    have hjob : old.jobId = row.jobId := congrArg JobKey.jobId hkey
    refine ⟨db, ?_, rfl⟩
    unfold importJobEvent
    split
    · rfl
    · next hnone =>
      have hmissed := (Table.find_eq_none_iff _ _).mp hnone old hold
      exact absurd ⟨htenant, hjob, hsequence⟩ (of_decide_eq_false hmissed)

/-- The row is a finding, and its fingerprint is stored. -/
def FindingStored (lib : MigrationLibrary core) (text : TextLibrary) (db : Database) (row : LegacyFinding) : Prop :=
  ∃ finding, legacyFinding lib row = .ok finding ∧ ∃ old ∈ db.findings.rows,
    (old.tenantId, old.fingerprint) = (row.tenantId, findingFingerprint core text finding)

/-- A finding is imported unless its fingerprint is there. -/
theorem importFinding_cases {ids : FindingIds} {row : LegacyFinding} {state : Database × FindingIds} {isNew : Bool}
    (h : importFinding lib text now (db, ids) row = .ok (state, isNew)) :
    ∃ finding, legacyFinding lib row = .ok finding ∧
      ((∃ existing, isNew = false ∧
          findFingerprint db.findings row.tenantId (findingFingerprint core text finding) = some existing ∧
          state = (db, Json.setEntry ids (row.tenantId, finding.id) existing.findingId)) ∨
        ∃ findings, isNew = true ∧
          db.findings.insert (.created core text db.findingSequence row.tenantId finding none now) = some findings ∧
          state = ({ db with findings, findingSequence := db.findingSequence + 1 },
            Json.setEntry ids (row.tenantId, finding.id) finding.id)) := by
  obtain ⟨finding, hfinding, h⟩ := bind_eq_ok.mp h
  refine ⟨finding, hfinding, ?_⟩
  split at h
  · next existing hfind =>
    cases h
    exact Or.inl ⟨existing, rfl, hfind, rfl⟩
  · split at h
    · cases h
    · split at h
      · next findings hinsert =>
        cases h
        exact Or.inr ⟨findings, rfl, hinsert, rfl⟩
      · cases h

/-- The import of findings is repeatable. -/
theorem importFinding_repeatable (lib : MigrationLibrary core) (text : TextLibrary) (now : Instant) :
    Repeatable (importFinding lib text now) Prod.fst Kept (FindingStored lib text) where
  refl := Kept.refl
  trans := Kept.trans
  kept h := by
    obtain ⟨finding, -, ⟨existing, -, -, rfl⟩ | ⟨findings, -, hinsert, rfl⟩⟩ := importFinding_cases h
    · exact Kept.refl _
    · exact Kept.withFindings (KeysKept.of_insert hinsert)
  known h := by
    obtain ⟨finding, hfinding, ⟨existing, -, hfind, rfl⟩ | ⟨findings, -, hinsert, rfl⟩⟩ := importFinding_cases h
    · obtain ⟨hmem, htenant, hfingerprint⟩ := fingerprint_of_find hfind
      exact ⟨finding, hfinding, existing, hmem, Prod.ext htenant hfingerprint⟩
    · exact ⟨finding, hfinding, _, mem_of_insert hinsert, rfl⟩
  mono hkept hstored := by
    obtain ⟨finding, hfinding, old, hold, hkey⟩ := hstored
    obtain ⟨old', hold', hkey'⟩ := hkept.findings old hold
    exact ⟨finding, hfinding, old', hold', hkey'.trans hkey⟩
  skips {state row} hstored := by
    obtain ⟨finding, hfinding, old, hold, hkey⟩ := hstored
    obtain ⟨htenant, hfingerprint⟩ := Prod.mk.inj hkey
    obtain ⟨existing, hfind⟩ := exists_findFingerprint_iff.mpr ⟨old, hold, htenant, hfingerprint⟩
    refine ⟨(state.1, Json.setEntry state.2 (row.tenantId, finding.id) existing.findingId), ?_, rfl⟩
    unfold importFinding
    rw [hfinding]
    dsimp only [bind, Except.bind]
    rw [hfind]

/-- The row is a correlation, and its id is stored. -/
def CorrelationStored (lib : MigrationLibrary core) (db : Database) (row : LegacyCorrelation) : Prop :=
  ∃ payload, jsonObject "correlation payload" row.payload = .ok payload ∧ ∃ old ∈ db.correlations.rows,
    old.id = legacyCorrelationId lib row.tenantId row.seq payload

/-- What inserting a correlation with its links does. -/
theorem insertLinked_eq_some {row : CorrelationRow} {findingIds : List String}
    (h : insertLinked db row findingIds = some db') :
    ∃ correlations correlationFindings, db.correlations.insert row = some correlations ∧
      db' = { db with correlations, correlationFindings } := by
  unfold insertLinked at h
  obtain ⟨correlations, hinsert, h⟩ := Option.bind_eq_some_iff.mp h
  obtain ⟨correlationFindings, -, h⟩ := Option.bind_eq_some_iff.mp h
  cases h
  exact ⟨correlations, correlationFindings, hinsert, rfl⟩

/-- A correlation is imported unless its id is there. -/
theorem importCorrelation_cases {ids : FindingIds} {row : LegacyCorrelation} {isNew : Bool}
    (h : importCorrelation lib ids now db row = .ok (db', isNew)) :
    ∃ payload, jsonObject "correlation payload" row.payload = .ok payload ∧
      ((isNew = false ∧ db' = db ∧ ∃ old ∈ db.correlations.rows,
          old.id = legacyCorrelationId lib row.tenantId row.seq payload) ∨
        ∃ new items, isNew = true ∧ new.id = legacyCorrelationId lib row.tenantId row.seq payload ∧
          (legacyLinks payload = .ok items ∧ new.tenantId = row.tenantId) ∧ insertLinked db new
            ((items.map fun findingId => mappedId ids row.tenantId (lib.str findingId)).eraseDups) = some db') := by
  obtain ⟨payload, hpayload, h⟩ := bind_eq_ok.mp h
  refine ⟨payload, hpayload, ?_⟩
  dsimp only at h
  split at h
  · next existing hfind =>
    cases h
    obtain ⟨hmem, hid⟩ := Table.find_eq_some hfind
    exact Or.inl ⟨rfl, rfl, existing, hmem, of_decide_eq_true hid⟩
  · obtain ⟨items, hitems, h⟩ := bind_eq_ok.mp h
    obtain ⟨ruleId, -, h⟩ := bind_eq_ok.mp h
    obtain ⟨severity, -, h⟩ := bind_eq_ok.mp h
    obtain ⟨narrative, -, h⟩ := bind_eq_ok.mp h
    split at h
    · next inserted hinsert =>
      cases h
      exact Or.inr ⟨_, items, rfl, rfl, ⟨hitems, rfl⟩, hinsert⟩
    · cases h

/-- The import of correlations is repeatable. -/
theorem importCorrelation_repeatable (lib : MigrationLibrary core) (ids : FindingIds) (now : Instant) :
    Repeatable (importCorrelation lib ids now) id Kept (CorrelationStored lib) where
  refl := Kept.refl
  trans := Kept.trans
  kept h := by
    obtain ⟨payload, -, ⟨-, rfl, -⟩ | ⟨new, items, -, -, -, hinsert⟩⟩ := importCorrelation_cases h
    · exact Kept.refl _
    · obtain ⟨correlations, links, hrow, rfl⟩ := insertLinked_eq_some hinsert
      exact Kept.withCorrelations (KeysKept.of_insert hrow)
  known h := by
    obtain ⟨payload, hpayload, ⟨-, rfl, hstored⟩ | ⟨new, items, -, hid, -, hinsert⟩⟩ := importCorrelation_cases h
    · exact ⟨payload, hpayload, hstored⟩
    · obtain ⟨correlations, links, hrow, rfl⟩ := insertLinked_eq_some hinsert
      exact ⟨payload, hpayload, new, mem_of_insert hrow, hid⟩
  mono hkept hstored := by
    obtain ⟨payload, hpayload, old, hold, hid⟩ := hstored
    obtain ⟨old', hold', hid'⟩ := hkept.correlations old hold
    exact ⟨payload, hpayload, old', hold', hid'.trans hid⟩
  skips {db row} hstored := by
    obtain ⟨payload, hpayload, old, hold, hid⟩ := hstored
    refine ⟨db, ?_, rfl⟩
    unfold importCorrelation
    rw [hpayload]
    dsimp only [bind, Except.bind]
    split
    · rfl
    · next hnone => exact absurd hid (of_decide_eq_false ((Table.find_eq_none_iff _ _).mp hnone old hold))

/-! ### Imports of a source -/

/-- The sum of two counts. -/
instance : Add MigrationCounts where
  add a b := ⟨a.tenants + b.tenants, a.jobs + b.jobs, a.jobEvents + b.jobEvents, a.findings + b.findings,
    a.correlations + b.correlations⟩

/-- Every table keeps its rows and gains as many as were imported. -/
structure Added (imported : MigrationCounts) (db db' : Database) : Prop where
  tenants : Extends imported.tenants db.tenants.rows db'.tenants.rows
  jobs : Extends imported.jobs db.jobTables.jobs.rows db'.jobTables.jobs.rows
  jobEvents : Extends imported.jobEvents db.jobTables.events.rows db'.jobTables.events.rows
  findings : Extends imported.findings db.findings.rows db'.findings.rows
  correlations : Extends imported.correlations db.correlations.rows db'.correlations.rows

/-- Nothing was imported. -/
theorem Added.refl (db : Database) : Added .zero db db :=
  ⟨Extends.refl _, Extends.refl _, Extends.refl _, Extends.refl _, Extends.refl _⟩

/-- One import after another. -/
theorem Added.trans {a b : MigrationCounts} {db'' : Database} (h : Added a db db') (h' : Added b db' db'') :
    Added (a + b) db db'' :=
  ⟨h.tenants.trans h'.tenants, h.jobs.trans h'.jobs, h.jobEvents.trans h'.jobEvents, h.findings.trans h'.findings,
    h.correlations.trans h'.correlations⟩

/-- A tenant is added if it is new. -/
theorem importTenant_added {tenantId : String} {isNew : Bool} (h : importTenant lib now db tenantId = .ok (db', isNew)) :
    Added ⟨isNew.toNat, 0, 0, 0, 0⟩ db db' := by
  obtain ⟨rfl, rfl, -⟩ | ⟨tenants, rfl, rfl, hinsert⟩ := importTenant_cases h
  · exact Added.refl db'
  · refine { Added.refl db with tenants := ?_ }
    change Extends 1 db.tenants.rows tenants.rows
    rw [(Table.insert_eq_some hinsert).1]
    exact Extends.push _ _

/-- A job is added if it is new. -/
theorem importJob_added {row : LegacyJob} {isNew : Bool} (h : importJob lib db row = .ok (db', isNew)) :
    Added ⟨0, isNew.toNat, 0, 0, 0⟩ db db' := by
  obtain ⟨rfl, rfl, -⟩ | ⟨_, _, _, _, jobTables, rfl, rfl, -, -, -, -, hinsert⟩ := importJob_cases h
  · exact Added.refl db'
  · obtain ⟨hjobs, hevents⟩ := insertRow_kept hinsert
    refine { Added.refl db with jobs := ?_, jobEvents := ?_ }
    · change Extends 1 db.jobTables.jobs.rows jobTables.jobs.rows
      rw [hjobs]
      exact Extends.push _ _
    · change Extends 0 db.jobTables.events.rows jobTables.events.rows
      rw [hevents]
      exact Extends.refl _

/-- An event is added if it is new. -/
theorem importJobEvent_added {row : LegacyJobEvent} {isNew : Bool} (h : importJobEvent db row = .ok (db', isNew)) :
    Added ⟨0, 0, isNew.toNat, 0, 0⟩ db db' := by
  obtain ⟨rfl, rfl, -⟩ | ⟨_, _, jobTables, rfl, rfl, -, -, hinsert⟩ := importJobEvent_cases h
  · exact Added.refl db'
  · obtain ⟨hjobs, hevents⟩ := insertEvent_eq_some hinsert
    refine { Added.refl db with jobs := ?_, jobEvents := ?_ }
    · change Extends 0 db.jobTables.jobs.rows jobTables.jobs.rows
      rw [hjobs]
      exact Extends.refl _
    · change Extends 1 db.jobTables.events.rows jobTables.events.rows
      rw [hevents]
      exact Extends.push _ _

/-- A finding is added if it is new. -/
theorem importFinding_added {row : LegacyFinding} {state state' : Database × FindingIds} {isNew : Bool}
    (h : importFinding lib text now state row = .ok (state', isNew)) :
    Added ⟨0, 0, 0, isNew.toNat, 0⟩ state.1 state'.1 := by
  obtain ⟨finding, -, ⟨existing, rfl, -, rfl⟩ | ⟨findings, rfl, hinsert, rfl⟩⟩ := importFinding_cases h
  · exact Added.refl _
  · refine { Added.refl state.1 with findings := ?_ }
    change Extends 1 state.1.findings.rows findings.rows
    rw [(Table.insert_eq_some hinsert).1]
    exact Extends.push _ _

/-- A correlation is added if it is new. -/
theorem importCorrelation_added {ids : FindingIds} {row : LegacyCorrelation} {isNew : Bool}
    (h : importCorrelation lib ids now db row = .ok (db', isNew)) : Added ⟨0, 0, 0, 0, isNew.toNat⟩ db db' := by
  obtain ⟨payload, -, ⟨rfl, rfl, -⟩ | ⟨new, items, rfl, -, -, hinsert⟩⟩ := importCorrelation_cases h
  · exact Added.refl db'
  · obtain ⟨correlations, links, hrow, rfl⟩ := insertLinked_eq_some hinsert
    refine { Added.refl db with correlations := ?_ }
    change Extends 1 db.correlations.rows correlations.rows
    rw [(Table.insert_eq_some hrow).1]
    exact Extends.push _ _

/-- The five tables are imported one after another. -/
theorem importTables_eq_ok {source : LegacySource} {result : Imported}
    (h : importTables lib text source now db = .ok result) :
    ∃ db₁ db₂ db₃ db₄ ids, importAll (importTenant lib now) db source.tenantIds = .ok (db₁, result.tenants) ∧
      importAll (importJob lib) db₁ source.jobRows = .ok (db₂, result.jobs) ∧
      importAll importJobEvent db₂ source.eventRows = .ok (db₃, result.jobEvents) ∧
      importAll (importFinding lib text now) (db₃, []) source.findingRows = .ok ((db₄, ids), result.findings) ∧
      importAll (importCorrelation lib ids now) db₄ source.correlationRows = .ok (result.db, result.correlations) := by
  obtain ⟨⟨db₁, tenants⟩, htenants, h⟩ := bind_eq_ok.mp h
  obtain ⟨⟨db₂, jobs⟩, hjobs, h⟩ := bind_eq_ok.mp h
  obtain ⟨⟨db₃, jobEvents⟩, hevents, h⟩ := bind_eq_ok.mp h
  obtain ⟨⟨⟨db₄, ids⟩, findings⟩, hfindings, h⟩ := bind_eq_ok.mp h
  obtain ⟨⟨db₅, correlations⟩, hcorrelations, h⟩ := bind_eq_ok.mp h
  cases h
  exact ⟨db₁, db₂, db₃, db₄, ids, htenants, hjobs, hevents, hfindings, hcorrelations⟩

/-- Everything of the source is there. -/
structure SourceStored (lib : MigrationLibrary core) (text : TextLibrary) (source : LegacySource) (db : Database) :
    Prop where
  tenants : ∀ tenantId ∈ source.tenantIds, Stored db tenantId
  jobs : ∀ row ∈ source.jobRows, JobStored db row
  jobEvents : ∀ row ∈ source.eventRows, EventStored db row
  findings : ∀ row ∈ source.findingRows, FindingStored lib text db row
  correlations : ∀ row ∈ source.correlationRows, CorrelationStored lib db row

/-- What is there stays there while keys are kept. -/
theorem SourceStored.mono {source : LegacySource} (h : SourceStored lib text source db) (hkept : Kept db db') :
    SourceStored lib text source db' where
  tenants row hrow := (importTenant_repeatable lib 0).mono hkept (h.tenants row hrow)
  jobs row hrow := (importJob_repeatable lib).mono hkept (h.jobs row hrow)
  jobEvents row hrow := importJobEvent_repeatable.mono hkept (h.jobEvents row hrow)
  findings row hrow := (importFinding_repeatable lib text 0).mono hkept (h.findings row hrow)
  correlations row hrow := (importCorrelation_repeatable lib [] 0).mono hkept (h.correlations row hrow)

/-- After an import everything of the source is there. -/
theorem importTables_stored {source : LegacySource} {result : Imported}
    (h : importTables lib text source now db = .ok result) : SourceStored lib text source result.db := by
  obtain ⟨db₁, db₂, db₃, db₄, ids, htenants, hjobs, hevents, hfindings, hcorrelations⟩ := importTables_eq_ok h
  have hkept₅ : Kept db₄ result.db := (importCorrelation_repeatable lib ids now).importAll_kept hcorrelations
  have hkept₄ : Kept db₃ result.db := ((importFinding_repeatable lib text now).importAll_kept hfindings).trans hkept₅
  have hkept₃ : Kept db₂ result.db := (importJobEvent_repeatable.importAll_kept hevents).trans hkept₄
  have hkept₂ : Kept db₁ result.db := ((importJob_repeatable lib).importAll_kept hjobs).trans hkept₃
  constructor
  · intro row hrow
    have hknown := (importTenant_repeatable lib now).importAll_known htenants row hrow
    exact (importTenant_repeatable lib now).mono hkept₂ hknown
  · intro row hrow
    have hknown := (importJob_repeatable lib).importAll_known hjobs row hrow
    exact (importJob_repeatable lib).mono hkept₃ hknown
  · intro row hrow
    have hknown := importJobEvent_repeatable.importAll_known hevents row hrow
    exact importJobEvent_repeatable.mono hkept₄ hknown
  · intro row hrow
    have hknown := (importFinding_repeatable lib text now).importAll_known hfindings row hrow
    exact (importFinding_repeatable lib text now).mono hkept₅ hknown
  · exact (importCorrelation_repeatable lib ids now).importAll_known hcorrelations

/-- An import of a source that is all there changes nothing. -/
theorem importTables_again {source : LegacySource} (h : SourceStored lib text source db) :
    ∃ result, importTables lib text source now db = .ok result ∧ result.db = db ∧ result.imported = .zero ∧
      result.skipped = source.count := by
  have htenants : importAll (importTenant lib now) db source.tenantIds =
      .ok (db, ⟨0, source.tenantIds.length⟩) := by
    obtain ⟨_, hskipped, rfl⟩ := (importTenant_repeatable lib now).importAll_skips h.tenants
    exact hskipped
  have hjobs : importAll (importJob lib) db source.jobRows = .ok (db, ⟨0, source.jobRows.length⟩) := by
    obtain ⟨_, hskipped, rfl⟩ := (importJob_repeatable lib).importAll_skips h.jobs
    exact hskipped
  have hevents : importAll importJobEvent db source.eventRows = .ok (db, ⟨0, source.eventRows.length⟩) := by
    obtain ⟨_, hskipped, rfl⟩ := importJobEvent_repeatable.importAll_skips h.jobEvents
    exact hskipped
  have hstart : ∀ row ∈ source.findingRows, FindingStored lib text (Prod.fst (db, ([] : FindingIds))) row :=
    h.findings
  obtain ⟨⟨db₄, ids⟩, hfindings, hsame⟩ := (importFinding_repeatable lib text now).importAll_skips hstart
  cases (show db₄ = db from hsame)
  have hcorrelations : importAll (importCorrelation lib ids now) db source.correlationRows =
      .ok (db, ⟨0, source.correlationRows.length⟩) := by
    obtain ⟨_, hskipped, rfl⟩ := (importCorrelation_repeatable lib ids now).importAll_skips h.correlations
    exact hskipped
  refine ⟨⟨db, ⟨0, source.tenantIds.length⟩, ⟨0, source.jobRows.length⟩, ⟨0, source.eventRows.length⟩,
    ⟨0, source.findingRows.length⟩, ⟨0, source.correlationRows.length⟩⟩, ?_, rfl, rfl, rfl⟩
  exact bind_eq_ok.mpr ⟨_, htenants, bind_eq_ok.mpr ⟨_, hjobs, bind_eq_ok.mpr ⟨_, hevents,
    bind_eq_ok.mpr ⟨_, hfindings, bind_eq_ok.mpr ⟨_, hcorrelations, rfl⟩⟩⟩⟩⟩

/-- The audit row of every tenant has been written. -/
def Audited (lib : MigrationLibrary core) (source : LegacySource) (target : MigrationTarget) : Prop :=
  ∀ tenantId ∈ source.tenantIds, auditId lib source.path tenantId ∈ target.migrationAudits

/-- The audit row of a tenant is written once. -/
theorem migrationAudit_again {path tenantId : String} {counts imported : MigrationCounts} {target : MigrationTarget}
    (h : auditId lib path tenantId ∈ target.migrationAudits) :
    migrationAudit lib path counts imported now target tenantId = target := if_pos h

/-- Audit rows of tenants that have one are not written again. -/
theorem migrationAudits_again {path : String} {counts imported : MigrationCounts} {target : MigrationTarget}
    {tenantIds : List String} (h : ∀ tenantId ∈ tenantIds, auditId lib path tenantId ∈ target.migrationAudits) :
    tenantIds.foldl (migrationAudit lib path counts imported now) target = target := by
  induction tenantIds with
  | nil => rfl
  | cons tenantId rest ih =>
    rw [List.foldl_cons, migrationAudit_again (h tenantId List.mem_cons_self)]
    exact ih fun other hother => h other (List.mem_cons_of_mem tenantId hother)

/-- Writing audit rows leaves every table as it is, keeps the ids of audit rows and adds those of the tenants. -/
theorem migrationAudits_written (path : String) (counts imported : MigrationCounts) (target : MigrationTarget)
    (tenantIds : List String) :
    let written := tenantIds.foldl (migrationAudit lib path counts imported now) target
    (∃ auditEvents, written.toDatabase = { target.toDatabase with auditEvents }) ∧
      (∀ id ∈ target.migrationAudits, id ∈ written.migrationAudits) ∧
      ∀ tenantId ∈ tenantIds, auditId lib path tenantId ∈ written.migrationAudits := by
  induction tenantIds generalizing target with
  | nil => exact ⟨⟨target.auditEvents, rfl⟩, fun _ hid => hid, fun _ hmem => absurd hmem List.not_mem_nil⟩
  | cons tenantId rest ih =>
    obtain ⟨⟨auditEvents, htables⟩, hkept, hnew⟩ := ih (migrationAudit lib path counts imported now target tenantId)
    have hfirst : auditId lib path tenantId ∈
        (migrationAudit lib path counts imported now target tenantId).migrationAudits := by
      unfold migrationAudit
      split
      · next hthere => exact hthere
      · exact List.mem_append_right _ List.mem_cons_self
    refine ⟨⟨auditEvents, htables.trans ?_⟩, fun id hid => hkept id ?_, fun other hother => ?_⟩
    · unfold migrationAudit
      split <;> rfl
    · unfold migrationAudit
      split
      · exact hid
      · exact List.mem_append_left _ hid
    · rcases List.mem_cons.mp hother with rfl | hother
      · exact hkept _ hfirst
      · exact hnew other hother

/-- An import accounts for every row of the source. -/
theorem importTables_count {source : LegacySource} {result : Imported}
    (h : importTables lib text source now db = .ok result) : result.imported + result.skipped = source.count := by
  obtain ⟨db₁, db₂, db₃, db₄, ids, htenants, hjobs, hevents, hfindings, hcorrelations⟩ := importTables_eq_ok h
  change MigrationCounts.mk _ _ _ _ _ = _
  rw [LegacySource.count]
  congr 1
  · exact importAll_total htenants
  · exact importAll_total hjobs
  · exact importAll_total hevents
  · exact importAll_total hfindings
  · exact importAll_total hcorrelations

/-- An import adds the rows that it says it has imported. -/
theorem importTables_added {source : LegacySource} {result : Imported}
    (h : importTables lib text source now db = .ok result) : Added result.imported db result.db := by
  obtain ⟨db₁, db₂, db₃, db₄, ids, htenants, hjobs, hevents, hfindings, hcorrelations⟩ := importTables_eq_ok h
  have h₁ := importAll_grows (fun n => Added ⟨n, 0, 0, 0, 0⟩) Added.refl Added.trans importTenant_added htenants
  have h₂ := importAll_grows (fun n => Added ⟨0, n, 0, 0, 0⟩) Added.refl Added.trans importJob_added hjobs
  have h₃ := importAll_grows (fun n => Added ⟨0, 0, n, 0, 0⟩) Added.refl Added.trans importJobEvent_added hevents
  have h₄ := importAll_grows
    (fun n (state state' : Database × FindingIds) => Added ⟨0, 0, 0, n, 0⟩ state.1 state'.1)
    (fun state => Added.refl state.1) Added.trans importFinding_added hfindings
  have h₅ := importAll_grows (fun n => Added ⟨0, 0, 0, 0, n⟩) Added.refl Added.trans importCorrelation_added
    hcorrelations
  have hsum : (⟨result.tenants.imported, 0, 0, 0, 0⟩ + ⟨0, result.jobs.imported, 0, 0, 0⟩ +
      ⟨0, 0, result.jobEvents.imported, 0, 0⟩ + ⟨0, 0, 0, result.findings.imported, 0⟩ +
      ⟨0, 0, 0, 0, result.correlations.imported⟩ : MigrationCounts) = result.imported := by
    change MigrationCounts.mk _ _ _ _ _ = MigrationCounts.mk _ _ _ _ _
    congr 1
    all_goals exact Nat.zero_add _
  rw [← hsum]
  exact (((h₁.trans h₂).trans h₃).trans h₄).trans h₅

/-- A run that succeeds has imported the tables and written audit rows. -/
theorem run_imports {source : LegacySource} {target target' : MigrationTarget} {report : MigrationReport}
    (h : run lib text source true now target = (target', .ok report)) :
    source.isLegacy = true ∧ ∃ result auditEvents, importTables lib text source now target.toDatabase = .ok result ∧
      target'.toDatabase = { result.db with auditEvents } ∧ Audited lib source target' ∧
      report = ⟨false, source.count, result.imported, result.skipped⟩ := by
  unfold run at h
  split at h
  · next hlegacy =>
    rw [if_pos rfl] at h
    split at h
    · cases h
    · next result hresult =>
      cases h
      obtain ⟨⟨auditEvents, htables⟩, -, haudits⟩ := @migrationAudits_written core lib now source.path source.count
        result.imported { target with toIdentityDatabase := { target.toIdentityDatabase with toDatabase := result.db } }
        source.tenantIds
      exact ⟨hlegacy, result, auditEvents, hresult, htables, haudits, rfl⟩
  · cases h

/-- A run that succeeds leaves everything of the source there, and says so. -/
theorem run_eq_ok {source : LegacySource} {target target' : MigrationTarget} {report : MigrationReport}
    (h : run lib text source true now target = (target', .ok report)) :
    source.isLegacy = true ∧ SourceStored lib text source target'.toDatabase ∧ Audited lib source target' ∧
      Added report.imported target.toDatabase target'.toDatabase ∧
      report.source = source.count ∧ report.imported + report.skipped = source.count := by
  obtain ⟨hlegacy, result, auditEvents, hresult, htables, haudits, rfl⟩ := run_imports h
  refine ⟨hlegacy, ?_, haudits, ?_, rfl, importTables_count hresult⟩
  · rw [htables]
    exact (importTables_stored hresult).mono (Kept.refl result.db).withAudit
  · have hadded := importTables_added hresult
    rw [htables]
    exact ⟨hadded.tenants, hadded.jobs, hadded.jobEvents, hadded.findings, hadded.correlations⟩

/-- An import that raises is rolled back. -/
theorem run_raised {source : LegacySource} {apply : Bool} {target : MigrationTarget} {error : MigrationError}
    (h : (run lib text source apply now target).2 = .error error) :
    (run lib text source apply now target).1 = target := by
  unfold run at h ⊢
  by_cases hlegacy : source.isLegacy = true
  · rw [if_pos hlegacy] at h ⊢
    cases apply with
    | false => rfl
    | true =>
      rw [if_pos rfl] at h ⊢
      cases hresult : importTables lib text source now target.toDatabase with
      | error error' => rfl
      | ok result =>
        rw [hresult] at h
        cases h
  · rw [if_neg hlegacy]

/-- A dry run changes nothing. -/
theorem run_dry (lib : MigrationLibrary core) (text : TextLibrary) (source : LegacySource) (now : Instant)
    (target : MigrationTarget) : (run lib text source false now target).1 = target := by
  unfold run
  by_cases hlegacy : source.isLegacy = true
  · rw [if_pos hlegacy]
    rfl
  · rw [if_neg hlegacy]

/-- An import of a source that is all there and audited changes nothing. -/
theorem run_again {source : LegacySource} {target : MigrationTarget} (hlegacy : source.isLegacy = true)
    (hstored : SourceStored lib text source target.toDatabase) (haudited : Audited lib source target) :
    run lib text source true now target = (target, .ok ⟨false, source.count, .zero, source.count⟩) := by
  obtain ⟨result, hresult, hdb, himported, hskipped⟩ := @importTables_again core text _ lib now source hstored
  unfold run
  rw [if_pos hlegacy, if_pos rfl, hresult]
  dsimp only
  rw [hdb, himported, hskipped, migrationAudits_again haudited]

end Migration

/-! ### The target over time -/

/-- What happens to the target after an import: a call of a repository, or the import of a source again. -/
inductive TargetEvent
  | call (call : LiveCall)
  | rerun (now : Instant)

namespace MigrationTarget

/-- The target after such an event. -/
def after (secrets : SecretLibrary) (lib : MigrationLibrary core) (text : TextLibrary) (source : LegacySource)
    (target : MigrationTarget) : TargetEvent → MigrationTarget
  | .call call => { target with toIdentityDatabase := call.perform secrets core text target.toIdentityDatabase }
  | .rerun now => (Migration.run lib text source true now target).1

/-- What is there and audited stays so. -/
theorem after_stored {lib : MigrationLibrary core} {source : LegacySource} {target : MigrationTarget}
    (hlegacy : source.isLegacy = true) (hstored : Migration.SourceStored lib text source target.toDatabase)
    (haudited : Migration.Audited lib source target) (event : TargetEvent) :
    Migration.SourceStored lib text source (target.after secrets lib text source event).toDatabase ∧
      Migration.Audited lib source (target.after secrets lib text source event) := by
  cases event with
  | call call => exact ⟨hstored.mono (call.perform_kept target.toIdentityDatabase), haudited⟩
  | rerun now =>
    rw [after, Migration.run_again hlegacy hstored haudited]
    exact ⟨hstored, haudited⟩

/-- And it stays so after any number of events. -/
theorem afterAll_stored {lib : MigrationLibrary core} {source : LegacySource} {target : MigrationTarget}
    (hlegacy : source.isLegacy = true) (hstored : Migration.SourceStored lib text source target.toDatabase)
    (haudited : Migration.Audited lib source target) (events : List TargetEvent) :
    Migration.SourceStored lib text source (events.foldl (after secrets lib text source) target).toDatabase ∧
      Migration.Audited lib source (events.foldl (after secrets lib text source) target) := by
  induction events generalizing target with
  | nil => exact ⟨hstored, haudited⟩
  | cons event rest ih =>
    obtain ⟨hstored', haudited'⟩ := @after_stored core text secrets lib source target hlegacy hstored
      haudited event
    exact ih hstored' haudited'

end MigrationTarget

/-- An import either raises and leaves the target as it was, or accounts for every row of the source: all of them are
in the target, which has kept its own rows and gained as many as were imported. After it has succeeded, an import of
the same source skips everything and changes nothing, whatever has happened to the target in between. A dry run never
changes the target. -/
theorem import_conserves_and_repeats (secrets : SecretLibrary) (lib : MigrationLibrary core) (text : TextLibrary)
    (source : LegacySource) (now : Instant) (target : MigrationTarget) :
    (∀ error, (Migration.run lib text source true now target).2 = .error error →
      (Migration.run lib text source true now target).1 = target) ∧
    (∀ report, (Migration.run lib text source true now target).2 = .ok report →
      report.source = source.count ∧ report.imported + report.skipped = report.source ∧
      Migration.SourceStored lib text source (Migration.run lib text source true now target).1.toDatabase ∧
      Migration.Added report.imported target.toDatabase
        (Migration.run lib text source true now target).1.toDatabase ∧
      ∀ (events : List TargetEvent) (later : Instant),
        let met := events.foldl (MigrationTarget.after secrets lib text source)
          (Migration.run lib text source true now target).1
        Migration.run lib text source true later met = (met, .ok ⟨false, source.count, .zero, source.count⟩)) ∧
    (Migration.run lib text source false now target).1 = target := by
  refine ⟨fun error h => Migration.run_raised h, fun report h => ?_, Migration.run_dry lib text source now target⟩
  obtain ⟨hlegacy, hstored, haudited, hadded, hsource, hcount⟩ := Migration.run_eq_ok (Prod.ext rfl h)
  refine ⟨hsource, hsource ▸ hcount, hstored, hadded, fun events later => ?_⟩
  obtain ⟨hstored', haudited'⟩ := @MigrationTarget.afterAll_stored core text secrets lib source _
    hlegacy hstored haudited events
  exact Migration.run_again hlegacy hstored' haudited'

/-- A legacy database with one row in each table. -/
def legacyGateway : LegacySource where
  path := "/data/legacy.sqlite3"
  scanJobs := some [⟨"job_1", "tenant-a", "004", some (.obj []), .succeeded, some ⟨0, true⟩, some ⟨1, true⟩,
    some "legacy-request", none, 1, 0, 1, none, none⟩]
  scanJobEvents := some [⟨"tenant-a", "job_1", 1, "status", some (statusPayload .queued none none), some ⟨0, true⟩⟩]
  findings := some [⟨"tenant-a", some (FindingDict.toDict (hostFinding "f1" "web-1" .high))⟩]
  correlations := some [⟨1, "tenant-a", some (.obj [("rule_id", .str "legacy-rule"),
    ("findings", FindingDict.texts ["f1"]), ("severity", .str "high"), ("narrative", .str "Legacy correlation")])⟩]

/-- A schema without rows. -/
def freshTarget : MigrationTarget := ⟨.empty, []⟩

/-- What is called between two imports of that database. -/
def betweenImports : List TargetEvent :=
  [.call (.store ⟨10, "2"⟩ (.findings "tenant-a" (.addForJob (hostFinding "f2" "web-1" .critical) none))),
    .call (.store ⟨11, "3"⟩ (.jobs (.create "tenant-a" .soc (.obj []) none))),
    .call (.identity (Exchange.letterDraw 12 "4" 'a') (.setTenantStatus "tenant-a" "suspended" "admin")),
    .rerun 13]

set_option maxRecDepth 8000 in
/-- The first import of that database imports every row. -/
theorem legacyGateway_imported :
    (Migration.run sampleLibrary FindingDict.text legacyGateway true 5 freshTarget).2 =
      .ok ⟨false, ⟨1, 1, 1, 1, 1⟩, ⟨1, 1, 1, 1, 1⟩, .zero⟩ := by
  decide +kernel

/-- The theorem applies to two imports of that database. -/
theorem import_conserves_and_repeats_legacyGateway :
    let met := betweenImports.foldl (MigrationTarget.after Exchange.plainDigests sampleLibrary FindingDict.text
      legacyGateway) (Migration.run sampleLibrary FindingDict.text legacyGateway true 5 freshTarget).1
    Migration.run sampleLibrary FindingDict.text legacyGateway true 20 met =
      (met, .ok ⟨false, legacyGateway.count, .zero, legacyGateway.count⟩) :=
  ((import_conserves_and_repeats Exchange.plainDigests sampleLibrary FindingDict.text legacyGateway 5
    freshTarget).2.1 _ legacyGateway_imported).2.2.2.2 betweenImports 20

end SharedIntegration

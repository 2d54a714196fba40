import SharedIntegration.BackendEquivalence
import SharedIntegration.MigrationReruns

/-!
# Imported job stores

The file of an `SQLiteJobRepository` is what the import reads. Its jobs have different ids and its events different
numbers, so an import into an empty schema adds each of them, and the relational tables then hold what the file
holds. From there on both repositories return the same, for every tenant that the import has given a row.
-/

namespace SharedIntegration

open Relational Rerun FindingLifecycle

/-! ### The file -/

/-- The columns of `scan_jobs` that `SQLiteJobRepository` writes for a record. -/
def LegacyJob.ofRecord (core : CoreLibrary) (record : JobRecord) : LegacyJob where
  jobId := record.id
  tenantId := record.tenantId
  source := core.sourceValue record.source
  payload := some record.payload
  status := record.status
  createdAt := some ⟨record.createdAt, true⟩
  updatedAt := some ⟨record.updatedAt, true⟩
  idempotencyKey := record.idempotencyKey
  dispatchId := record.dispatchId
  attempt := record.attempt
  cancelRequested := if record.cancelRequested then 1 else 0
  resultCount := record.resultCount
  errorCode := record.errorCode
  errorMessage := record.errorMessage

/-- The columns of `scan_job_events` that it writes for an event. -/
def LegacyJobEvent.ofEvent (event : JobEvent) : LegacyJobEvent where
  tenantId := event.tenantId
  jobId := event.jobId
  sequence := event.sequence
  kind := event.kind
  payload := some event.payload
  createdAt := some ⟨event.createdAt, true⟩

/-- `ORDER BY created_at, job_id`. -/
def oldestFirst (a b : JobRecord) : Prop := newestFirst b a

instance : DecidableRel oldestFirst := fun a b => inferInstanceAs (Decidable (newestFirst b a))

/-- `ORDER BY tenant_id, job_id, sequence`. -/
def logOrder (a b : JobEvent) : Prop :=
  a.tenantId < b.tenantId ∨
    a.tenantId = b.tenantId ∧ (a.jobId < b.jobId ∨ a.jobId = b.jobId ∧ a.sequence ≤ b.sequence)

instance : DecidableRel logOrder := fun a b =>
  inferInstanceAs (Decidable (a.tenantId < b.tenantId ∨
    a.tenantId = b.tenantId ∧ (a.jobId < b.jobId ∨ a.jobId = b.jobId ∧ a.sequence ≤ b.sequence)))

namespace SqliteJobs.State

variable (core : CoreLibrary) (lite : SqliteJobs.State)

/-- The jobs in the order in which they are read. -/
def readJobs : List JobRecord := lite.jobs.rows.insertionSort oldestFirst

/-- The events in the order in which they are read. -/
def readEvents : List JobEvent := lite.events.rows.insertionSort logOrder

/-- What the import reads from the file, which may hold legacy findings and correlations next to the jobs. -/
def legacySource (path : String) (findings : Option (List LegacyFinding))
    (correlations : Option (List LegacyCorrelation)) : LegacySource where
  path := path
  scanJobs := some (lite.readJobs.map (LegacyJob.ofRecord core))
  scanJobEvents := some (lite.readEvents.map LegacyJobEvent.ofEvent)
  findings := findings
  correlations := correlations

/-- No two jobs have one id. -/
theorem readJobs_distinct : lite.readJobs.Pairwise fun a b => a.id ≠ b.id := by
  have hrows : lite.jobs.rows.Pairwise fun a b => a.id ≠ b.id :=
    lite.jobs.consistent.imp fun hfree hid => hfree (Or.inl hid)
  exact (List.perm_insertionSort oldestFirst lite.jobs.rows).symm.pairwise hrows Ne.symm

/-- No two events of a job have one number. -/
theorem readEvents_distinct :
    lite.readEvents.Pairwise fun a b => (a.key, a.sequence) ≠ (b.key, b.sequence) := by
  have hrows : lite.events.rows.Pairwise fun a b => (a.key, a.sequence) ≠ (b.key, b.sequence) :=
    lite.events.consistent.imp fun hfree hkeys => hfree (Prod.mk.inj hkeys)
  exact (List.perm_insertionSort logOrder lite.events.rows).symm.pairwise hrows Ne.symm

end SqliteJobs.State

/-! ### Imports of its rows -/

namespace Migration

variable {core : CoreLibrary} {text : TextLibrary} {lib : MigrationLibrary core} {now : Instant} {db db' : Database}

/-- What a column is decoded to is what was encoded. -/
theorem jsonObject_eq_ok {label : String} {document payload : Document}
    (h : jsonObject label (some document) = .ok payload) : payload = document := by
  unfold jsonObject at h
  split at h
  · cases h
  · next entries hentries =>
    rw [← Except.ok.inj h]
    exact (Option.some.inj hentries).symm
  · cases h

/-- A job with a new id is imported as the record that it is. -/
theorem importJob_ofRecord {record : JobRecord} {isNew : Bool}
    (hnew : ∀ old ∈ db.jobTables.jobs.rows.map JobRow.toJobRecord, old.id ≠ record.id)
    (h : importJob lib db (.ofRecord core record) = .ok (db', isNew)) :
    db'.jobTables.jobs.rows.map JobRow.toJobRecord =
      db.jobTables.jobs.rows.map JobRow.toJobRecord ++ [record] := by
  obtain ⟨-, -, old, hold, hkey⟩ |
    ⟨source, payload, createdAt, updatedAt, jobTables, -, rfl, hsource, hpayload, hcreated, hupdated, hinsert⟩ :=
    importJob_cases h
  · exact absurd (congrArg JobKey.jobId hkey) (hnew _ (List.mem_map_of_mem hold))
  · have hsource' : source = record.source := by
      unfold parseSource LegacyJob.ofRecord at hsource
      rw [lib.findingSource_value] at hsource
      exact (Except.ok.inj hsource).symm
    have hpayload' : payload = record.payload := jsonObject_eq_ok hpayload
    have hcreated' : createdAt = record.createdAt := (Except.ok.inj hcreated).symm
    have hupdated' : updatedAt = record.updatedAt := (Except.ok.inj hupdated).symm
    have hrecord : (importedJob (.ofRecord core record) source payload createdAt updatedAt).toJobRecord = record := by
      rw [hsource', hpayload', hcreated', hupdated']
      have hflag : decide ((if record.cancelRequested then (1 : ℤ) else 0) ≠ 0) = record.cancelRequested := by
        cases record.cancelRequested <;> rfl
      unfold importedJob LegacyJob.ofRecord
      dsimp only
      rw [hflag]
    change jobTables.jobs.rows.map JobRow.toJobRecord = _
    rw [(insertRow_kept hinsert).1, List.map_append, List.map_singleton, hrecord]

/-- An event with a new number is imported as the event that it is. -/
theorem importJobEvent_ofEvent {event : JobEvent} {isNew : Bool}
    (hnew : ∀ old ∈ db.jobTables.events.rows, (old.key, old.sequence) ≠ (event.key, event.sequence))
    (h : importJobEvent db (.ofEvent event) = .ok (db', isNew)) :
    db'.jobTables.events.rows = db.jobTables.events.rows ++ [event] := by
  obtain ⟨-, -, old, hold, hkeys⟩ | ⟨payload, createdAt, jobTables, -, rfl, hpayload, hcreated, hinsert⟩ :=
    importJobEvent_cases h
  · exact absurd hkeys (hnew old hold)
  · have hpayload' : payload = event.payload := jsonObject_eq_ok hpayload
    have hcreated' : createdAt = event.createdAt := (Except.ok.inj hcreated).symm
    change jobTables.events.rows = _
    rw [(insertEvent_eq_some hinsert).2, hpayload', hcreated']
    rfl

/-- Only tenants have changed. -/
theorem importTenant_jobTables {tenantId : String} {isNew : Bool}
    (h : importTenant lib now db tenantId = .ok (db', isNew)) : db'.jobTables = db.jobTables := by
  obtain ⟨-, rfl, -⟩ | ⟨tenants, -, rfl, -⟩ := importTenant_cases h
  · rfl
  · rfl

/-- The import of a job writes no event. -/
theorem importJob_events {row : LegacyJob} {isNew : Bool} (h : importJob lib db row = .ok (db', isNew)) :
    db'.jobTables.events = db.jobTables.events := by
  obtain ⟨-, rfl, -⟩ | ⟨_, _, _, _, jobTables, -, rfl, -, -, -, -, hinsert⟩ := importJob_cases h
  · rfl
  · exact (insertRow_kept hinsert).2

/-- The import of an event writes no job. -/
theorem importJobEvent_jobs {row : LegacyJobEvent} {isNew : Bool} (h : importJobEvent db row = .ok (db', isNew)) :
    db'.jobTables.jobs = db.jobTables.jobs := by
  obtain ⟨-, rfl, -⟩ | ⟨_, _, jobTables, -, rfl, -, -, hinsert⟩ := importJobEvent_cases h
  · rfl
  · exact (insertEvent_eq_some hinsert).1

/-- The import of a finding writes neither. -/
theorem importFinding_jobTables {state state' : Database × FindingIds} {row : LegacyFinding} {isNew : Bool}
    (h : importFinding lib text now state row = .ok (state', isNew)) : state'.1.jobTables = state.1.jobTables := by
  obtain ⟨finding, -, ⟨existing, -, -, rfl⟩ | ⟨findings, -, -, rfl⟩⟩ := importFinding_cases h
  · rfl
  · rfl

/-- The import of a correlation writes neither. -/
theorem importCorrelation_jobTables {ids : FindingIds} {row : LegacyCorrelation} {isNew : Bool}
    (h : importCorrelation lib ids now db row = .ok (db', isNew)) : db'.jobTables = db.jobTables := by
  obtain ⟨payload, -, ⟨-, rfl, -⟩ | ⟨new, items, -, -, -, hinsert⟩⟩ := importCorrelation_cases h
  · rfl
  · obtain ⟨correlations, correlationFindings, -, rfl⟩ := insertLinked_eq_some hinsert
    rfl

/-- An import of the file into an empty schema stores its jobs and events. -/
theorem importTables_same {lite : SqliteJobs.State} {path : String} {findings : Option (List LegacyFinding)}
    {correlations : Option (List LegacyCorrelation)} {result : Imported}
    (h : importTables lib text (lite.legacySource core path findings correlations) now .empty = .ok result) :
    result.db.jobTables.Same lite := by
  obtain ⟨db₁, db₂, db₃, db₄, ids, htenants, hjobs, hevents, hfindings, hcorrelations⟩ := importTables_eq_ok h
  have hempty : db₁.jobTables = .empty :=
    importAll_invariant (fun db : Database => db.jobTables = .empty)
      (fun _ _ _ _ _ hsame hstep => (importTenant_jobTables hstep).trans hsame) rfl htenants
  have hrecords : db₂.jobTables.jobs.rows.map JobRow.toJobRecord = lite.readJobs := by
    have happended := importAll_appends (fun db : Database => db.jobTables.jobs.rows.map JobRow.toJobRecord)
      JobRecord.id (LegacyJob.ofRecord core) (fun _ _ _ _ hnew hstep => importJob_ofRecord hnew hstep)
      (by rw [hempty]; exact fun _ _ _ hold => absurd hold List.not_mem_nil) lite.readJobs_distinct hjobs
    rw [happended, hempty]
    rfl
  have hnone : db₂.jobTables.events = .empty :=
    importAll_invariant (fun db : Database => db.jobTables.events = .empty)
      (fun _ _ _ _ _ hsame hstep => (importJob_events hstep).trans hsame) (by rw [hempty]; rfl) hjobs
  have hlogs : db₃.jobTables.events.rows = lite.readEvents := by
    have happended := importAll_appends (fun db : Database => db.jobTables.events.rows)
      (fun event => (event.key, event.sequence)) LegacyJobEvent.ofEvent
      (fun _ _ _ _ hnew hstep => importJobEvent_ofEvent hnew hstep)
      (by rw [hnone]; exact fun _ _ _ hold => absurd hold List.not_mem_nil) lite.readEvents_distinct hevents
    rw [happended, hnone]
    rfl
  have hkept : db₃.jobTables.jobs = db₂.jobTables.jobs :=
    importAll_invariant (fun db : Database => db.jobTables.jobs = db₂.jobTables.jobs)
      (fun _ _ _ _ _ hsame hstep => (importJobEvent_jobs hstep).trans hsame) rfl hevents
  have hkept' : db₄.jobTables = db₃.jobTables :=
    importAll_invariant (fun state : Database × FindingIds => state.1.jobTables = db₃.jobTables)
      (fun _ _ _ _ _ hsame hstep => (importFinding_jobTables hstep).trans hsame) rfl hfindings
  have hkept'' : result.db.jobTables = db₄.jobTables :=
    importAll_invariant (fun db : Database => db.jobTables = db₄.jobTables)
      (fun _ _ _ _ _ hsame hstep => (importCorrelation_jobTables hstep).trans hsame) rfl hcorrelations
  rw [hkept'', hkept']
  constructor
  · change (db₃.jobTables.jobs.rows.map JobRow.toJobRecord).Perm (lite.jobs.rows.map id)
    rw [hkept, hrecords, List.map_id]
    exact List.perm_insertionSort _ _
  · rw [hlogs]
    exact List.perm_insertionSort _ _

end Migration

/-! ### Both stores after an import -/

/-- What the reads of the two repositories return is the same, for every tenant and every job. -/
structure SameReads (db : Database) (lite : SqliteJobs.State) : Prop where
  get : ∀ key, SqlJobs.get db key = SqliteJobs.get lite key
  listJobs : ∀ tenantId status source limit,
    SqlJobs.listJobs db tenantId status source limit = SqliteJobs.listJobs lite tenantId status source limit
  findByIdempotencyKey : ∀ tenantId idempotencyKey,
    SqlJobs.findByIdempotencyKey db tenantId idempotencyKey = SqliteJobs.findByIdempotencyKey lite tenantId idempotencyKey
  listEvents : ∀ key afterSequence limit,
    SqlJobs.listEvents db key afterSequence limit = SqliteJobs.listEvents lite key afterSequence limit

/-- Stores that hold the same are read the same. -/
theorem Simulates.sameReads {served : String → Prop} {db : Database} {lite : SqliteJobs.State}
    (h : Simulates served db lite) : SameReads db lite where
  get := h.get
  listJobs := h.listJobs
  findByIdempotencyKey := h.findByIdempotencyKey
  listEvents key afterSequence limit := by
    rw [SqlJobs.listEvents, SqliteJobs.listEvents, h.tables.jobLog]

/-- After an import of the file into an empty schema, the relational database simulates the file for the tenants of
the file. -/
theorem run_simulates {core : CoreLibrary} {text : TextLibrary} {lib : MigrationLibrary core} {now : Instant}
    {lite : SqliteJobs.State} {path : String} {findings : Option (List LegacyFinding)}
    {correlations : Option (List LegacyCorrelation)} {target : MigrationTarget} {report : MigrationReport}
    (h : Migration.run lib text (lite.legacySource core path findings correlations) true now freshTarget =
      (target, .ok report)) :
    Simulates (· ∈ (lite.legacySource core path findings correlations).tenantIds) target.toDatabase lite := by
  obtain ⟨-, result, auditEvents, hresult, htables, -, -⟩ := Migration.run_imports h
  have hstored := Migration.importTables_stored hresult
  rw [htables]
  exact ⟨Migration.importTables_same hresult, fun tenantId htenant => Or.inl (hstored.tenants tenantId htenant)⟩

/-- An import of the file that calls of an `SQLiteJobRepository` have left into an empty schema preserves what every
read returns; and while both repositories perform the same calls with payloads that both can bind, and jobs are
created only for tenants of the file, they return or raise the same and are read the same. -/
theorem import_preserves_jobs {core : CoreLibrary} (lib : MigrationLibrary core) (text : TextLibrary)
    (spelling : Spelling) (nesting : ℕ) (history : List (RepositoryCall × Moment)) (path : String)
    (findings : Option (List LegacyFinding)) (correlations : Option (List LegacyCorrelation)) (now : Instant)
    (report : MigrationReport) :
    let lite := ((SqliteJobs.binding spelling nesting).performAllBound SqliteJobs.queried.empty history).1
    let source := SqliteJobs.State.legacySource core lite path findings correlations
    (Migration.run lib text source true now freshTarget).2 = .ok report →
    let db := (Migration.run lib text source true now freshTarget).1.toDatabase
    SameReads db lite ∧
      ∀ calls : List (RepositoryCall × Moment),
        (∀ call ∈ calls, ∀ tenantId ∈ call.1.ensured, tenantId ∈ source.tenantIds) →
        (∀ call ∈ calls, ∀ payload ∈ call.1.payload, Portable spelling nesting payload) →
        let relational := (SqlJobs.binding core spelling nesting).performAllBound db calls
        let legacy := (SqliteJobs.binding spelling nesting).performAllBound lite calls
        relational.2 = legacy.2 ∧ SameReads relational.1 legacy.1 := by
  intro lite source hrun db
  have hsimulates : Simulates (· ∈ source.tenantIds) db lite := run_simulates (Prod.ext rfl hrun)
  refine ⟨hsimulates.sameReads, fun calls hcalls hpayloads => ?_⟩
  obtain ⟨hresults, hafter⟩ := hsimulates.performAllBound hcalls hpayloads
  exact ⟨hresults, hafter.sameReads⟩

/-- What a gateway did with its file: one job that was finished, and one that was cancelled while queued. -/
def legacyHistory : List (RepositoryCall × Moment) :=
  [(.create "tenant-a" .soc (.obj [("range", .str "10.0.0.0/8")]) (some "legacy-request"), ⟨0, "1"⟩),
    (.markRunning ⟨"tenant-a", "job_1"⟩ true, ⟨1, "-"⟩),
    (.create "tenant-a" .vuln (.obj []) none, ⟨2, "2"⟩),
    (.appendEvent ⟨"tenant-a", "job_1"⟩ "finding" (.obj [("id", .str "f1")]), ⟨3, "-"⟩),
    (.transition ⟨"tenant-a", "job_1"⟩ .succeeded (some 1) none none, ⟨4, "-"⟩),
    (.requestCancel ⟨"tenant-a", "job_2"⟩, ⟨5, "-"⟩)]

/-- What is called on both stores after the import. -/
def callsAfterImport : List (RepositoryCall × Moment) :=
  [(.create "tenant-a" .soc (.obj []) (some "legacy-request"), ⟨20, "3"⟩),
    (.create "tenant-a" .lab (.obj []) none, ⟨21, "4"⟩),
    (.markRunning ⟨"tenant-a", "job_2"⟩ true, ⟨22, "-"⟩),
    (.appendEvent ⟨"tenant-a", "job_1"⟩ "note" (.obj []), ⟨23, "-"⟩),
    (.listEvents ⟨"tenant-a", "job_1"⟩ 0 50, ⟨24, "-"⟩),
    (.listJobs "tenant-b" none none 50, ⟨25, "-"⟩)]

/-- The file of that gateway. -/
def legacyFile : SqliteJobs.State :=
  ((SqliteJobs.binding FindingDict.surrogateSpelling 1000).performAllBound SqliteJobs.queried.empty legacyHistory).1

/-- Its import into an empty schema. -/
def legacyImport : MigrationTarget × Except MigrationError MigrationReport :=
  Migration.run sampleLibrary FindingDict.text
    (legacyFile.legacySource FindingDict.core "/data/legacy.sqlite3" none none) true 10 freshTarget

set_option maxRecDepth 8000 in
/-- The theorem applies to the file of that gateway. -/
theorem import_preserves_jobs_legacyHistory :
    ((SqlJobs.binding FindingDict.core FindingDict.surrogateSpelling 1000).performAllBound legacyImport.1.toDatabase
        callsAfterImport).2 =
      ((SqliteJobs.binding FindingDict.surrogateSpelling 1000).performAllBound legacyFile callsAfterImport).2 := by
  refine ((import_preserves_jobs sampleLibrary FindingDict.text FindingDict.surrogateSpelling 1000 legacyHistory
    "/data/legacy.sqlite3" none none 10 ⟨false, ⟨1, 2, 6, 0, 0⟩, ⟨1, 2, 6, 0, 0⟩, .zero⟩ (by decide +kernel)).2
    callsAfterImport (by decide +kernel) fun call hcall payload hpayload => ?_).1
  have hempty : payload = .obj [] := by
    simp only [callsAfterImport, List.mem_cons, List.not_mem_nil, or_false] at hcall
    rcases hcall with rfl | rfl | rfl | rfl | rfl | rfl <;> cases hpayload <;> rfl
  rw [hempty]
  exact ⟨.obj List.nodup_nil (List.forall_mem_nil _) (List.forall_mem_nil _), rfl⟩

/-- A job that is created after the import with a surrogate that stands alone in its payload. -/
def surrogateAfterImport : List (RepositoryCall × Moment) :=
  [(.create "tenant-a" .soc (.obj [("a", .str "\ufffd")]) none, ⟨20, "3"⟩)]

set_option maxRecDepth 8000 in
/-- The schema stores that job, and the file cannot bind its payload. -/
theorem import_preserves_jobs_surrogate :
    let relational := (SqlJobs.binding FindingDict.core FindingDict.surrogateSpelling 1000).performAllBound
      legacyImport.1.toDatabase surrogateAfterImport
    let legacy := (SqliteJobs.binding FindingDict.surrogateSpelling 1000).performAllBound legacyFile
      surrogateAfterImport
    legacyImport.2 = .ok ⟨false, ⟨1, 2, 6, 0, 0⟩, ⟨1, 2, 6, 0, 0⟩, .zero⟩ ∧
      (∀ call ∈ surrogateAfterImport, ∀ tenantId ∈ call.1.ensured,
        tenantId ∈ (legacyFile.legacySource FindingDict.core "/data/legacy.sqlite3" none none).tenantIds) ∧
      (∃ record, relational.2 = [.ok (.created record true)]) ∧ legacy.2 = [.error .unicodeEncodeError] ∧
      relational.2 ≠ legacy.2 :=
  ⟨by decide +kernel, by decide +kernel, ⟨_, rfl⟩, rfl, nofun⟩

end SharedIntegration

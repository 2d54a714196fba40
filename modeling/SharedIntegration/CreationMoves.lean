import SharedIntegration.Creation

/-!
# What the steps of a creation do

The columns that identify a job are written once, when its transaction commits; no later step of
`create_scan` changes them. A call of `create` that runs alone is the one-step `create` of the
repository.
-/

namespace SharedIntegration

open Relational Transition

/-- The columns of a job that no later write changes. -/
structure JobIdentity where
  key : JobKey
  source : FindingSource
  payload : Document
  idempotencyKey : Option String

/-- The identifying columns of a record. -/
def JobRecord.identity (record : JobRecord) : JobIdentity :=
  ⟨record.key, record.source, record.payload, record.idempotencyKey⟩

/-- The unique constraints of jobs, which read identifying columns only. -/
def JobIdentity.Conflict (a b : JobIdentity) : Prop :=
  a.key.jobId = b.key.jobId ∨
    (a.key.tenantId = b.key.tenantId ∧ a.idempotencyKey = b.idempotencyKey ∧ a.idempotencyKey ≠ none)

namespace Creation

/-- The jobs that are committed. -/
def identities (db : Database) : List JobIdentity :=
  db.jobTables.jobs.rows.map fun row => row.toJobRecord.identity

/-- The job that a call creates unless it finds one. -/
def Call.identity (call : Call) : JobIdentity := ⟨call.key, call.source, call.payload, call.idempotencyKey⟩

/-- The call has a key, and a committed job of its tenant has the same. -/
def Call.Matches (call : Call) (identity : JobIdentity) : Prop :=
  identity.key.tenantId = call.tenantId ∧ identity.idempotencyKey = call.idempotencyKey ∧
    call.idempotencyKey ≠ none

variable {core : CoreLibrary} {text : TextLibrary} {db db' : Database} {call : Call}

/-- Committed jobs do not share an id, nor a tenant and a key. -/
theorem identity_eq_of_conflict {a b : JobIdentity} (ha : a ∈ identities db) (hb : b ∈ identities db)
    (h : a.Conflict b) : a = b := by
  obtain ⟨row, hrow, rfl⟩ := List.mem_map.mp ha
  obtain ⟨row', hrow', rfl⟩ := List.mem_map.mp hb
  by_contra hne
  have hrows : row ≠ row' := fun heq => hne (by rw [heq])
  have hsymm : Std.Symm fun a b : JobRow => ¬ JobColumns.Conflict a b := by
    refine ⟨fun a b hab hba => hab ?_⟩
    rcases hba with hid | ⟨htenant, hkey, hsome⟩
    · exact Or.inl hid.symm
    · exact Or.inr ⟨htenant.symm, hkey.symm, hkey ▸ hsome⟩
  exact db.jobTables.jobs.consistent.forall hrow hrow' hrows h

/-- Committed jobs with the same tenant and key are one. -/
theorem identity_eq_of_matches {a b : JobIdentity} (ha : a ∈ identities db) (hb : b ∈ identities db)
    (hma : call.Matches a) (hmb : call.Matches b) : a = b := by
  obtain ⟨htenant, hkey, hsome⟩ := hma
  obtain ⟨htenant', hkey', -⟩ := hmb
  apply identity_eq_of_conflict ha hb
  exact Or.inr ⟨htenant.trans htenant'.symm, hkey.trans hkey'.symm, fun hnone => hsome (hkey ▸ hnone)⟩

/-- The job found by the key of a call is committed and has that key. -/
theorem existing_eq_some {job : JobRecord} (h : call.existing db = some job) :
    job.identity ∈ identities db ∧ call.Matches job.identity := by
  obtain ⟨text, htext, hfound⟩ := Option.bind_eq_some_iff.mp h
  obtain ⟨row, hrow, rfl⟩ := Option.map_eq_some_iff.mp hfound
  obtain ⟨hmem, hkeys⟩ := Table.find_eq_some hrow
  simp only [decide_eq_true_eq] at hkeys
  refine ⟨List.mem_map_of_mem hmem, hkeys.1, hkeys.2.trans htext.symm, ?_⟩
  rw [htext]
  exact Option.some_ne_none text

/-- A committed job with the key of a call is found. -/
theorem existing_isSome {identity : JobIdentity} (hmem : identity ∈ identities db)
    (hmatches : call.Matches identity) : (call.existing db).isSome := by
  obtain ⟨row, hrow, rfl⟩ := List.mem_map.mp hmem
  obtain ⟨htenant, hkey, hsome⟩ := hmatches
  obtain ⟨text, htext⟩ := Option.ne_none_iff_exists'.mp hsome
  have hwanted : row.tenantId = call.tenantId ∧ row.idempotencyKey = some text := ⟨htenant, hkey.trans htext⟩
  rw [Option.isSome_iff_ne_none]
  intro hnone
  simp only [Call.existing, htext, Option.bind_some, SqlJobs.findByIdempotencyKey, Option.map_eq_none_iff] at hnone
  have hmissed := (Table.find_eq_none_iff _ _).mp hnone row hrow
  simp [hwanted] at hmissed

/-- The job that is read under a key is committed under it. -/
theorem get_eq_some {key : JobKey} {job : JobRecord} (h : SqlJobs.get db key = some job) :
    job.identity ∈ identities db ∧ job.identity.key = key := by
  obtain ⟨v, hv, rfl⟩ := Option.map_eq_some_iff.mp h
  obtain ⟨row, hrow, hrecord⟩ := SqlJobs.findRow_of_view hv
  rw [← hrecord]
  exact ⟨List.mem_map_of_mem (Table.find_eq_some hrow).1, JobTables.findRow_key hrow⟩

/-- A committed job is read under its key. -/
theorem get_isSome {identity : JobIdentity} (hmem : identity ∈ identities db) :
    (SqlJobs.get db identity.key).isSome := by
  obtain ⟨row, hrow, rfl⟩ := List.mem_map.mp hmem
  have hfound := JobTables.findRow_of_mem hrow
  simp only [SqlJobs.get, SqlJobs.view, JobTables.view, Option.isSome_map]
  change (db.jobTables.findRow (JobColumns.record row).key).isSome = true
  rw [hfound]
  rfl

/-- What the next statement of a call does. -/
inductive Call.Move (core : CoreLibrary) (db : Database) (tenants : List TenantRow) (jobs : List JobRow)
    (call : Call) : Database → Pc → Prop
  | found (job : JobRecord) (hpc : call.pc = .finding ∨ call.pc = .recovering) (hjob : call.existing db = some job) :
    Move core db tenants jobs call db (.answer job false)
  | began (hpc : call.pc = .finding) : Move core db tenants jobs call db .readingTenant
  | tenantFound (hpc : call.pc = .readingTenant) : Move core db tenants jobs call db (.insertingJob none)
  | tenantMissed (hpc : call.pc = .readingTenant) : Move core db tenants jobs call db .insertingTenant
  | tenantRefused (hpc : call.pc = .insertingTenant) (row : TenantRow) (hrow : row ∈ db.tenants.rows)
    (hconflict : TenantRow.Conflict row call.tenantRow) : Move core db tenants jobs call db .recovering
  | tenantInserted (hpc : call.pc = .insertingTenant)
    (hwaits : ∀ row ∈ tenants, ¬ TenantRow.Conflict row call.tenantRow)
    (hfree : ∀ row ∈ db.tenants.rows, ¬ TenantRow.Conflict row call.tenantRow) :
    Move core db tenants jobs call db (.insertingJob (some call.tenantRow))
  | jobRefused (tenant : Option TenantRow) (hpc : call.pc = .insertingJob tenant) (identity : JobIdentity)
    (hmem : identity ∈ identities db) (hconflict : identity.Conflict call.identity) :
    Move core db tenants jobs call db .recovering
  | jobInserted (tenant : Option TenantRow) (hpc : call.pc = .insertingJob tenant)
    (hwaits : ∀ row ∈ jobs, ¬ row.identity.Conflict call.identity)
    (hfree : ∀ identity ∈ identities db, ¬ identity.Conflict call.identity) :
    Move core db tenants jobs call db (.committing tenant)
  | committed (db' : Database) (tenant : Option TenantRow) (hpc : call.pc = .committing tenant)
    (hcommit : call.commit core db tenant = some db') : Move core db tenants jobs call db' .reloading
  | unrecovered (hpc : call.pc = .recovering) (hjob : call.existing db = none) :
    Move core db tenants jobs call db (.raised .integrityError)
  | reloaded (job : JobRecord) (hpc : call.pc = .reloading) (hjob : SqlJobs.get db call.key = some job) :
    Move core db tenants jobs call db (.answer job true)
  | lost (hpc : call.pc = .reloading) (hjob : SqlJobs.get db call.key = none) :
    Move core db tenants jobs call db (.raised (.runtimeError "created job could not be reloaded"))

/-- Every statement of a call is one of these moves. -/
theorem advance_move {tenants : List TenantRow} {jobs : List JobRow} {pc' : Pc}
    (h : call.advance core db tenants jobs = some (db', pc')) : call.Move core db tenants jobs db' pc' := by
  unfold Call.advance at h
  split at h
  · next hpc =>
    split at h
    · next job hjob =>
      cases h
      exact .found job (Or.inl hpc) hjob
    · cases h
      exact .began hpc
  · next hpc =>
    split at h
    · cases h
      exact .tenantFound hpc
    · cases h
      exact .tenantMissed hpc
  · next hpc =>
    split at h
    · cases h
    · next hrefused =>
      cases h
      obtain ⟨row, hrow, hconflict⟩ := Table.tryInsert_eq_refused hrefused
      exact .tenantRefused hpc row hrow hconflict
    · next haccepted =>
      cases h
      obtain ⟨hwaits, hfree⟩ := (Table.tryInsert_eq_accepted _ _ _).mp haccepted
      exact .tenantInserted hpc hwaits hfree
  · next tenant hpc =>
    split at h
    · cases h
    · next hrefused =>
      cases h
      obtain ⟨row, hrow, hconflict⟩ := Table.tryInsert_eq_refused hrefused
      exact .jobRefused tenant hpc row.identity (List.mem_map_of_mem hrow) hconflict
    · next haccepted =>
      cases h
      obtain ⟨hwaits, hfree⟩ := (Table.tryInsert_eq_accepted _ _ _).mp haccepted
      refine .jobInserted tenant hpc hwaits ?_
      intro identity hmem
      obtain ⟨row, hrow, rfl⟩ := List.mem_map.mp hmem
      exact hfree row hrow
  · next tenant hpc =>
    obtain ⟨db₁, hcommit, heq⟩ := Option.map_eq_some_iff.mp h
    cases heq
    exact .committed _ tenant hpc hcommit
  · next hpc =>
    split at h
    · next job hjob =>
      cases h
      exact .found job (Or.inr hpc) hjob
    · next hnone =>
      cases h
      exact .unrecovered hpc hnone
  · next hpc =>
    split at h
    · next job hjob =>
      cases h
      exact .reloaded job hpc hjob
    · next hnone =>
      cases h
      exact .lost hpc hnone
  · cases h
  · cases h

/-- Appending an event leaves the jobs alone. -/
theorem jobs_appendEvent (tables : JobTables JobRow) (key : JobKey) (kind : String) (payload : Document)
    (now : Instant) : (tables.appendEvent key kind payload now).jobs = tables.jobs := by
  unfold JobTables.appendEvent
  split <;> rfl

/-- A commit adds the job of the call and the tenant that it has inserted. -/
theorem commit_eq_some {tenant : Option TenantRow} (h : call.commit core db tenant = some db') :
    identities db' = identities db ++ [call.identity] ∧ db'.tenants.rows = db.tenants.rows ++ tenant.toList := by
  simp only [Call.commit, Option.bind_eq_bind, Option.bind_eq_some_iff, Option.some.injEq] at h
  obtain ⟨tenants, htenants, jobTables, hjob, rfl⟩ := h
  constructor
  · unfold JobTables.insertRow at hjob
    split at hjob
    · cases hjob
      simp only [identities, SqlJobs.audit, jobs_appendEvent, Table.rows_push, List.map_append, List.map_cons,
        List.map_nil]
      rfl
    · cases hjob
  · change tenants.rows = _
    cases tenant with
    | none =>
      cases htenants
      simp
    | some row => exact (Table.insert_eq_some htenants).1

/-- A commit succeeds if what the call has inserted is still free. -/
theorem commit_isSome {tenant : Option TenantRow}
    (htenant : ∀ row ∈ tenant, ∀ old ∈ db.tenants.rows, ¬ TenantRow.Conflict old row)
    (hjob : ∀ identity ∈ identities db, ¬ identity.Conflict call.identity) :
    (call.commit core db tenant).isSome := by
  have hfree : ∀ old ∈ db.jobTables.jobs.rows, ¬ JobColumns.Conflict old call.jobRow :=
    fun old hold => hjob old.identity (List.mem_map_of_mem hold)
  have hinsert : ∃ jobTables, db.jobTables.insertRow call.jobRow = some jobTables := ⟨_, dif_pos hfree⟩
  obtain ⟨jobTables, hinsert⟩ := hinsert
  cases tenant with
  | none => simp [Call.commit, Call.committedTenants, hinsert]
  | some row => simp [Call.commit, Call.committedTenants, hinsert, Table.insert_of_free (htenant row rfl)]

/-- Writing other columns of a job leaves its identity. -/
theorem identities_updateJob (tables : JobTables JobRow) (key : JobKey) (condition : JobRecord → Bool)
    {change : JobRecord → JobRecord} (hkeeps : KeepsIdentity change)
    (hchange : ∀ record, (change record).identity = record.identity) :
    (tables.updateJob key condition change hkeeps).jobs.rows.map (fun row => row.toJobRecord.identity) =
      tables.jobs.rows.map fun row => row.toJobRecord.identity := by
  simp only [JobTables.updateJob, Table.rows_update, List.map_map]
  apply List.map_congr_left
  intro row _
  simp only [Function.comp_apply]
  split
  · exact hchange row.toJobRecord
  · rfl

/-- `set_dispatch_id` writes no identifying column. -/
theorem identities_setDispatchId (db : Database) (m : Moment) (key : JobKey) (dispatchId : String) :
    identities (SqlJobs.setDispatchId db m key dispatchId) = identities db :=
  identities_updateJob _ _ _ (recordDispatch_keeps m.now dispatchId) fun _ => rfl

/-- `transition` writes no identifying column. -/
theorem identities_transition {m : Moment} {key : JobKey} {status : JobStatus} {resultCount : Option ℕ}
    {errorCode errorMessage : Option String} {record : JobRecord}
    (h : SqlJobs.transition db m key status resultCount errorCode errorMessage = .ok (db', record)) :
    identities db' = identities db ∧ db'.tenants = db.tenants := by
  unfold SqlJobs.transition at h
  split at h
  · cases h
  · unfold SqlJobs.required at h
    dsimp only at h
    split at h
    · cases h
      refine ⟨?_, rfl⟩
      simp only [identities, SqlJobs.audit, jobs_appendEvent]
      exact identities_updateJob _ _ _ (writeStatus_keeps m.now status resultCount errorCode errorMessage) fun _ => rfl
    · cases h

/-- The scan of a created job is submitted, or about to be. -/
def submitting (scan : ScanPc) : Option JobRecord :=
  match scan with
  | .submitting job => some job
  | _ => none

/-- A further step of `create_scan` stores no job, and submits one only once. -/
theorem continueScan_spec {m : Moment} {event : ScanEvent} {pc' : Pc} {job : JobRecord} {created : Bool}
    {scan : ScanPc} (hpc : call.pc = .returned job created scan) (hscan : scan ≠ .creating)
    (h : call.continueScan (relationalBackend core text) db m event = some (db', pc')) :
    identities db' = identities db ∧ db'.tenants = db.tenants ∧
      ∃ scan', pc' = .returned job created scan' ∧ scan' ≠ .creating ∧ submitting scan' = none := by
  simp only [Call.continueScan, hpc, Option.map_eq_some_iff, Prod.exists] at h
  obtain ⟨db₁, scan', messages, hstep, heq⟩ := h
  cases heq
  unfold ScanCall.step at hstep
  split at hstep
  · split at hstep
    · next hcreating => exact absurd hcreating hscan
    · cases hstep
      exact ⟨identities_setDispatchId _ _ _ _, rfl, _, rfl, nofun, rfl⟩
    · split at hstep
      · cases hstep
        exact ⟨rfl, rfl, _, rfl, nofun, rfl⟩
      · cases hstep
        exact ⟨rfl, rfl, _, rfl, nofun, rfl⟩
    · split at hstep
      · next htransition =>
        cases hstep
        obtain ⟨hidentities, htenants⟩ := identities_transition htransition
        exact ⟨hidentities, htenants, _, rfl, nofun, rfl⟩
      · cases hstep
        exact ⟨rfl, rfl, _, rfl, nofun, rfl⟩
    · cases hstep
  · next published result =>
    split at hstep
    · cases result with
      | ok dispatchId =>
        cases hstep
        exact ⟨rfl, rfl, _, rfl, nofun, rfl⟩
      | error message =>
        cases hstep
        exact ⟨rfl, rfl, _, rfl, nofun, rfl⟩
    · cases hstep

/-- Only a job that is about to be submitted is. -/
theorem submission_eq_some {event : ScanEvent} {key : JobKey} (h : call.submission event = some key) :
    ∃ job created submitted, call.pc = .returned job created (.submitting submitted) ∧ key = submitted.key := by
  unfold Call.submission at h
  split at h
  · next hpc =>
    cases h
    exact ⟨_, _, _, hpc, rfl⟩
  · cases h

/-- Some steps of a call with no other call beside it. -/
def Call.alone (core : CoreLibrary) : ℕ → Database → Call → Database × Pc
  | 0, db, call => (db, call.pc)
  | steps + 1, db, call =>
    match call.advance core db [] [] with
    | some (db', pc) => alone core steps db' (call.goto pc)
    | none => (db, call.pc)

/-- A statement of a call that runs alone. -/
theorem alone_succ {steps : ℕ} {pc : Pc} (h : call.advance core db [] [] = some (db', pc)) :
    Call.alone core (steps + 1) db call = Call.alone core steps db' (call.goto pc) := by
  rw [Call.alone, h]

/-- A call that has returned stays so. -/
theorem alone_answer (core : CoreLibrary) (steps : ℕ) (db : Database) (call : Call) (job : JobRecord)
    (created : Bool) : Call.alone core steps db (call.goto (.answer job created)) = (db, .answer job created) := by
  cases steps with
  | zero => rfl
  | succ steps => rfl

/-- A call whose insert was refused, and whose key has no job, raises the integrity error. -/
theorem alone_recovering (core : CoreLibrary) (steps : ℕ) (hnone : call.existing db = none) :
    Call.alone core (steps + 2) db (call.goto .recovering) = (db, .raised .integrityError) := by
  have hadvance : (call.goto .recovering).advance core db [] [] = some (db, .raised .integrityError) := by
    simp [Call.advance, hnone]
  rw [alone_succ hadvance]
  rfl

/-- A call that is about to insert its job either creates it or raises the integrity error. -/
theorem alone_insertingJob {tenant : Option TenantRow} (htenant : (Call.committedTenants db tenant).isSome)
    (hnone : call.existing db = none) :
    (∃ db' job, call.commit core db tenant = some db' ∧ SqlJobs.get db' call.key = some job ∧
      ∀ steps, Call.alone core (steps + 4) db (call.goto (.insertingJob tenant)) = (db', .answer job true)) ∨
    (call.commit core db tenant = none ∧
      ∀ steps, Call.alone core (steps + 4) db (call.goto (.insertingJob tenant)) = (db, .raised .integrityError)) := by
  obtain ⟨tenants, htenants⟩ := Option.isSome_iff_exists.mp htenant
  by_cases hfree : ∀ old ∈ db.jobTables.jobs.rows, ¬ JobColumns.Conflict old call.jobRow
  · have hrow : ∃ jobTables, db.jobTables.insertRow call.jobRow = some jobTables := ⟨_, dif_pos hfree⟩
    obtain ⟨jobTables, hrow⟩ := hrow
    obtain ⟨db', hcommit⟩ : ∃ db', call.commit core db tenant = some db' := by
      simp [Call.commit, htenants, hrow]
    have hmem : call.identity ∈ identities db' := by
      rw [(commit_eq_some hcommit).1]
      exact List.mem_append_right _ List.mem_cons_self
    obtain ⟨job, hget⟩ := Option.isSome_iff_exists.mp (get_isSome hmem)
    refine Or.inl ⟨db', job, hcommit, hget, fun steps => ?_⟩
    have haccepted : (call.goto (.insertingJob tenant)).advance core db [] [] = some (db, .committing tenant) := by
      have hnew : db.jobTables.jobs.tryInsert [] call.jobRow = .accepted :=
        (Table.tryInsert_eq_accepted _ [] _).mpr ⟨by simp, hfree⟩
      simp [Call.advance, hnew]
    have hcommitted : (call.goto (.committing tenant)).advance core db [] [] = some (db', .reloading) := by
      simp [Call.advance, hcommit]
    have hreloaded : (call.goto .reloading).advance core db' [] [] = some (db', .answer job true) := by
      have hget' : SqlJobs.get db' call.key = some job := hget
      simp [Call.advance, hget']
    rw [alone_succ haccepted]
    change Call.alone core (steps + 3) db (call.goto (.committing tenant)) = _
    rw [alone_succ hcommitted]
    change Call.alone core (steps + 2) db' (call.goto .reloading) = _
    rw [alone_succ hreloaded]
    exact alone_answer core _ db' call job true
  · refine Or.inr ⟨?_, fun steps => ?_⟩
    · have hrow : db.jobTables.insertRow call.jobRow = none := dif_neg hfree
      simp [Call.commit, htenants, hrow]
    · have hrefused : (call.goto (.insertingJob tenant)).advance core db [] [] = some (db, .recovering) := by
        have hnew : db.jobTables.jobs.tryInsert [] call.jobRow = .refused := by
          have hinsert : db.jobTables.jobs.insert call.jobRow = none :=
            (Table.insert_eq_none_iff _ _).mpr (by simpa using hfree)
          rw [Table.tryInsert_alone, hinsert]
          rfl
        simp [Call.advance, hnew]
      rw [alone_succ hrefused]
      exact alone_recovering core (steps + 1) hnone

/-- The one-step `create` commits what the call does, depending on whether it finds its tenant. -/
theorem insertJob_eq_commit (core : CoreLibrary) (db : Database) (call : Call) :
    SqlJobs.insertJob core db call.moment call.tenantId call.source call.payload call.idempotencyKey =
      call.commit core db
        (if (db.tenants.find fun row => row.id = call.tenantId).isSome then none else some call.tenantRow) := by
  unfold SqlJobs.insertJob Call.commit SqlJobs.ensureTenant
  split
  · next hfound =>
    rw [hfound]
    rfl
  · next hmissed =>
    rw [hmissed]
    rfl

/-- A call of `create` that runs alone does what the repository's `create` does in one step. -/
theorem alone_eq_create (core : CoreLibrary) (db : Database) (call : Call) :
    Call.alone core 7 db (call.goto .finding) =
      match SqlJobs.create core db call.moment call.tenantId call.source call.payload call.idempotencyKey with
      | .ok (db', job, created) => (db', .answer job created)
      | .error error => (db, .raised error) := by
  have hcreate := insertJob_eq_commit core db call
  have hlookup : call.idempotencyKey.bind (SqlJobs.findByIdempotencyKey db call.tenantId) = call.existing db := rfl
  cases hexisting : call.existing db with
  | some job =>
    have hfound : (call.goto .finding).advance core db [] [] = some (db, .answer job false) := by
      simp [Call.advance, hexisting]
    unfold SqlJobs.create
    rw [hlookup, hexisting, alone_succ hfound]
    exact alone_answer core 6 db call job false
  | none =>
    have hbegan : (call.goto .finding).advance core db [] [] = some (db, .readingTenant) := by
      simp [Call.advance, hexisting]
    rw [alone_succ hbegan]
    change Call.alone core 6 db (call.goto .readingTenant) = _
    -- what remains once the tenant is stored or can be
    have hinsert : ∀ tenant steps, (Call.committedTenants db tenant).isSome →
        SqlJobs.insertJob core db call.moment call.tenantId call.source call.payload call.idempotencyKey =
          call.commit core db tenant →
        Call.alone core (steps + 4) db (call.goto (.insertingJob tenant)) =
          match SqlJobs.create core db call.moment call.tenantId call.source call.payload call.idempotencyKey with
          | .ok (db', job, created) => (db', .answer job created)
          | .error error => (db, .raised error) := by
      intro tenant steps htenant heq
      unfold SqlJobs.create
      rw [hlookup, hexisting]
      obtain ⟨db', job, hcommit, hget, halone⟩ | ⟨hcommit, halone⟩ :=
        @alone_insertingJob core db call tenant htenant hexisting
      · change SqlJobs.get db' ⟨call.tenantId, "job_" ++ call.moment.uuid⟩ = some job at hget
        simp only [halone, heq, hcommit, hget]
      · simp only [halone, heq, hcommit]
    cases hfind : db.tenants.find fun row => row.id = call.tenantId with
    | some row =>
      have hread : (call.goto .readingTenant).advance core db [] [] = some (db, .insertingJob none) := by
        have hfind' : (db.tenants.find fun row => row.id = (call.goto .readingTenant).tenantId) = some row := hfind
        simp [Call.advance, hfind']
      rw [hfind, Option.isSome_some, if_pos rfl] at hcreate
      rw [alone_succ hread]
      exact hinsert none 1 rfl hcreate
    | none =>
      have hread : (call.goto .readingTenant).advance core db [] [] = some (db, .insertingTenant) := by
        have hfind' : (db.tenants.find fun row => row.id = (call.goto .readingTenant).tenantId) = none := hfind
        simp [Call.advance, hfind']
      rw [hfind, Option.isSome_none, if_neg Bool.false_ne_true] at hcreate
      rw [alone_succ hread]
      change Call.alone core 5 db (call.goto .insertingTenant) = _
      have htry := db.tenants.tryInsert_alone call.tenantRow
      cases htenant : db.tenants.insert call.tenantRow with
      | some tenants =>
        rw [htenant, Option.isSome_some, if_pos rfl] at htry
        have hinserted : (call.goto .insertingTenant).advance core db [] [] =
            some (db, .insertingJob (some call.tenantRow)) := by
          simp [Call.advance, htry]
        rw [alone_succ hinserted]
        exact hinsert (some call.tenantRow) 0 (by simp [Call.committedTenants, htenant]) hcreate
      | none =>
        rw [htenant, Option.isSome_none, if_neg Bool.false_ne_true] at htry
        have hrefused : (call.goto .insertingTenant).advance core db [] [] = some (db, .recovering) := by
          simp [Call.advance, htry]
        have hcommit : call.commit core db (some call.tenantRow) = none := by
          simp [Call.commit, Call.committedTenants, htenant]
        unfold SqlJobs.create
        rw [hlookup, hexisting, hcreate, hcommit, alone_succ hrefused]
        exact alone_recovering core 2 hexisting

end Creation

end SharedIntegration

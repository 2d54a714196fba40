import Mathlib.Algebra.GroupWithZero.Nat
import SharedIntegration.CreationSafety
import SharedIntegration.FindingDict

/-!
# What concurrent creations come to

Every call of `create` ends, no two wait for each other, and each key gets one job. A call raises
only if its insert of the tenant's default row is refused at a moment when its key has no job;
runs in which no insert of that kind is refused create every job that they were asked for.
-/

namespace SharedIntegration

open Relational Transition

namespace Creation

variable {core : CoreLibrary} {text : TextLibrary} {db db' db₀ : Database} {s s' : System} {call : Call}

/-- How many statements a call has before it at most. -/
def Pc.remaining : Pc → ℕ
  | .finding => 7
  | .readingTenant => 6
  | .insertingTenant => 5
  | .insertingJob _ => 4
  | .committing _ => 3
  | .recovering | .reloading => 1
  | .raised _ | .returned _ _ _ => 0

/-- How many statements all calls have before them at most. -/
def System.remaining (s : System) : ℕ := (s.calls.map fun call => call.pc.remaining).sum

/-- Every statement brings its call nearer to its end. -/
theorem Call.Move.remaining_lt {tenants : List TenantRow} {jobs : List JobRow} {pc' : Pc}
    (h : call.Move core db tenants jobs db' pc') : pc'.remaining < call.pc.remaining := by
  cases h with
  | found job hpc hjob => rcases hpc with hpc | hpc <;> simp [hpc, Pc.remaining, Pc.answer]
  | _ => simp_all [Pc.remaining, Pc.answer]

/-- Every statement of a call brings the system nearer to its end. -/
theorem advance_remaining {index : ℕ} (h : s.step core text (.advance index) = some s') :
    s'.remaining < s.remaining := by
  obtain ⟨before, call, after, db', pc', hsplit, -, hmove, rfl⟩ := advance_eq_some h
  have hlt := hmove.remaining_lt
  simp only [System.remaining, hsplit, List.map_append, List.map_cons, List.sum_append, List.sum_cons, Call.goto_pc]
  omega

/-- A statement is not held up unless an uncommitted row is in the way of an insert. -/
theorem advance_isSome {tenants : List TenantRow} {jobs : List JobRow} (hpc : call.pc.remaining ≠ 0)
    (htenant : call.pc = .insertingTenant → tenants = []) (hjob : ∀ tenant, call.pc = .insertingJob tenant → jobs = [])
    (hcommit : ∀ tenant, call.pc = .committing tenant → (call.commit core db tenant).isSome) :
    (call.advance core db tenants jobs).isSome := by
  unfold Call.advance
  split
  · split <;> rfl
  · split <;> rfl
  · next hinserting =>
    split
    · next hwaits =>
      obtain ⟨row, hrow, -⟩ := Table.tryInsert_eq_waits hwaits
      simp [htenant hinserting] at hrow
    · rfl
    · rfl
  · next tenant hinserting =>
    split
    · next hwaits =>
      obtain ⟨row, hrow, -⟩ := Table.tryInsert_eq_waits hwaits
      simp [hjob tenant hinserting] at hrow
    · rfl
    · rfl
  · next tenant hcommitting =>
    rw [Option.isSome_map]
    exact hcommit tenant hcommitting
  · split <;> rfl
  · split <;> rfl
  · next hraised => simp [hraised, Pc.remaining] at hpc
  · next hreturned => simp [hreturned, Pc.remaining] at hpc

/-- A call whose statement is not held up takes its step. -/
theorem step_isSome {index : ℕ} (hcall : s.calls[index]? = some call)
    (hadvance : (call.advance core s.db ((s.calls.eraseIdx index).filterMap Call.uncommittedTenant)
      ((s.calls.eraseIdx index).filterMap Call.uncommittedJob)).isSome) :
    (s.step core text (.advance index)).isSome := by
  obtain ⟨⟨db', pc'⟩, hadvance⟩ := Option.isSome_iff_exists.mp hadvance
  simp [System.step, hcall, hadvance]

/-- Calls that are not at an insert of this kind have no rows of it. -/
theorem filterMap_eq_nil {Row : Type} {rows : Call → Option Row} {calls : List Call} (index : ℕ)
    (h : ∀ call ∈ calls, rows call = none) : (calls.eraseIdx index).filterMap rows = [] :=
  List.filterMap_eq_nil_iff.mpr fun call hcall => h call ((List.eraseIdx_sublist _ _).mem hcall)

/-- No two calls wait for each other: while one has not ended, one can take its next step. -/
theorem System.Sound.progress (text : TextLibrary) (h : s.Sound db₀)
    (hopen : ∃ call ∈ s.calls, call.pc.remaining ≠ 0) :
    ∃ index, (s.step core text (.advance index)).isSome := by
  by_cases hcommitting : ∃ call ∈ s.calls, ∃ tenant, call.pc = .committing tenant
  -- a transaction that is about to commit waits for nobody
  · obtain ⟨call, hcall, tenant, hpc⟩ := hcommitting
    obtain ⟨index, hindex⟩ := List.mem_iff_getElem?.mp hcall
    have hsound := h.calls call hcall
    refine ⟨index, step_isSome hindex ?_⟩
    apply advance_isSome
    · simp [hpc, Pc.remaining]
    · simp [hpc]
    · simp [hpc]
    · intro tenant' hpc'
      apply commit_isSome
      · exact fun row hrow => hsound.tenantFree row (by simpa [Call.uncommittedTenant, hpc'] using hrow)
      · exact hsound.jobFree call.jobRow (by simp [Call.uncommittedJob, hpc'])
  · have hjobs : ∀ call ∈ s.calls, call.uncommittedJob = none := by
      intro call hcall
      unfold Call.uncommittedJob
      split
      · next tenant hpc => exact absurd ⟨call, hcall, tenant, hpc⟩ hcommitting
      · rfl
    by_cases hinserting : ∃ call ∈ s.calls, ∃ tenant, call.pc = .insertingJob tenant
    -- with no uncommitted jobs an insert of a job waits for nobody
    · obtain ⟨call, hcall, tenant, hpc⟩ := hinserting
      obtain ⟨index, hindex⟩ := List.mem_iff_getElem?.mp hcall
      refine ⟨index, step_isSome hindex ?_⟩
      apply advance_isSome
      · simp [hpc, Pc.remaining]
      · simp [hpc]
      · exact fun _ _ => filterMap_eq_nil index hjobs
      · simp [hpc]
    -- and with no uncommitted tenants either nobody waits
    · obtain ⟨call, hcall, hremaining⟩ := hopen
      obtain ⟨index, hindex⟩ := List.mem_iff_getElem?.mp hcall
      have htenants : ∀ call ∈ s.calls, call.uncommittedTenant = none := by
        intro call hcall
        unfold Call.uncommittedTenant
        split
        · next tenant hpc => exact absurd ⟨call, hcall, tenant, hpc⟩ hinserting
        · next tenant hpc => exact absurd ⟨call, hcall, tenant, hpc⟩ hcommitting
        · rfl
      refine ⟨index, step_isSome hindex ?_⟩
      apply advance_isSome hremaining
      · exact fun _ => filterMap_eq_nil index htenants
      · exact fun tenant hpc => absurd ⟨call, hcall, tenant, hpc⟩ hinserting
      · exact fun tenant hpc => absurd ⟨call, hcall, tenant, hpc⟩ hcommitting

/-- If a call is about to insert the default row of its tenant, no other tenant has its id or slug, or
the call's key has a job. -/
def Call.TenantFree (db : Database) (call : Call) : Prop :=
  match call.pc with
  | .insertingTenant =>
    (∀ row ∈ db.tenants.rows, ¬ TenantRow.Conflict row call.tenantRow) ∨ (call.existing db).isSome
  | _ => True

instance (db : Database) (call : Call) : Decidable (call.TenantFree db) := by
  unfold Call.TenantFree
  split <;> infer_instance

/-- The step does not insert the default row of a tenant that another call has committed in the
meantime, unless the key of the step's call has a job. -/
def System.TenantFree (s : System) : Label → Prop
  | .advance index => ∀ call ∈ s.calls[index]?, call.TenantFree s.db
  | _ => True

instance (s : System) (label : Label) : Decidable (s.TenantFree label) := by
  cases label <;> unfold System.TenantFree <;> infer_instance

/-- A call that has to recover has a job to recover, and no call has raised. -/
structure Call.Recovers (db : Database) (call : Call) : Prop where
  recovers : call.pc = .recovering → ∃ identity ∈ identities db, call.Matches identity
  total : ∀ error, call.pc ≠ .raised error

/-- No statement drops a committed job. -/
theorem Call.Move.kept {tenants : List TenantRow} {jobs : List JobRow} {pc' : Pc}
    (h : call.Move core db tenants jobs db' pc') :
    ∀ identity ∈ Creation.identities db, identity ∈ Creation.identities db' := by
  intro identity hidentity
  obtain ⟨hsame, -⟩ | ⟨hadded, -⟩ := h.identities
  · exact hsame ▸ hidentity
  · rw [hadded]
    exact List.mem_append_left _ hidentity

/-- What a call has to recover stays while committed jobs do. -/
theorem Call.Recovers.mono (h : call.Recovers db)
    (hkept : ∀ identity ∈ identities db, identity ∈ identities db') : call.Recovers db' where
  recovers hpc := by
    obtain ⟨identity, hidentity, hmatches⟩ := h.recovers hpc
    exact ⟨identity, hkept identity hidentity, hmatches⟩
  total := h.total

/-- A job insert that conflicts conflicts with the job of the call's key. -/
theorem matches_of_conflict {identity : JobIdentity} (hid : identity.key.jobId ≠ call.key.jobId)
    (hconflict : identity.Conflict call.identity) : call.Matches identity := by
  rcases hconflict with heq | ⟨htenant, hkey, hsome⟩
  · exact absurd heq hid
  · exact ⟨htenant, hkey, fun hnone => hsome (hkey.trans hnone)⟩

/-- A call that the condition admits recovers. -/
theorem Call.Move.recovers {tenants : List TenantRow} {jobs : List JobRow} {pc' : Pc}
    (h : call.Move core db tenants jobs db' pc') (hsound : call.Sound db) (hrecovers : call.Recovers db)
    (hfree : call.TenantFree db) : (call.goto pc').Recovers db' := by
  cases h with
  | tenantRefused hpc row hrow hconflict =>
    simp only [Call.TenantFree, hpc] at hfree
    rcases hfree with hfree | hexisting
    · exact absurd hconflict (hfree row hrow)
    · obtain ⟨job, hjob⟩ := Option.isSome_iff_exists.mp hexisting
      exact ⟨fun _ => ⟨job.identity, existing_eq_some hjob⟩, by simp⟩
  | jobRefused tenant hpc identity hmem hconflict =>
    have hid := hsound.unstored (by simp [Call.Committed, hpc]) identity hmem
    exact ⟨fun _ => ⟨identity, hmem, matches_of_conflict hid hconflict⟩, by simp⟩
  | unrecovered hpc hjob =>
    obtain ⟨identity, hidentity, hmatches⟩ := hrecovers.recovers hpc
    have hsome := existing_isSome hidentity hmatches
    rw [hjob] at hsome
    exact absurd hsome Bool.false_ne_true
  | lost hpc hjob =>
    have hsome := get_isSome (hsound.stored (by simp [Call.Committed, hpc]))
    rw [show call.identity.key = call.key from rfl, hjob] at hsome
    exact absurd hsome Bool.false_ne_true
  | _ => exact ⟨by simp [Pc.answer], by simp [Pc.answer]⟩

/-- Every admitted step keeps all calls recoverable. -/
theorem recovers_step {label : Label} (hsound : s.Sound db₀) (h : ∀ call ∈ s.calls, call.Recovers s.db)
    (hfree : s.TenantFree label) (hstep : s.step core text label = some s') :
    ∀ call ∈ s'.calls, call.Recovers s'.db := by
  cases label with
  | start tenantId source payload idempotencyKey m =>
    obtain ⟨-, rfl⟩ := start_eq_some hstep
    intro call hcall
    rcases List.mem_append.mp hcall with hold | hnew
    · exact h call hold
    · rw [List.mem_singleton.mp hnew]
      exact ⟨by simp, by simp⟩
  | advance index =>
    obtain ⟨before, call, after, db', pc', hsplit, hindex, hmove, rfl⟩ := advance_eq_some hstep
    have hcall : call ∈ s.calls := by simp [hsplit]
    refine forall_mem_of_split hsplit rfl (fun c hc => (h c hc).mono hmove.kept) ?_
    exact hmove.recovers (hsound.calls call hcall) (h call hcall) (hfree call (getElem?_of_split hsplit hindex))
  | scan index event m =>
    obtain ⟨before, call, after, db', pc', hsplit, -, hscan, rfl⟩ := scan_eq_some hstep
    have hcall : call ∈ s.calls := by simp [hsplit]
    obtain ⟨job, created, scan, hpc⟩ := returned_of_continueScan hscan
    have hanswers := (hsound.calls call hcall).answers job created scan hpc
    obtain ⟨hidentities, -, scan', rfl, -, -⟩ := continueScan_spec hpc hanswers.begun hscan
    refine forall_mem_of_split hsplit rfl (fun c hc => (h c hc).mono fun _ => hidentities ▸ id) ?_
    exact ⟨by simp, by simp⟩

/-- What the calls of a run that began with the committed rows `db₀` have come to. -/
structure System.CreatesOnce (core : CoreLibrary) (text : TextLibrary) (db₀ : Database) (s : System) : Prop where
  /-- No call raises, -/
  total : ∀ call ∈ s.calls, ∀ error, call.pc ≠ .raised error
  /-- a statement brings its call nearer to its end, -/
  ends : ∀ index s', s.step core text (.advance index) = some s' → s'.remaining < s.remaining
  /-- and until all have ended one of them can take its next. -/
  progress : (∃ call ∈ s.calls, call.pc.remaining ≠ 0) → ∃ index, (s.step core text (.advance index)).isSome
  /-- The job that a call returns is stored. -/
  stored : ∀ call ∈ s.calls, ∀ job created, call.Returned job created →
    ∃ row ∈ s.db.jobTables.jobs.rows, row.toJobRecord.identity = job.identity
  /-- It is the one job of the call's tenant and key, -/
  one_row : ∀ call ∈ s.calls, ∀ job created, call.Returned job created → ∀ key, call.idempotencyKey = some key →
    (s.db.jobTables.jobs.select fun row => row.tenantId = call.tenantId ∧ row.idempotencyKey = some key).map
      (fun row => row.toJobRecord.identity) = [job.identity]
  /-- the one that a call with this tenant and key created from its own source and payload. -/
  same_job : ∀ call ∈ s.calls, ∀ job created, call.Returned job created →
    ∀ creator ∈ s.calls, ∀ job', creator.Returned job' true → creator.tenantId = call.tenantId →
      creator.idempotencyKey = call.idempotencyKey → call.idempotencyKey ≠ none →
        job.key = job'.key ∧ job.source = creator.source ∧ job.payload = creator.payload
  /-- When all calls have ended, exactly one has created the job of a tenant and a key, -/
  one_creator : (∀ call ∈ s.calls, call.pc.remaining = 0) → ∀ tenantId key,
    (∀ row ∈ db₀.jobTables.jobs.rows, ¬ (row.tenantId = tenantId ∧ row.idempotencyKey = some key)) →
    (∃ call ∈ s.calls, call.tenantId = tenantId ∧ call.idempotencyKey = some key) →
    ∃! index : ℕ, ∃ call : Call, s.calls[index]? = some call ∧ call.tenantId = tenantId ∧
      call.idempotencyKey = some key ∧ ∃ job, call.Returned job true
  /-- and a call without a key has created its job. -/
  own_job : ∀ call ∈ s.calls, ∀ job created, call.Returned job created → call.idempotencyKey = none →
    created = true ∧ job.source = call.source ∧ job.payload = call.payload
  /-- No two calls create the same job, -/
  distinct : ∀ (i j : ℕ) (a b : Call) (job job' : JobRecord), s.calls[i]? = some a → s.calls[j]? = some b →
    a.Returned job true → b.Returned job' true → job.id = job'.id → i = j
  /-- and no job is submitted twice. -/
  submitted_once : s.submitted.Nodup

/-- Job rows with the tenant and the key of a call have its match as identity. -/
theorem select_identity {key : String} {identity : JobIdentity} (hkey : call.idempotencyKey = some key)
    (hmem : identity ∈ identities db) (hmatches : call.Matches identity) :
    (db.jobTables.jobs.select fun row => row.tenantId = call.tenantId ∧ row.idempotencyKey = some key).map
      (fun row => row.toJobRecord.identity) = [identity] := by
  obtain ⟨row, hrow, rfl⟩ := List.mem_map.mp hmem
  have hwanted : row.tenantId = call.tenantId ∧ row.idempotencyKey = some key :=
    ⟨hmatches.1, hmatches.2.1.trans hkey⟩
  rw [Table.select_eq_toList_find]
  · rw [Table.find_eq_some_of_mem _ _ _ hrow (by simpa using hwanted)]
    · rfl
    · intro a b ha hb
      simp only [decide_eq_true_eq] at ha hb
      exact Or.inr ⟨ha.1.trans hb.1.symm, ha.2.trans hb.2.symm, by simp [JobColumns.record, ha.2]⟩
  · intro a b ha hb
    simp only [decide_eq_true_eq] at ha hb
    exact Or.inr ⟨ha.1.trans hb.1.symm, ha.2.trans hb.2.symm, by simp [JobColumns.record, ha.2]⟩

/-- What a call with a key returns has its tenant and key. -/
theorem Call.Answers.matches {job : JobRecord} {created : Bool} {scan : ScanPc}
    (h : call.Answers db job created scan) (hkey : call.idempotencyKey ≠ none) : call.Matches job.identity := by
  cases created with
  | true =>
    rw [h.own rfl]
    exact ⟨rfl, rfl, hkey⟩
  | false => exact h.found rfl

/-- When all calls have ended, one of them has created the job of a key that had none. -/
theorem System.Sound.exists_creator (h : s.Sound db₀) (hrecovers : ∀ call ∈ s.calls, call.Recovers s.db)
    (hended : ∀ call ∈ s.calls, call.pc.remaining = 0) {tenantId key : String}
    (hnew : ∀ row ∈ db₀.jobTables.jobs.rows, ¬ (row.tenantId = tenantId ∧ row.idempotencyKey = some key))
    (hcall : call ∈ s.calls) (htenant : call.tenantId = tenantId) (hkey : call.idempotencyKey = some key) :
    ∃ creator ∈ s.calls, creator.tenantId = tenantId ∧ creator.idempotencyKey = some key ∧
      ∃ job, creator.Returned job true := by
  have hreturned : ∀ c ∈ s.calls, ∃ job created scan, c.pc = .returned job created scan := by
    intro c hc
    have hzero := hended c hc
    have htotal := (hrecovers c hc).total
    cases hpc : c.pc with
    | raised error => exact absurd hpc (htotal error)
    | returned job created scan => exact ⟨job, created, scan, rfl⟩
    | _ => simp [hpc, Pc.remaining] at hzero
  obtain ⟨job, created, scan, hpc⟩ := hreturned call hcall
  have hanswers := (h.calls call hcall).answers job created scan hpc
  have hmatches := hanswers.matches (by simp [hkey])
  rcases h.origin _ hanswers.committed with hold | ⟨creator, hcreator, hcommitted, hid⟩
  · obtain ⟨row, hrow, hrow'⟩ := List.mem_map.mp hold
    refine absurd ⟨?_, ?_⟩ (hnew row hrow)
    · exact (congrArg (fun i => i.key.tenantId) hrow').trans (hmatches.1.trans htenant)
    · exact (congrArg JobIdentity.idempotencyKey hrow').trans (hmatches.2.1.trans hkey)
  · obtain ⟨job', created', scan', hpc'⟩ := hreturned creator hcreator
    refine ⟨creator, hcreator, ?_, ?_, job', scan', ?_⟩
    · exact (congrArg (fun i => i.key.tenantId) hid).trans (hmatches.1.trans htenant)
    · exact (congrArg JobIdentity.idempotencyKey hid).trans (hmatches.2.1.trans hkey)
    · simp only [Call.Committed, hpc'] at hcommitted
      rw [hpc', hcommitted]

/-- Calls that have created the job of one tenant and key are one call. -/
theorem System.Sound.creator_unique (h : s.Sound db₀) {i j : ℕ} {a b : Call} {job job' : JobRecord}
    (ha : s.calls[i]? = some a) (hb : s.calls[j]? = some b) (hreturned : a.Returned job true)
    (hreturned' : b.Returned job' true) (hsame : a.identity = b.identity ∨ b.Matches a.identity) : i = j := by
  obtain ⟨scan, hpc⟩ := hreturned
  obtain ⟨scan', hpc'⟩ := hreturned'
  have hstored := (h.calls a (List.mem_of_getElem? ha)).stored (by simp [Call.Committed, hpc])
  have hstored' := (h.calls b (List.mem_of_getElem? hb)).stored (by simp [Call.Committed, hpc'])
  have hid : a.identity = b.identity := by
    rcases hsame with heq | hmatches
    · exact heq
    · exact identity_eq_of_matches hstored hstored' hmatches ⟨rfl, rfl, hmatches.2.2⟩
  exact h.index_eq ha hb (congrArg (fun identity => identity.key.jobId) hid)

/-- In every interleaving of concurrent calls of `create`, every call ends with a job, each tenant and key
get one job that one call reports as created and all others return, and no job is submitted twice, if
no default row of a tenant is refused while the key of its call has no job. -/
theorem create_idempotent (core : CoreLibrary) (text : TextLibrary) (db₀ : Database) {labels : List Label}
    {s : System}
    (hfree : GuardedAlong (System.step core text) System.TenantFree (System.initial db₀) labels)
    (hrun : runSteps (System.step core text) (System.initial db₀) labels = some s) :
    s.CreatesOnce core text db₀ := by
  have hsound : s.Sound db₀ := run_sound hrun
  have hboth : s.Sound db₀ ∧ ∀ call ∈ s.calls, call.Recovers s.db := by
    refine runSteps_guarded_invariant (fun s => s.Sound db₀ ∧ ∀ call ∈ s.calls, call.Recovers s.db) ?_ ?_ hfree hrun
    · intro s l s' h hguard hstep
      exact ⟨h.1.step hstep, recovers_step h.1 h.2 hguard hstep⟩
    · exact ⟨sound_initial db₀, by simp [System.initial]⟩
  obtain ⟨-, hrecovers⟩ := hboth
  have hanswers : ∀ call ∈ s.calls, ∀ job created, call.Returned job created →
      ∃ scan, call.Answers s.db job created scan := by
    rintro call hcall job created ⟨scan, hpc⟩
    exact ⟨scan, (hsound.calls call hcall).answers job created scan hpc⟩
  exact
    { total := fun call hcall => (hrecovers call hcall).total
      ends := fun _ _ => advance_remaining
      progress := hsound.progress text
      stored := by
        intro call hcall job created hreturned
        obtain ⟨scan, hanswer⟩ := hanswers call hcall job created hreturned
        obtain ⟨row, hrow, hid⟩ := List.mem_map.mp hanswer.committed
        exact ⟨row, hrow, hid⟩
      one_row := by
        intro call hcall job created hreturned key hkey
        obtain ⟨scan, hanswer⟩ := hanswers call hcall job created hreturned
        exact select_identity hkey hanswer.committed (hanswer.matches (by simp [hkey]))
      same_job := by
        intro call hcall job created hreturned creator hcreator job' hreturned' htenant hkey hsome
        obtain ⟨scan, hanswer⟩ := hanswers call hcall job created hreturned
        obtain ⟨scan', hanswer'⟩ := hanswers creator hcreator job' true hreturned'
        have hmatches : call.Matches job'.identity := by
          rw [hanswer'.own rfl]
          exact ⟨htenant, hkey, hsome⟩
        have hsame := identity_eq_of_matches hanswer.committed hanswer'.committed (hanswer.matches hsome) hmatches
        have hown := hsame.trans (hanswer'.own rfl)
        exact ⟨congrArg JobIdentity.key hsame, congrArg JobIdentity.source hown, congrArg JobIdentity.payload hown⟩
      one_creator := by
        rintro hended tenantId key hnew ⟨call, hcall, htenant, hkey⟩
        obtain ⟨creator, hcreator, htenant', hkey', job, hreturned⟩ :=
          hsound.exists_creator hrecovers hended hnew hcall htenant hkey
        obtain ⟨index, hindex⟩ := List.mem_iff_getElem?.mp hcreator
        refine ⟨index, ⟨creator, hindex, htenant', hkey', job, hreturned⟩, ?_⟩
        rintro other ⟨c, hc, hctenant, hckey, job', hcreturned⟩
        refine hsound.creator_unique hc hindex hcreturned hreturned (Or.inr ⟨?_, ?_, ?_⟩)
        · exact hctenant.trans htenant'.symm
        · exact hckey.trans hkey'.symm
        · simp [hkey']
      own_job := by
        intro call hcall job created hreturned hnone
        obtain ⟨scan, hanswer⟩ := hanswers call hcall job created hreturned
        cases created with
        | false => exact absurd hnone (hanswer.found rfl).2.2
        | true =>
          have hown := hanswer.own rfl
          exact ⟨rfl, congrArg JobIdentity.source hown, congrArg JobIdentity.payload hown⟩
      distinct := by
        intro i j a b job job' ha hb hreturned hreturned' hid
        obtain ⟨scan, hanswer⟩ := hanswers a (List.mem_of_getElem? ha) job true hreturned
        obtain ⟨scan', hanswer'⟩ := hanswers b (List.mem_of_getElem? hb) job' true hreturned'
        have hsame := identity_eq_of_conflict hanswer.committed hanswer'.committed (Or.inl hid)
        exact hsound.creator_unique ha hb hreturned hreturned'
          (Or.inl ((hanswer.own rfl).symm.trans (hsame.trans (hanswer'.own rfl))))
      submitted_once := hsound.once }

/-- Two calls with one key race for the first job of a tenant, a third without a key comes later. -/
def raceForKey : List Label :=
  [.start "tenant-b" .soc (.obj []) (some "key") ⟨0, "1"⟩, .start "tenant-b" .vuln (.obj []) (some "key") ⟨0, "2"⟩] ++
  [0, 0, 1, 1, 0, 0].map .advance ++
  -- the first has inserted both its rows when it commits, so that the second has a job to recover
  [0, 1, 1, 0].map .advance ++
  [.scan 0 (.submit true (.ok "dispatch")) ⟨1, ""⟩, .start "tenant-b" .soc (.obj []) none ⟨2, "3"⟩] ++
  [2, 2, 2, 2, 2].map .advance ++ [.scan 2 (.submit true (.ok "dispatch")) ⟨3, ""⟩]

set_option maxRecDepth 8000 in
/-- The theorem applies to that race, which creates two jobs. -/
theorem create_idempotent_raceForKey :
    ∃ s ∈ runSteps (System.step FindingDict.core FindingDict.text) (System.initial .empty) raceForKey,
      s.CreatesOnce FindingDict.core FindingDict.text .empty ∧ (∀ call ∈ s.calls, call.pc.remaining = 0) ∧
      s.submitted = [⟨"tenant-b", "job_1"⟩, ⟨"tenant-b", "job_3"⟩] := by
  have hfree : GuardedAlong (System.step FindingDict.core FindingDict.text) System.TenantFree
      (System.initial .empty) raceForKey := by decide +kernel
  have hrun : (runSteps (System.step FindingDict.core FindingDict.text) (System.initial .empty) raceForKey).any
      (fun s => (∀ call ∈ s.calls, call.pc.remaining = 0) ∧
        s.submitted = [⟨"tenant-b", "job_1"⟩, ⟨"tenant-b", "job_3"⟩]) = true := by decide +kernel
  obtain ⟨s, hs, hreached⟩ := (Option.any_eq_true _ _).mp hrun
  rw [decide_eq_true_eq] at hreached
  exact ⟨s, hs, create_idempotent _ _ _ hfree hs, hreached⟩

/-- What a call has raised. -/
def Pc.error : Pc → Option RepositoryError
  | .raised error => some error
  | _ => none

/-- A call with an error has raised it. -/
theorem Pc.error_eq_some {pc : Pc} {error : RepositoryError} (h : pc.error = some error) : pc = .raised error := by
  cases pc with
  | raised other => exact congrArg Pc.raised (Option.some.inj h)
  | _ => cases h

/-- Two calls without a key race for the first job of a tenant. -/
def raceForTenant : List Label :=
  [.start "tenant-b" .soc (.obj []) none ⟨0, "1"⟩, .start "tenant-b" .soc (.obj []) none ⟨0, "2"⟩] ++
  [0, 0, 1, 1, 0, 0, 0, 0, 1, 1].map .advance

set_option maxRecDepth 8000 in
/-- The slower of them finds the tenant's row taken and raises. -/
theorem create_raises :
    ∃ s ∈ runSteps (System.step FindingDict.core FindingDict.text) (System.initial .empty) raceForTenant,
      ∃ call ∈ s.calls, call.tenantId = "tenant-b" ∧ call.idempotencyKey = none ∧
        call.pc = .raised .integrityError := by
  have hrun : (runSteps (System.step FindingDict.core FindingDict.text) (System.initial .empty)
      raceForTenant).any (fun s => ∃ call ∈ s.calls, call.tenantId = "tenant-b" ∧ call.idempotencyKey = none ∧
        call.pc.error = some .integrityError) = true := by decide +kernel
  obtain ⟨s, hs, hreached⟩ := (Option.any_eq_true _ _).mp hrun
  rw [decide_eq_true_eq] at hreached
  obtain ⟨call, hcall, htenant, hkey, herror⟩ := hreached
  exact ⟨s, hs, call, hcall, htenant, hkey, Pc.error_eq_some herror⟩

end Creation

end SharedIntegration

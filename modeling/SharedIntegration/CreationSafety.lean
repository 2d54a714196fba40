import SharedIntegration.CreationMoves

/-!
# Idempotent and total creation

Whatever the interleaving, a key has one job and the call whose transaction committed it is the
only one that reports it as created. A call fails only after its insert of the tenant's default
row was refused while its key had no job.
-/

namespace SharedIntegration

open Relational Transition

namespace Creation

variable {core : CoreLibrary} {text : TextLibrary} {db db' : Database}

/-- The call has committed its job. -/
def Call.Committed (call : Call) : Prop :=
  match call.pc with
  | .reloading => True
  | .returned _ created _ => created = true
  | _ => False

/-- `create` has returned this job. -/
def Call.Returned (call : Call) (job : JobRecord) (created : Bool) : Prop :=
  ∃ scan, call.pc = .returned job created scan

/-- What a call has returned is committed; what it created is its own job, and what it did not
create has its key. -/
structure Call.Answers (db : Database) (call : Call) (job : JobRecord) (created : Bool) (scan : ScanPc) :
    Prop where
  committed : job.identity ∈ identities db
  own : created = true → job.identity = call.identity
  found : created = false → call.Matches job.identity
  begun : scan ≠ .creating
  submits : ∀ job', submitting scan = some job' → created = true ∧ job' = job

/-- What holds of a call beside the committed rows. -/
structure Call.Sound (db : Database) (call : Call) : Prop where
  unstored : ¬ call.Committed → ∀ identity ∈ identities db, identity.key.jobId ≠ call.key.jobId
  stored : call.Committed → call.identity ∈ identities db
  tenantFree : ∀ row ∈ call.uncommittedTenant, ∀ old ∈ db.tenants.rows, ¬ TenantRow.Conflict old row
  jobFree : ∀ row ∈ call.uncommittedJob, ∀ identity ∈ identities db, ¬ identity.Conflict row.identity
  answers : ∀ job created scan, call.pc = .returned job created scan → call.Answers db job created scan

/-- Two calls draw different uuids, and their uncommitted rows do not conflict. -/
structure Call.Compatible (a b : Call) : Prop where
  uuid : a.moment.uuid ≠ b.moment.uuid
  tenants : ∀ row ∈ a.uncommittedTenant, ∀ row' ∈ b.uncommittedTenant, ¬ TenantRow.Conflict row' row
  jobs : ∀ row ∈ a.uncommittedJob, ∀ row' ∈ b.uncommittedJob, ¬ row'.identity.Conflict row.identity

/-- Conflicts of tenants are symmetric. -/
theorem tenantConflict_symm {a b : TenantRow} (h : TenantRow.Conflict a b) : TenantRow.Conflict b a := by
  rcases h with hid | hslug
  · exact Or.inl hid.symm
  · exact Or.inr hslug.symm

/-- Conflicts of jobs are symmetric. -/
theorem jobConflict_symm {a b : JobIdentity} (h : a.Conflict b) : b.Conflict a := by
  rcases h with hid | ⟨htenant, hkey, hsome⟩
  · exact Or.inl hid.symm
  · exact Or.inr ⟨htenant.symm, hkey.symm, hkey ▸ hsome⟩

/-- Compatibility is symmetric. -/
theorem Call.Compatible.symm (a b : Call) (h : a.Compatible b) : b.Compatible a where
  uuid := h.uuid.symm
  tenants row hrow row' hrow' hconflict := h.tenants row' hrow' row hrow (tenantConflict_symm hconflict)
  jobs row hrow row' hrow' hconflict := h.jobs row' hrow' row hrow (jobConflict_symm hconflict)

/-- Calls with different uuids have different jobs. -/
theorem Call.Compatible.jobId {a b : Call} (h : a.Compatible b) : a.key.jobId ≠ b.key.jobId := by
  intro heq
  have hlist := congrArg String.toList heq
  simp only [Call.key, String.toList_append, List.append_right_inj, String.toList_inj] at hlist
  exact h.uuid hlist

/-- A call stays sound while the rows that are committed do not meet its own. -/
theorem Call.Sound.mono {call : Call} (h : call.Sound db)
    (hkept : ∀ identity ∈ identities db, identity ∈ identities db')
    (hnew : ∀ identity ∈ identities db', identity ∈ identities db ∨
      (identity.key.jobId ≠ call.key.jobId ∧ ∀ row ∈ call.uncommittedJob, ¬ identity.Conflict row.identity))
    (htenants : ∀ old ∈ db'.tenants.rows, old ∈ db.tenants.rows ∨
      ∀ row ∈ call.uncommittedTenant, ¬ TenantRow.Conflict old row) : call.Sound db' where
  unstored huncommitted identity hidentity := by
    rcases hnew identity hidentity with hold | ⟨hid, -⟩
    · exact h.unstored huncommitted identity hold
    · exact hid
  stored hcommitted := hkept _ (h.stored hcommitted)
  tenantFree row hrow old hold := by
    rcases htenants old hold with hbefore | hfree
    · exact h.tenantFree row hrow old hbefore
    · exact hfree row hrow
  jobFree row hrow identity hidentity := by
    rcases hnew identity hidentity with hold | ⟨-, hfree⟩
    · exact h.jobFree row hrow identity hold
    · exact hfree row hrow
  answers job created scan hpc :=
    { h.answers job created scan hpc with committed := hkept _ (h.answers job created scan hpc).committed }

/-- A call is sound wherever the same rows are committed. -/
theorem Call.Sound.of_eq {call : Call} (h : call.Sound db) (hidentities : identities db' = identities db)
    (htenants : db'.tenants = db.tenants) : call.Sound db' := by
  apply h.mono
  · exact fun identity hidentity => hidentities ▸ hidentity
  · exact fun identity hidentity => Or.inl (hidentities ▸ hidentity)
  · exact fun old hold => Or.inl (htenants ▸ hold)

variable {call other : Call} {tenants : List TenantRow} {jobs : List JobRow} {pc' : Pc}

/-- A statement adds at most the job of the call to the committed ones. -/
theorem Call.Move.identities (h : call.Move core db tenants jobs db' pc') :
    (identities db' = identities db ∧ db' = db) ∨
      (identities db' = identities db ++ [call.identity] ∧
        db'.tenants.rows = db.tenants.rows ++ call.uncommittedTenant.toList ∧
        call.uncommittedJob = some call.jobRow ∧ pc' = .reloading) := by
  cases h with
  | committed _ tenant hpc hcommit =>
    obtain ⟨hidentities, htenants⟩ := commit_eq_some hcommit
    refine Or.inr ⟨hidentities, ?_, ?_, rfl⟩
    · rw [htenants, Call.uncommittedTenant, hpc]
    · rw [Call.uncommittedJob, hpc]
  | _ => exact Or.inl ⟨rfl, rfl⟩

/-- The statement of one call leaves every other call sound. -/
theorem Call.Move.others (h : call.Move core db tenants jobs db' pc') (hcompatible : call.Compatible other)
    (hother : other.Sound db) : other.Sound db' := by
  obtain ⟨-, rfl⟩ | ⟨hidentities, htenants, hjob, -⟩ := h.identities
  · exact hother
  · apply hother.mono
    · intro identity hidentity
      rw [hidentities]
      exact List.mem_append_left _ hidentity
    · intro identity hidentity
      rw [hidentities] at hidentity
      rcases List.mem_append.mp hidentity with hold | hnew
      · exact Or.inl hold
      · rw [List.mem_singleton.mp hnew]
        refine Or.inr ⟨hcompatible.jobId, fun row hrow hconflict => ?_⟩
        exact hcompatible.jobs call.jobRow hjob row hrow (jobConflict_symm hconflict)
    · intro old hold
      rw [htenants] at hold
      rcases List.mem_append.mp hold with hbefore | hnew
      · exact Or.inl hbefore
      · refine Or.inr fun row hrow hconflict => ?_
        exact hcompatible.tenants old (Option.mem_toList.mp hnew) row hrow (tenantConflict_symm hconflict)

/-- A call that has neither committed nor inserted anything is sound while its job is not stored. -/
theorem Call.Sound.idle (h : ∀ identity ∈ identities db, identity.key.jobId ≠ call.key.jobId)
    (hcommitted : ¬ call.Committed) (htenant : call.uncommittedTenant = none)
    (hjob : call.uncommittedJob = none) (hpc : ∀ job created scan, call.pc ≠ .returned job created scan) :
    call.Sound db where
  unstored _ := h
  stored hcommitted' := absurd hcommitted' hcommitted
  tenantFree row hrow := by simp [htenant] at hrow
  jobFree row hrow := by simp [hjob] at hrow
  answers job created scan hpc' := absurd hpc' (hpc job created scan)

/-- A call that found its job is sound. -/
theorem Call.Sound.foundJob {job : JobRecord}
    (hunstored : ∀ identity ∈ Creation.identities db, identity.key.jobId ≠ call.key.jobId)
    (hjob : call.existing db = some job) : (call.goto (.answer job false)).Sound db where
  unstored _ := hunstored
  stored hcommitted := by simp [Call.Committed, Pc.answer] at hcommitted
  tenantFree row hrow := by simp [Call.uncommittedTenant, Pc.answer] at hrow
  jobFree row hrow := by simp [Call.uncommittedJob, Pc.answer] at hrow
  answers job' created scan hpc := by
    cases hpc
    obtain ⟨hmem, hmatches⟩ := existing_eq_some hjob
    exact ⟨hmem, by simp, fun _ => hmatches, by simp, by simp [submitting]⟩

/-- A call is sound after each of its statements. -/
theorem Call.Move.sound (h : call.Move core db tenants jobs db' pc') (hsound : call.Sound db) :
    (call.goto pc').Sound db' := by
  cases h with
  | found job hpc hjob =>
    refine Call.Sound.foundJob (hsound.unstored ?_) hjob
    rcases hpc with hpc | hpc <;> simp [Call.Committed, hpc]
  | began hpc =>
    exact Call.Sound.idle (hsound.unstored (by simp [Call.Committed, hpc]))
      (by simp [Call.Committed]) rfl rfl (by simp)
  | tenantFound hpc =>
    exact Call.Sound.idle (hsound.unstored (by simp [Call.Committed, hpc]))
      (by simp [Call.Committed]) rfl rfl (by simp)
  | tenantMissed hpc =>
    exact Call.Sound.idle (hsound.unstored (by simp [Call.Committed, hpc]))
      (by simp [Call.Committed]) rfl rfl (by simp)
  | tenantRefused hpc row hrow hconflict =>
    exact Call.Sound.idle (hsound.unstored (by simp [Call.Committed, hpc]))
      (by simp [Call.Committed]) rfl rfl (by simp)
  | tenantInserted hpc hwaits hfree =>
    exact
      { unstored := fun _ => hsound.unstored (by simp [Call.Committed, hpc])
        stored := fun hcommitted => by simp [Call.Committed] at hcommitted
        tenantFree := fun row hrow => by
          cases hrow
          exact hfree
        jobFree := fun row hrow => by simp [Call.uncommittedJob] at hrow
        answers := by simp }
  | jobRefused tenant hpc identity hmem hconflict =>
    exact Call.Sound.idle (hsound.unstored (by simp [Call.Committed, hpc]))
      (by simp [Call.Committed]) rfl rfl (by simp)
  | jobInserted tenant hpc hwaits hfree =>
    exact
      { unstored := fun _ => hsound.unstored (by simp [Call.Committed, hpc])
        stored := fun hcommitted => by simp [Call.Committed] at hcommitted
        tenantFree := fun row hrow => hsound.tenantFree row (by simpa [Call.uncommittedTenant, hpc] using hrow)
        jobFree := fun row hrow => by
          cases hrow
          exact hfree
        answers := by simp }
  | committed _ tenant hpc hcommit =>
    exact
      { unstored := fun huncommitted => absurd trivial huncommitted
        stored := fun _ => by
          rw [(commit_eq_some hcommit).1]
          exact List.mem_append_right _ List.mem_cons_self
        tenantFree := fun row hrow => by simp [Call.uncommittedTenant] at hrow
        jobFree := fun row hrow => by simp [Call.uncommittedJob] at hrow
        answers := by simp }
  | unrecovered hpc hjob =>
    exact Call.Sound.idle (hsound.unstored (by simp [Call.Committed, hpc]))
      (by simp [Call.Committed]) rfl rfl (by simp)
  | reloaded job hpc hjob =>
    have hstored : call.identity ∈ Creation.identities db := hsound.stored (by simp [Call.Committed, hpc])
    obtain ⟨hmem, hkey⟩ := get_eq_some hjob
    have hidentity : job.identity = call.identity :=
      identity_eq_of_conflict hmem hstored (Or.inl (congrArg JobKey.jobId hkey))
    exact
      { unstored := fun huncommitted => absurd rfl huncommitted
        stored := fun _ => hstored
        tenantFree := fun row hrow => by simp [Call.uncommittedTenant, Pc.answer] at hrow
        jobFree := fun row hrow => by simp [Call.uncommittedJob, Pc.answer] at hrow
        answers := fun job' created scan hpc' => by
          cases hpc'
          refine ⟨hmem, fun _ => hidentity, by simp, by simp, fun job' hjob' => ⟨rfl, ?_⟩⟩
          exact (Option.some.inj hjob').symm }
  | lost hpc hjob =>
    have hstored : call.identity ∈ Creation.identities db := hsound.stored (by simp [Call.Committed, hpc])
    have hsome := get_isSome hstored
    rw [show call.identity.key = call.key from rfl, hjob] at hsome
    exact absurd hsome Bool.false_ne_true

/-- The rows that a call inserts conflict with no uncommitted row. -/
theorem Call.Move.compatible (h : call.Move core db tenants jobs db' pc') (hcompatible : call.Compatible other)
    (htenants : ∀ row ∈ other.uncommittedTenant, row ∈ tenants)
    (hjobs : ∀ row ∈ other.uncommittedJob, row ∈ jobs) : (call.goto pc').Compatible other := by
  cases h with
  | tenantInserted hpc hwaits hfree =>
    refine ⟨hcompatible.uuid, fun row hrow row' hrow' => ?_, by simp [Call.uncommittedJob]⟩
    cases hrow
    exact hwaits row' (htenants row' hrow')
  | jobInserted tenant hpc hwaits hfree =>
    refine ⟨hcompatible.uuid, fun row hrow => ?_, fun row hrow row' hrow' => ?_⟩
    · exact hcompatible.tenants row (by simpa [Call.uncommittedTenant, hpc] using hrow)
    · cases hrow
      exact hwaits row' (hjobs row' hrow')
  | _ => exact ⟨hcompatible.uuid, by simp [Call.uncommittedTenant, Pc.answer], by simp [Call.uncommittedJob, Pc.answer]⟩

/-- What a call has committed stays its own. -/
theorem Call.Move.committed_mono (h : call.Move core db tenants jobs db' pc') (hsound : call.Sound db)
    (hcommitted : call.Committed) : (call.goto pc').Committed := by
  cases h with
  | found job hpc hjob => rcases hpc with hpc | hpc <;> simp [Call.Committed, hpc] at hcommitted
  | reloaded job hpc hjob => exact rfl
  | lost hpc hjob =>
    have hsome := get_isSome (hsound.stored hcommitted)
    rw [show call.identity.key = call.key from rfl, hjob] at hsome
    exact absurd hsome Bool.false_ne_true
  | _ => simp_all [Call.Committed]

/-- The job of the call was created and handed to the dispatcher. -/
def Call.Submitted (call : Call) : Prop :=
  ∃ job scan, call.pc = .returned job true scan ∧ submitting scan = none

/-- What holds of the whole system: its calls are sound and do not meet, every committed job was there
at the start or was committed by one of them, and no job was submitted twice. -/
structure System.Sound (db₀ : Database) (s : System) : Prop where
  calls : ∀ call ∈ s.calls, call.Sound s.db
  compatible : s.calls.Pairwise Call.Compatible
  origin : ∀ identity ∈ identities s.db, identity ∈ identities db₀ ∨
    ∃ call ∈ s.calls, call.Committed ∧ call.identity = identity
  once : s.submitted.Nodup
  submitted : ∀ key ∈ s.submitted, ∃ call ∈ s.calls, call.key = key ∧ call.Submitted

/-- A new call joins the others. -/
theorem start_eq_some {s s' : System} {tenantId : String} {source : FindingSource} {payload : Document}
    {idempotencyKey : Option String} {m : Moment}
    (h : s.step core text (.start tenantId source payload idempotencyKey m) = some s') :
    s.Fresh m.uuid ∧
      s' = { s with calls := s.calls ++ [⟨tenantId, source, payload, idempotencyKey, m, .finding⟩] } := by
  simp only [System.step, Option.bind_eq_bind, Option.bind_eq_some_iff, Option.guard_eq_some', pure,
    Option.some.injEq] at h
  obtain ⟨_, hfresh, rfl⟩ := h
  exact ⟨hfresh, rfl⟩

/-- A call makes its next move beside the uncommitted rows of the others. -/
theorem advance_eq_some {s s' : System} {index : ℕ} (h : s.step core text (.advance index) = some s') :
    ∃ before call after db' pc', s.calls = before ++ call :: after ∧ before.length = index ∧
      call.Move core s.db ((before ++ after).filterMap Call.uncommittedTenant)
        ((before ++ after).filterMap Call.uncommittedJob) db' pc' ∧
      s' = ⟨db', before ++ call.goto pc' :: after, s.submitted⟩ := by
  simp only [System.step, Option.bind_eq_bind, Option.bind_eq_some_iff, pure, Option.some.injEq, Prod.exists] at h
  obtain ⟨call, hcall, db', pc', hadvance, rfl⟩ := h
  obtain ⟨before, after, hsplit, hset, hindex⟩ := exists_split_of_getElem? hcall (call.goto pc')
  rw [eraseIdx_of_split hsplit hindex] at hadvance
  exact ⟨before, call, after, db', pc', hsplit, hindex, advance_move hadvance, by rw [hset]⟩

/-- A call that has returned goes on with its scan. -/
theorem scan_eq_some {s s' : System} {index : ℕ} {event : ScanEvent} {m : Moment}
    (h : s.step core text (.scan index event m) = some s') :
    ∃ before call after db' pc', s.calls = before ++ call :: after ∧ before.length = index ∧
      call.continueScan (relationalBackend core text) s.db m event = some (db', pc') ∧
      s' = ⟨db', before ++ call.goto pc' :: after, s.submitted ++ (call.submission event).toList⟩ := by
  simp only [System.step, Option.bind_eq_bind, Option.bind_eq_some_iff, pure, Option.some.injEq, Prod.exists] at h
  obtain ⟨call, hcall, db', pc', hscan, rfl⟩ := h
  obtain ⟨before, after, hsplit, hset, hindex⟩ := exists_split_of_getElem? hcall (call.goto pc')
  exact ⟨before, call, after, db', pc', hsplit, hindex, hscan, by rw [hset]⟩

/-- A scan goes on only after `create` has returned. -/
theorem returned_of_continueScan {backend : Backend Database} {m : Moment} {event : ScanEvent}
    (h : call.continueScan backend db m event = some (db', pc')) :
    ∃ job created scan, call.pc = .returned job created scan := by
  unfold Call.continueScan at h
  split at h
  · next hpc => exact ⟨_, _, _, hpc⟩
  · cases h

variable {db₀ : Database} {s s' : System}

/-- A new call keeps the system sound. -/
theorem System.Sound.start {tenantId : String} {source : FindingSource} {payload : Document}
    {idempotencyKey : Option String} {m : Moment} (h : s.Sound db₀)
    (hstep : s.step core text (.start tenantId source payload idempotencyKey m) = some s') : s'.Sound db₀ := by
  obtain ⟨⟨huuid, hid⟩, rfl⟩ := start_eq_some hstep
  refine ⟨?_, ?_, ?_, h.once, ?_⟩
  · intro call hcall
    rcases List.mem_append.mp hcall with hold | hnew
    · exact h.calls call hold
    · rw [List.mem_singleton.mp hnew]
      refine Call.Sound.idle ?_ (by simp [Call.Committed]) rfl rfl (by simp)
      intro identity hidentity
      obtain ⟨row, hrow, rfl⟩ := List.mem_map.mp hidentity
      exact hid row hrow
  · rw [List.pairwise_append]
    refine ⟨h.compatible, List.pairwise_singleton _ _, ?_⟩
    intro call hcall new hnew
    rw [List.mem_singleton.mp hnew]
    exact ⟨huuid call hcall, by simp [Call.uncommittedTenant], by simp [Call.uncommittedJob]⟩
  · intro identity hidentity
    rcases h.origin identity hidentity with hold | ⟨call, hcall, hcommitted⟩
    · exact Or.inl hold
    · exact Or.inr ⟨call, List.mem_append_left _ hcall, hcommitted⟩
  · intro key hkey
    obtain ⟨call, hcall, hsubmitted⟩ := h.submitted key hkey
    exact ⟨call, List.mem_append_left _ hcall, hsubmitted⟩

/-- What one call of the others has is still had after a call has moved. -/
theorem exists_mem_of_split {P : Call → Prop} {before after : List Call} {call moved : Call}
    (h : ∃ c ∈ before ++ call :: after, P c) (hmoved : P call → P moved) :
    ∃ c ∈ before ++ moved :: after, P c := by
  obtain ⟨c, hc, hP⟩ := h
  rcases List.mem_append.mp hc with hbefore | hc
  · exact ⟨c, List.mem_append_left _ hbefore, hP⟩
  · rcases List.mem_cons.mp hc with rfl | hafter
    · exact ⟨moved, by simp, hmoved hP⟩
    · exact ⟨c, by simp [hafter], hP⟩

/-- A statement of `create` keeps the system sound. -/
theorem System.Sound.advance {index : ℕ} (h : s.Sound db₀)
    (hstep : s.step core text (.advance index) = some s') : s'.Sound db₀ := by
  obtain ⟨before, call, after, db', pc', hsplit, -, hmove, rfl⟩ := advance_eq_some hstep
  have hcall : call ∈ s.calls := by simp [hsplit]
  have hsound := h.calls call hcall
  have hothers := pairwise_others Call.Compatible.symm hsplit h.compatible
  have hmem : ∀ c ∈ before ++ after, c ∈ s.calls := by
    intro c hc
    rw [hsplit]
    rcases List.mem_append.mp hc with hc | hc <;> simp [hc]
  refine ⟨?_, ?_, ?_, h.once, ?_⟩
  · intro c hc
    rcases List.mem_append.mp hc with hbefore | hc
    · have hc := List.mem_append_left after hbefore
      exact hmove.others (hothers c hc) (h.calls c (hmem c hc))
    · rcases List.mem_cons.mp hc with rfl | hafter
      · exact hmove.sound hsound
      · have hc := List.mem_append_right before hafter
        exact hmove.others (hothers c hc) (h.calls c (hmem c hc))
  · refine pairwise_of_split Call.Compatible.symm hsplit rfl h.compatible fun c hc => ?_
    apply hmove.compatible (hothers c hc)
    · exact fun row hrow => List.mem_filterMap.mpr ⟨c, hc, hrow⟩
    · exact fun row hrow => List.mem_filterMap.mpr ⟨c, hc, hrow⟩
  · intro identity hidentity
    have hkept : ∀ identity ∈ identities s.db, identity ∈ identities db₀ ∨
        ∃ c ∈ before ++ call.goto pc' :: after, c.Committed ∧ c.identity = identity := by
      intro identity hidentity
      rcases h.origin identity hidentity with hold | hcommitted
      · exact Or.inl hold
      · rw [hsplit] at hcommitted
        exact Or.inr (exists_mem_of_split hcommitted fun ⟨hc, hid⟩ => ⟨hmove.committed_mono hsound hc, hid⟩)
    obtain ⟨hsame, -⟩ | ⟨hidentities, -, -, rfl⟩ := hmove.identities
    · exact hkept identity (hsame ▸ hidentity)
    · change identity ∈ identities db' at hidentity
      rw [hidentities] at hidentity
      rcases List.mem_append.mp hidentity with hold | hnew
      · exact hkept identity hold
      · rw [List.mem_singleton.mp hnew]
        exact Or.inr ⟨call.goto .reloading, by simp, trivial, rfl⟩
  · intro key hkey
    have hsubmitted := h.submitted key hkey
    rw [hsplit] at hsubmitted
    refine exists_mem_of_split hsubmitted fun ⟨_, job, scan, hpc, _⟩ => ?_
    cases hmove <;> simp_all

/-- A call that goes on with its scan stays sound. -/
theorem Call.Sound.continued {job : JobRecord} {created : Bool} {scan scan' : ScanPc} (h : call.Sound db)
    (hpc : call.pc = .returned job created scan) (hbegun : scan' ≠ .creating) (hsubmits : submitting scan' = none) :
    (call.goto (.returned job created scan')).Sound db where
  unstored huncommitted := h.unstored (by simpa [Call.Committed, hpc] using huncommitted)
  stored hcommitted := h.stored (by simpa [Call.Committed, hpc] using hcommitted)
  tenantFree row hrow := by simp [Call.uncommittedTenant] at hrow
  jobFree row hrow := by simp [Call.uncommittedJob] at hrow
  answers job' created' scan'' hpc' := by
    cases hpc'
    have hanswers := h.answers job created scan hpc
    exact ⟨hanswers.committed, hanswers.own, hanswers.found, hbegun, by simp [hsubmits]⟩

/-- Calls with the same job are one. -/
theorem System.Sound.index_eq (h : s.Sound db₀) {i j : ℕ} {a b : Call} (ha : s.calls[i]? = some a)
    (hb : s.calls[j]? = some b) (hid : a.key.jobId = b.key.jobId) : i = j := by
  obtain ⟨hi, rfl⟩ := List.getElem?_eq_some_iff.mp ha
  obtain ⟨hj, rfl⟩ := List.getElem?_eq_some_iff.mp hb
  have hpairwise := List.pairwise_iff_getElem.mp h.compatible
  obtain hlt | heq | hgt := Nat.lt_trichotomy i j
  · exact absurd hid (hpairwise i j hi hj hlt).jobId
  · exact heq
  · exact absurd hid.symm (hpairwise j i hj hi hgt).jobId

/-- The job of a call that is about to submit it has not been submitted. -/
theorem System.Sound.not_submitted (h : s.Sound db₀) {job job' : JobRecord} {created : Bool}
    (hcall : call ∈ s.calls) (hpc : call.pc = .returned job created (.submitting job')) :
    call.key ∉ s.submitted := by
  intro hkey
  obtain ⟨c, hc, hid, hsubmitted⟩ := h.submitted call.key hkey
  obtain ⟨i, hi⟩ := List.mem_iff_getElem?.mp hc
  obtain ⟨j, hj⟩ := List.mem_iff_getElem?.mp hcall
  have hindex := h.index_eq hi hj (congrArg JobKey.jobId hid)
  rw [hindex, hj, Option.some.injEq] at hi
  obtain ⟨job'', scan, hpc', hsubmits⟩ := hsubmitted
  rw [← hi, hpc] at hpc'
  cases hpc'
  cases hsubmits

/-- A step of `create_scan` keeps the system sound. -/
theorem System.Sound.scan {index : ℕ} {event : ScanEvent} {m : Moment} (h : s.Sound db₀)
    (hstep : s.step core text (.scan index event m) = some s') : s'.Sound db₀ := by
  obtain ⟨before, call, after, db', pc', hsplit, -, hscan, rfl⟩ := scan_eq_some hstep
  have hcall : call ∈ s.calls := by simp [hsplit]
  have hsound := h.calls call hcall
  have hothers := pairwise_others Call.Compatible.symm hsplit h.compatible
  obtain ⟨job, created, scan, hpc⟩ := returned_of_continueScan hscan
  have hanswers := hsound.answers job created scan hpc
  obtain ⟨hidentities, htenants, scan', rfl, hbegun, hsubmits⟩ := continueScan_spec hpc hanswers.begun hscan
  have hnew := hsound.continued hpc hbegun hsubmits
  have hkept : ∀ key ∈ s.submitted,
      ∃ c ∈ before ++ call.goto (.returned job created scan') :: after, c.key = key ∧ c.Submitted := by
    intro key hkey
    have hsubmitted := h.submitted key hkey
    rw [hsplit] at hsubmitted
    refine exists_mem_of_split hsubmitted fun ⟨hid, job', scan'', hpc', _⟩ => ⟨hid, job', scan', ?_, hsubmits⟩
    rw [hpc] at hpc'
    cases hpc'
    rfl
  refine ⟨?_, ?_, ?_, ?_, ?_⟩
  · exact forall_mem_of_split hsplit rfl (fun c hc => (h.calls c hc).of_eq hidentities htenants)
      (hnew.of_eq hidentities htenants)
  · refine pairwise_of_split Call.Compatible.symm hsplit rfl h.compatible fun c hc => ?_
    exact ⟨(hothers c hc).uuid, by simp [Call.uncommittedTenant], by simp [Call.uncommittedJob]⟩
  · intro identity hidentity
    change identity ∈ identities db' at hidentity
    rw [hidentities] at hidentity
    rcases h.origin identity hidentity with hold | hcommitted
    · exact Or.inl hold
    · rw [hsplit] at hcommitted
      refine Or.inr (exists_mem_of_split hcommitted fun ⟨hc, hid⟩ => ⟨?_, hid⟩)
      simpa [Call.Committed, hpc] using hc
  · cases hsubmission : call.submission event with
    | none => simpa using h.once
    | some key =>
      obtain ⟨job', created', submitted, hpc', rfl⟩ := submission_eq_some hsubmission
      rw [hpc] at hpc'
      cases hpc'
      obtain ⟨rfl, rfl⟩ := hanswers.submits submitted rfl
      have hkey : submitted.key = call.key := congrArg JobIdentity.key (hanswers.own rfl)
      have hnotin : submitted.key ∉ s.submitted := hkey ▸ h.not_submitted hcall hpc
      rw [Option.toList_some, List.nodup_append]
      refine ⟨h.once, List.nodup_singleton _, ?_⟩
      intro key hold key' hnew' heq
      rw [List.mem_singleton.mp hnew'] at heq
      exact hnotin (heq ▸ hold)
  · intro key hkey
    rcases List.mem_append.mp hkey with hold | hnewKey
    · exact hkept key hold
    · obtain ⟨job', created', submitted, hpc', rfl⟩ := submission_eq_some (Option.mem_toList.mp hnewKey)
      rw [hpc] at hpc'
      cases hpc'
      obtain ⟨rfl, rfl⟩ := hanswers.submits submitted rfl
      have hkey' : submitted.key = call.key := congrArg JobIdentity.key (hanswers.own rfl)
      exact ⟨call.goto (.returned submitted true scan'), by simp, hkey'.symm, submitted, scan', rfl, hsubmits⟩

/-- Every step keeps the system sound. -/
theorem System.Sound.step {label : Label} (h : s.Sound db₀) (hstep : s.step core text label = some s') :
    s'.Sound db₀ := by
  cases label with
  | start tenantId source payload idempotencyKey m => exact h.start hstep
  | advance index => exact h.advance hstep
  | scan index event m => exact h.scan hstep

/-- Without calls the system is sound. -/
theorem sound_initial (db₀ : Database) : (System.initial db₀).Sound db₀ :=
  ⟨by simp [System.initial], List.Pairwise.nil, fun _ h => Or.inl h, List.nodup_nil, by simp [System.initial]⟩

/-- The system is sound in every run. -/
theorem run_sound {labels : List Label}
    (hrun : runSteps (System.step core text) (System.initial db₀) labels = some s) : s.Sound db₀ := by
  exact runSteps_invariant (System.Sound db₀) (fun _ _ _ h hstep => h.step hstep) (sound_initial db₀) hrun

end Creation

end SharedIntegration

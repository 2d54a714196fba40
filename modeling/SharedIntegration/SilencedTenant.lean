import SharedIntegration.ShownRows
import SharedIntegration.Library.Masked

/-!
# Stores without the requests of a tenant

What the requests of a tenant can leave in the stores are jobs and events of the tenant and the triage of
its findings. Stores that differ in nothing else stay so when the same calls are made on both, whichever
tenant the calls are bound to, and answer calls for every other tenant the same.
-/

namespace SharedIntegration

open Relational FindingLifecycle Isolation

/-- The row without its triage, if it is one of the tenant. -/
def FindingRow.untriaged (tenantId : String) (row : FindingRow) : FindingRow :=
  if row.tenantId = tenantId then { row with status := .opened, assignedTo := none, updatedAt := 0 } else row

section Mask

variable {tenantId : String} {row : FindingRow}

/-- The triage is no key column. -/
theorem FindingRow.untriaged_keys (tenantId : String) (row : FindingRow) :
    (row.untriaged tenantId).rowId = row.rowId ∧ (row.untriaged tenantId).tenantId = row.tenantId ∧
      (row.untriaged tenantId).findingId = row.findingId ∧ (row.untriaged tenantId).fingerprint = row.fingerprint := by
  unfold untriaged
  split <;> exact ⟨rfl, rfl, rfl, rfl⟩

/-- Rows of other tenants are left alone. -/
theorem FindingRow.untriaged_other (h : row.tenantId ≠ tenantId) : row.untriaged tenantId = row := if_neg h

/-- Hiding the triage once is enough. -/
theorem FindingRow.untriaged_untriaged (tenantId : String) (row : FindingRow) :
    (row.untriaged tenantId).untriaged tenantId = row.untriaged tenantId := by
  by_cases h : row.tenantId = tenantId
  · simp [untriaged, h]
  · rw [untriaged_other h, untriaged_other h]

/-- A merge reads no triage. -/
theorem FindingRow.untriaged_merge (core : CoreLibrary) (finding : Finding) (jobId : Option String) (now : Instant)
    (row : FindingRow) : (merge core finding jobId now (row.untriaged tenantId)).untriaged tenantId =
      (merge core finding jobId now row).untriaged tenantId := by
  by_cases h : row.tenantId = tenantId
  · simp [untriaged, merge, FindingRow.finding, h]
  · rw [untriaged_other h]

/-- Nor does the merge behind a lost insert. -/
theorem FindingRow.untriaged_mergeLost (core : CoreLibrary) (finding : Finding) (now : Instant) (row : FindingRow) :
    (mergeLost core finding now (row.untriaged tenantId)).untriaged tenantId =
      (mergeLost core finding now row).untriaged tenantId := by
  by_cases h : row.tenantId = tenantId
  · simp [untriaged, mergeLost, FindingRow.finding, h]
  · rw [untriaged_other h]

/-- A triage of other tenants reads none of the tenant. -/
theorem FindingRow.untriaged_triage (status : Option FindingStatus) (assignedTo : Option (Option String))
    (now : Instant) (row : FindingRow) : (triage status assignedTo now (row.untriaged tenantId)).untriaged tenantId =
      (triage status assignedTo now row).untriaged tenantId := by
  by_cases h : row.tenantId = tenantId
  · simp [untriaged, triage, h]
  · rw [untriaged_other h]

/-- A triage of the tenant is hidden. -/
theorem FindingRow.untriaged_hidden (h : row.tenantId = tenantId) (status : Option FindingStatus)
    (assignedTo : Option (Option String)) (now : Instant) :
    (triage status assignedTo now row).untriaged tenantId = row.untriaged tenantId := by
  simp [untriaged, triage, h]

end Mask

/-- Stores that differ at most in the jobs and events of a tenant and in the triage of its findings. -/
structure SameUnlessAsked (tenantId : String) (db db' : Database) : Prop where
  tenants : db'.tenants = db.tenants
  jobs : JobsAgree tenantId db.jobTables db'.jobTables
  findings : Table.SameBehind (FindingRow.untriaged tenantId) db.findings db'.findings
  sequence : db'.findingSequence = db.findingSequence
  correlations : db'.correlations = db.correlations
  links : db'.correlationFindings = db.correlationFindings

namespace SameUnlessAsked

variable {removed tenantId : String} {core : CoreLibrary} {text : TextLibrary} {db db' : Database} {m : Moment}

/-- The same stores. -/
theorem refl (tenantId : String) (db : Database) : SameUnlessAsked tenantId db db :=
  ⟨rfl, (SameElsewhere.refl tenantId db).jobs, rfl, rfl, rfl, rfl⟩

/-- The findings of every other tenant are the same. -/
theorem findingsAgree (h : SameUnlessAsked removed db db') : FindingsAgree removed id db.findings db'.findings := by
  apply (mirrors_iff renumber_id).mpr
  apply h.findings.select
  · intro row
    rw [(FindingRow.untriaged_keys removed row).2.1]
  · exact fun row hrow => FindingRow.untriaged_other (of_decide_eq_true hrow)

/-- The order of row ids is kept. -/
theorem orderKept (findings : Table FindingRow FindingRow.Conflict) : OrderKept removed id findings :=
  fun _ _ _ _ => Iff.rfl

/-! ### Calls of the job repository -/

/-- `create` for another tenant. -/
theorem create (h : SameUnlessAsked removed db db') (htenant : tenantId ≠ removed)
    (hnew : ∀ old ∈ db.jobTables.jobs.rows, old.id ≠ "job_" ++ m.uuid)
    (hnew' : ∀ old ∈ db'.jobTables.jobs.rows, old.id ≠ "job_" ++ m.uuid) (source : FindingSource)
    (payload : Document) (idempotencyKey : Option String) (wrap : JobRecord × Bool → RepositoryResult) :
    (outcome db wrap (SqlJobs.create core db m tenantId source payload idempotencyKey)).2 =
        (outcome db' wrap (SqlJobs.create core db' m tenantId source payload idempotencyKey)).2 ∧
      SameUnlessAsked removed (outcome db wrap (SqlJobs.create core db m tenantId source payload idempotencyKey)).1
        (outcome db' wrap (SqlJobs.create core db' m tenantId source payload idempotencyKey)).1 := by
  have hfind : idempotencyKey.bind (SqlJobs.findByIdempotencyKey db tenantId) =
      idempotencyKey.bind (SqlJobs.findByIdempotencyKey db' tenantId) := by
    congr 1
    funext text
    exact findByIdempotencyKey_eq h.jobs htenant text
  unfold SqlJobs.create
  rw [hfind, insertJob_eq, insertJob_eq, h.tenants]
  cases idempotencyKey.bind (SqlJobs.findByIdempotencyKey db' tenantId) with
  | some existing => exact ⟨rfl, h⟩
  | none =>
    cases SqlJobs.ensureTenant db.tenants tenantId m.now with
    | none => exact ⟨rfl, h⟩
    | some tenants =>
      rw [Option.bind_some, Option.bind_some]
      obtain ⟨hnone, hnone'⟩ | ⟨inserted, inserted', hinsert, hinsert', hagree⟩ :=
        @JobsAgree.insertRow removed _ _ h.jobs (newRow m tenantId source payload idempotencyKey) htenant hnew hnew'
      · rw [hnone, hnone']
        exact ⟨rfl, h⟩
      · have hkey : (JobKey.mk tenantId ("job_" ++ m.uuid)).tenantId ≠ removed := htenant
        have hafter : JobsAgree removed (withJob core { db with tenants } m tenantId source inserted).jobTables
            (withJob core { db' with tenants } m tenantId source inserted').jobTables :=
          hagree.appendEvent hkey "status" (statusPayload .queued none none) m.now
        rw [hinsert, hinsert', Option.map_some, Option.map_some]
        dsimp only
        rw [get_eq hafter hkey]
        split
        · exact ⟨rfl, rfl, hafter, h.findings, h.sequence, h.correlations, h.links⟩
        · exact ⟨rfl, h⟩

/-- Job calls that make sure of no tenant, for another tenant. -/
theorem perform_alike (h : SameUnlessAsked removed db db') {call : RepositoryCall} (htenant : call.tenantId ≠ removed)
    (hensured : call.ensured = none) :
    JobsAlike removed ((SqlJobs.queried core).perform db m call) ((SqlJobs.queried core).perform db' m call) := by
  cases call with
  | create => cases hensured
  | get key => exact ⟨congrArg RepositoryResult.optional (get_eq h.jobs htenant), h.jobs⟩
  | listJobs tenantId status source limit =>
    exact ⟨congrArg RepositoryResult.records (listJobs_eq h.jobs htenant status source limit), h.jobs⟩
  | findByIdempotencyKey tenantId idempotencyKey =>
    exact ⟨congrArg RepositoryResult.optional (findByIdempotencyKey_eq h.jobs htenant idempotencyKey), h.jobs⟩
  | markRunning key requireQueued =>
    obtain ⟨hresult, hjobs⟩ := @markRunning_alike removed db db' m key h.jobs htenant requireQueued
    exact ⟨congrArg RepositoryResult.optional hresult, hjobs⟩
  | transition key status resultCount errorCode errorMessage =>
    exact transition_alike h.jobs htenant status resultCount errorCode errorMessage
  | appendEvent key kind payload => exact appendEvent_alike h.jobs htenant kind payload
  | listEvents key afterSequence limit =>
    have hlog : db.jobTables.jobLog key = db'.jobTables.jobLog key := by
      rw [JobTables.jobLog, JobTables.jobLog, h.jobs.events_eq htenant]
    refine ⟨congrArg RepositoryResult.events ?_, h.jobs⟩
    change SqlJobs.listEvents db key afterSequence.toNat limit = SqlJobs.listEvents db' key afterSequence.toNat limit
    rw [SqlJobs.listEvents, SqlJobs.listEvents, hlog]
  | setDispatchId key dispatchId =>
    exact ⟨rfl, h.jobs.updateJob key (fun _ => true) (recordDispatch_keeps m.now dispatchId)⟩
  | requestCancel key => exact requestCancel_alike h.jobs htenant

/-- Writes to jobs alone, on both sides. -/
theorem of_jobsOnly {after after' : Database} (h : SameUnlessAsked removed db db') (hsame : JobsOnly db after)
    (hsame' : JobsOnly db' after') (hjobs : JobsAgree removed after.jobTables after'.jobTables) :
    SameUnlessAsked removed after after' where
  tenants := hsame'.tenants.trans (h.tenants.trans hsame.tenants.symm)
  jobs := hjobs
  findings := by
    rw [hsame.findings, hsame'.findings]
    exact h.findings
  sequence := hsame'.findingSequence.trans (h.sequence.trans hsame.findingSequence.symm)
  correlations := hsame'.correlations.trans (h.correlations.trans hsame.correlations.symm)
  links := hsame'.correlationFindings.trans (h.links.trans hsame.correlationFindings.symm)

/-- The same job call on both sides. -/
theorem jobs_call (h : SameUnlessAsked removed db db') (hstored : Stored db removed) (call : RepositoryCall)
    (hnew : ∀ old ∈ db.jobTables.jobs.rows, old.id ≠ "job_" ++ m.uuid)
    (hnew' : ∀ old ∈ db'.jobTables.jobs.rows, old.id ≠ "job_" ++ m.uuid) :
    (call.tenantId ≠ removed → ((SqlJobs.queried core).perform db m call).2 = ((SqlJobs.queried core).perform db' m call).2) ∧
      SameUnlessAsked removed ((SqlJobs.queried core).perform db m call).1 ((SqlJobs.queried core).perform db' m call).1 := by
  by_cases htenant : call.tenantId = removed
  · have hstored' : Stored db' removed := by
      unfold Stored
      rw [h.tenants]
      exact hstored
    rw [← htenant] at hstored hstored'
    obtain ⟨hwrite, hsame⟩ := @perform_write core db m call hstored
    obtain ⟨hwrite', hsame'⟩ := @perform_write core db' m call hstored'
    rw [htenant] at hwrite hwrite'
    exact ⟨fun hne => absurd htenant hne,
      h.of_jobsOnly hsame hsame' (hwrite'.outside (hwrite.outside h.jobs).symm).symm⟩
  · cases hensured : call.ensured with
    | some tenantId =>
      cases call with
      | create tenantId source payload idempotencyKey =>
        obtain ⟨hresult, hafter⟩ := @create removed tenantId core db db' m h htenant hnew hnew' source payload
          idempotencyKey fun created => .created created.1 created.2
        exact ⟨fun _ => hresult, hafter⟩
      | _ => cases hensured
    | none =>
      obtain ⟨hresult, hjobs⟩ := @perform_alike removed core db db' m h call htenant hensured
      exact ⟨fun _ => hresult, h.of_jobsOnly (perform_writes call hensured).2 (perform_writes call hensured).2 hjobs⟩

/-! ### Calls of the registry -/

/-- A selection by fingerprint looks through the mask. -/
theorem fingerprint_untriaged (removed tenantId fingerprint : String) (row : FindingRow) :
    decide ((row.untriaged removed).tenantId = tenantId ∧ (row.untriaged removed).fingerprint = fingerprint) =
      decide (row.tenantId = tenantId ∧ row.fingerprint = fingerprint) := by
  obtain ⟨-, htenant, -, hfingerprint⟩ := FindingRow.untriaged_keys removed row
  rw [decide_eq_decide, htenant, hfingerprint]

/-- So does one by id. -/
theorem findingId_untriaged (removed tenantId findingId : String) (row : FindingRow) :
    decide ((row.untriaged removed).tenantId = tenantId ∧ (row.untriaged removed).findingId = findingId) =
      decide (row.tenantId = tenantId ∧ row.findingId = findingId) := by
  obtain ⟨-, htenant, hid, -⟩ := FindingRow.untriaged_keys removed row
  rw [decide_eq_decide, htenant, hid]

/-- A lookup by fingerprint. -/
theorem findFingerprint_cases (h : SameUnlessAsked removed db db') (tenantId fingerprint : String) :
    (findFingerprint db.findings tenantId fingerprint = none ∧ findFingerprint db'.findings tenantId fingerprint = none) ∨
      ∃ row row', findFingerprint db.findings tenantId fingerprint = some row ∧
        findFingerprint db'.findings tenantId fingerprint = some row' :=
  h.findings.find_cases (fingerprint_untriaged removed tenantId fingerprint)

/-- A change of the row of a fingerprint that reads no triage. -/
theorem updateFingerprint {findings findings' : Table FindingRow FindingRow.Conflict}
    (h : Table.SameBehind (FindingRow.untriaged removed) findings findings') (tenantId fingerprint : String)
    {change : FindingRow → FindingRow} (hkeys : KeepsKeys FindingRow.Conflict change)
    (hchange : ∀ row, (change (row.untriaged removed)).untriaged removed = (change row).untriaged removed) :
    Table.SameBehind (FindingRow.untriaged removed)
      (FindingLifecycle.updateFingerprint findings tenantId fingerprint change hkeys)
      (FindingLifecycle.updateFingerprint findings' tenantId fingerprint change hkeys) :=
  h.update hkeys (fingerprint_untriaged removed tenantId fingerprint) hchange (FindingRow.untriaged_untriaged removed)

/-- The first transaction of `_store_finding` on both sides. -/
theorem storeLocked (h : SameUnlessAsked removed db db') (tenantId : String) (finding : Finding) (jobId : Option String) :
    Option.Rel (SameUnlessAsked removed) (storeLocked core text db m tenantId finding jobId)
      (FindingLifecycle.storeLocked core text db' m tenantId finding jobId) := by
  have hconflict : ∀ old, FindingRow.Conflict (old.untriaged removed)
      (.created core text db.findingSequence tenantId finding jobId m.now) ↔
      FindingRow.Conflict old (.created core text db.findingSequence tenantId finding jobId m.now) := by
    intro old
    obtain ⟨hid, htenant, hfinding, hfingerprint⟩ := FindingRow.untriaged_keys removed old
    rw [FindingRow.Conflict, FindingRow.Conflict, hid, htenant, hfinding, hfingerprint]
  unfold FindingLifecycle.storeLocked
  dsimp only
  rw [h.tenants, h.sequence]
  cases SqlJobs.ensureTenant db.tenants tenantId m.now with
  | none => exact .none
  | some tenants =>
    rw [Option.bind_eq_bind, Option.bind_eq_bind, Option.bind_some, Option.bind_some]
    obtain ⟨hnone, hnone'⟩ | ⟨row, row', hrow, hrow'⟩ :=
      h.findFingerprint_cases tenantId (findingFingerprint core text finding)
    · rw [hnone, hnone']
      obtain ⟨hrefused, hrefused'⟩ | ⟨inserted, inserted', hinsert, hinsert', hafter⟩ := h.findings.insert hconflict
      · simp only [hrefused, hrefused']
        exact .none
      · simp only [hinsert, hinsert']
        exact .some ⟨rfl, h.jobs, hafter, rfl, h.correlations, h.links⟩
    · rw [hrow, hrow']
      refine .some ⟨rfl, h.jobs, ?_, rfl, h.correlations, h.links⟩
      exact updateFingerprint h.findings tenantId _ (FindingRow.merge_keeps core finding jobId m.now)
        (FindingRow.untriaged_merge core finding jobId m.now)

/-- The second transaction of `_store_finding` on both sides. -/
theorem storeLost (h : SameUnlessAsked removed db db') (tenantId : String) (finding : Finding) :
    Option.Rel (SameUnlessAsked removed) (storeLost core text db m tenantId finding)
      (FindingLifecycle.storeLost core text db' m tenantId finding) := by
  unfold FindingLifecycle.storeLost
  dsimp only
  obtain ⟨hnone, hnone'⟩ | ⟨row, row', hrow, hrow'⟩ :=
    h.findFingerprint_cases tenantId (findingFingerprint core text finding)
  · rw [hnone, hnone']
    exact .none
  · rw [hrow, hrow']
    refine .some ⟨h.tenants, h.jobs, ?_, h.sequence, h.correlations, h.links⟩
    exact updateFingerprint h.findings tenantId _ (FindingRow.mergeLost_keeps core finding m.now)
      (FindingRow.untriaged_mergeLost core finding m.now)

/-- `add_for_job` on both sides. -/
theorem addForJob (h : SameUnlessAsked removed db db') (tenantId : String) (finding : Finding) (jobId : Option String) :
    (addForJob core text db m tenantId finding jobId).2 =
        (FindingLifecycle.addForJob core text db' m tenantId finding jobId).2 ∧
      SameUnlessAsked removed (FindingLifecycle.addForJob core text db m tenantId finding jobId).1
        (FindingLifecycle.addForJob core text db' m tenantId finding jobId).1 := by
  have hlocked := @storeLocked removed core text db db' m h tenantId finding jobId
  have hlost := @storeLost removed core text db db' m h tenantId finding
  unfold FindingLifecycle.addForJob storeFinding
  generalize FindingLifecycle.storeLocked core text db m tenantId finding jobId = locked at hlocked ⊢
  generalize FindingLifecycle.storeLocked core text db' m tenantId finding jobId = locked' at hlocked ⊢
  generalize FindingLifecycle.storeLost core text db m tenantId finding = lost at hlost ⊢
  generalize FindingLifecycle.storeLost core text db' m tenantId finding = lost' at hlost ⊢
  cases hlocked with
  | some hafter => exact ⟨rfl, hafter⟩
  | none =>
    cases hlost with
    | some hafter => exact ⟨rfl, hafter⟩
    | none => exact ⟨rfl, h⟩

/-- `add_correlation` on both sides. -/
theorem addCorrelation (h : SameUnlessAsked removed db db') (tenantId : String) (correlation : Correlation) :
    (addCorrelation db m tenantId correlation).2 = (FindingLifecycle.addCorrelation db' m tenantId correlation).2 ∧
      SameUnlessAsked removed (FindingLifecycle.addCorrelation db m tenantId correlation).1
        (FindingLifecycle.addCorrelation db' m tenantId correlation).1 := by
  have hinsert : Option.Rel (SameUnlessAsked removed) (insertCorrelation db m tenantId correlation)
      (insertCorrelation db' m tenantId correlation) := by
    unfold insertCorrelation
    dsimp only
    rw [h.tenants, h.correlations, h.links]
    cases SqlJobs.ensureTenant db.tenants tenantId m.now with
    | none => exact .none
    | some tenants =>
      simp only [Option.bind_eq_bind, Option.bind_some]
      cases db.correlations.insert ⟨"corr_" ++ m.uuid, tenantId, correlation.ruleId, "1", correlation.severity,
        correlation.narrative, m.now⟩ with
      | none => exact .none
      | some correlations =>
        simp only [Option.bind_some]
        cases correlation.findings.foldlM (fun links findingId =>
          links.insert ⟨tenantId, "corr_" ++ m.uuid, findingId⟩) db.correlationFindings with
        | none => exact .none
        | some links => exact .some ⟨rfl, h.jobs, h.findings, h.sequence, rfl, rfl⟩
  unfold FindingLifecycle.addCorrelation
  generalize insertCorrelation db m tenantId correlation = inserted at hinsert ⊢
  generalize insertCorrelation db' m tenantId correlation = inserted' at hinsert ⊢
  cases hinsert with
  | some hafter => exact ⟨rfl, hafter⟩
  | none => exact ⟨rfl, h⟩

/-- `update_lifecycle` on both sides. -/
theorem updateLifecycle (h : SameUnlessAsked removed db db') (tenantId findingId : String)
    (status : Option FindingStatus) (assignedTo : Option (Option String)) (actor : String) :
    SameUnlessAsked removed (updateLifecycle core db m tenantId findingId status assignedTo actor).1
      (FindingLifecycle.updateLifecycle core db' m tenantId findingId status assignedTo actor).1 := by
  have hcases : (db.findings.find (fun row => row.tenantId = tenantId ∧ row.findingId = findingId) = none ∧
      db'.findings.find (fun row => row.tenantId = tenantId ∧ row.findingId = findingId) = none) ∨
      ∃ row row', db.findings.find (fun row => row.tenantId = tenantId ∧ row.findingId = findingId) = some row ∧
        db'.findings.find (fun row => row.tenantId = tenantId ∧ row.findingId = findingId) = some row' :=
    h.findings.find_cases (findingId_untriaged removed tenantId findingId)
  unfold FindingLifecycle.updateLifecycle
  obtain ⟨hnone, hnone'⟩ | ⟨row, row', hrow, hrow'⟩ := hcases
  · rw [hnone, hnone']
    exact h
  · rw [hrow, hrow']
    refine ⟨h.tenants, h.jobs, ?_, h.sequence, h.correlations, h.links⟩
    exact h.findings.update (FindingRow.triage_keeps status assignedTo m.now)
      (findingId_untriaged removed tenantId findingId) (FindingRow.untriaged_triage status assignedTo m.now)
      (FindingRow.untriaged_untriaged removed)

/-- A triage of the tenant on one side. -/
theorem updateLifecycle_outside (h : SameUnlessAsked removed db db') (findingId : String)
    (status : Option FindingStatus) (assignedTo : Option (Option String)) (actor : String) :
    SameUnlessAsked removed (FindingLifecycle.updateLifecycle core db m removed findingId status assignedTo actor).1 db' := by
  unfold FindingLifecycle.updateLifecycle
  split
  · exact h
  · refine ⟨h.tenants, h.jobs, ?_, h.sequence, h.correlations, h.links⟩
    exact h.findings.update_hidden (FindingRow.triage_keeps status assignedTo m.now) fun row hrow =>
      FindingRow.untriaged_hidden (of_decide_eq_true hrow).1 status assignedTo m.now

/-- A record under its own cursor. -/
theorem renumber_record (record : FindingLifecycleRecord) : record.renumber id = record := rfl

/-- A registry call that only reads, for another tenant. -/
theorem registry_reads (h : SameUnlessAsked removed db db') {call : RegistryCall} (htenant : tenantId ≠ removed)
    (hreads : (StoreCall.findings tenantId call).reads = true) :
    (call.perform core text db m tenantId).2 = (call.perform core text db' m tenantId).2 := by
  have hfindings := h.findingsAgree
  cases call with
  | addForJob | addCorrelation | updateLifecycle => cases hreads
  | findings => exact congrArg RegistryResult.findings (findings_eq hfindings (orderKept db.findings) htenant)
  | correlations =>
    apply congrArg RegistryResult.correlations
    unfold FindingLifecycle.correlations
    rw [h.correlations, h.links]
  | query source severity host cve since limit =>
    exact congrArg RegistryResult.findings (query_eq hfindings htenant source severity host cve since limit)
  | listPage cursor limit source severity status =>
    have hpage := @listPage_eq removed tenantId id core db db' hfindings (orderKept db.findings) htenant cursor limit
      source severity status
    simp only [renumber_record, List.map_id_fun', Option.map_id_fun, id_eq] at hpage
    exact congrArg (fun page : List FindingLifecycleRecord × Option ℕ => RegistryResult.page page.1 page.2) hpage

/-- The same registry call on both sides. -/
theorem registry_call (h : SameUnlessAsked removed db db') (tenantId : String) (call : RegistryCall) :
    (tenantId ≠ removed → (call.perform core text db m tenantId).2 = (call.perform core text db' m tenantId).2) ∧
      SameUnlessAsked removed (call.perform core text db m tenantId).1 (call.perform core text db' m tenantId).1 := by
  cases call with
  | addForJob finding jobId =>
    obtain ⟨hresult, hafter⟩ := @addForJob removed core text db db' m h tenantId finding jobId
    exact ⟨fun _ => congrArg RegistryResult.done hresult, hafter⟩
  | addCorrelation correlation =>
    obtain ⟨hresult, hafter⟩ := @addCorrelation removed db db' m h tenantId correlation
    exact ⟨fun _ => congrArg RegistryResult.done hresult, hafter⟩
  | updateLifecycle findingId status assignedTo actor =>
    refine ⟨fun htenant => ?_, h.updateLifecycle tenantId findingId status assignedTo actor⟩
    have hresult := (@updateLifecycle_alike removed tenantId id core db db' m h.findingsAgree htenant findingId status
      assignedTo actor).1
    simp only [renumber_record, Option.map_id_fun', id_eq] at hresult
    exact congrArg RegistryResult.record hresult
  | findings | correlations | query | listPage => exact ⟨fun htenant => h.registry_reads htenant rfl, h⟩

/-! ### All calls -/

/-- The same call on both sides keeps the stores alike, and returns the same to every other tenant. -/
theorem perform (h : SameUnlessAsked removed db db') (hstored : Stored db removed) (call : StoreCall)
    (hnew : ∀ old ∈ db.jobTables.jobs.rows, old.id ≠ "job_" ++ m.uuid)
    (hnew' : ∀ old ∈ db'.jobTables.jobs.rows, old.id ≠ "job_" ++ m.uuid) :
    (call.tenantId ≠ removed → (call.perform core text db m).2 = (call.perform core text db' m).2) ∧
      SameUnlessAsked removed (call.perform core text db m).1 (call.perform core text db' m).1 := by
  cases call with
  | jobs call =>
    obtain ⟨hresult, hafter⟩ := @jobs_call removed core db db' m h hstored call hnew hnew'
    exact ⟨fun htenant => congrArg StoreResult.jobs (hresult htenant), hafter⟩
  | findings tenantId call =>
    obtain ⟨hresult, hafter⟩ := @registry_call removed core text db db' m h tenantId call
    exact ⟨fun htenant => congrArg StoreResult.findings (hresult htenant), hafter⟩

/-- A call of a handler for the tenant on one side keeps the stores alike. -/
theorem perform_outside (h : SameUnlessAsked removed db db') (hstored : Stored db removed) {call : StoreCall}
    (htenant : call.tenantId = removed) (hfiles : call.files = false) :
    SameUnlessAsked removed (call.perform core text db m).1 db' := by
  cases call with
  | jobs call =>
    have hstored' : Stored db call.tenantId := by
      rw [show call.tenantId = removed from htenant]
      exact hstored
    obtain ⟨hwrite, hsame⟩ := @perform_write core db m call hstored'
    rw [show call.tenantId = removed from htenant] at hwrite
    exact h.of_jobsOnly hsame (JobsOnly.refl db') (hwrite.outside h.jobs)
  | findings tenantId call =>
    obtain rfl : tenantId = removed := htenant
    cases call with
    | addForJob | addCorrelation => cases hfiles
    | updateLifecycle findingId status assignedTo actor =>
      exact h.updateLifecycle_outside findingId status assignedTo actor
    | findings | correlations | query | listPage => exact h

end SameUnlessAsked

end SharedIntegration

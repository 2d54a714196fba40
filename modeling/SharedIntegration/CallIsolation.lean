import SharedIntegration.FindingIsolation

/-!
# Tenants of both stores

Calls of the job repository and of the finding registry against two databases that agree off one
tenant: a call for that tenant changes nothing of the others, and a call for another tenant returns
the same in both.
-/

namespace SharedIntegration

open Relational FindingLifecycle

namespace Isolation

variable {removed tenantId : String} {number : ℕ → ℕ} {core : CoreLibrary} {text : TextLibrary}
  {db db' : Database} {m : Moment}

/-- The same correlations and links of every other tenant. -/
structure CorrelationsAgree (removed : String) (db db' : Database) : Prop where
  correlations : Table.Mirrors (fun row => decide (row.tenantId ≠ removed)) id db.correlations db'.correlations
  links : Table.Mirrors (fun link => decide (link.tenantId ≠ removed)) id db.correlationFindings
    db'.correlationFindings

/-- `correlations` for another tenant. -/
theorem correlations_eq (h : CorrelationsAgree removed db db') (htenant : tenantId ≠ removed) (scan : ScanOrder) :
    correlations scan db tenantId = correlations scan db' tenantId := by
  have hrows : (db.correlations.select fun row => decide (row.tenantId = tenantId)) =
      db'.correlations.select fun row => decide (row.tenantId = tenantId) :=
    h.correlations.select_same fun row hrow => decide_eq_true ((of_decide_eq_true hrow).trans_ne htenant)
  have hlinks : (db.correlationFindings.select fun link => decide (link.tenantId = tenantId)) =
      db'.correlationFindings.select fun link => decide (link.tenantId = tenantId) :=
    h.links.select_same fun link hlink => decide_eq_true ((of_decide_eq_true hlink).trans_ne htenant)
  unfold correlations
  rw [hrows, hlinks]

/-- The link from a new correlation to a finding. -/
def insertLink (tenantId correlationId : String)
    (links : Table CorrelationFindingRow CorrelationFindingRow.Conflict) (findingId : String) :
    Option (Table CorrelationFindingRow CorrelationFindingRow.Conflict) :=
  links.insert ⟨tenantId, correlationId, findingId⟩

/-- `add_correlation` for a tenant that has a row. -/
theorem insertCorrelation_stored (hstored : Stored db tenantId) (correlation : Correlation) :
    insertCorrelation db m tenantId correlation =
      (db.correlations.insert ⟨"corr_" ++ m.uuid, tenantId, correlation.ruleId, "1", correlation.severity,
        correlation.narrative, m.now⟩).bind fun correlations =>
          (correlation.findings.foldlM (insertLink tenantId ("corr_" ++ m.uuid)) db.correlationFindings).map
            fun correlationFindings => { db with correlations, correlationFindings } := by
  unfold insertCorrelation
  dsimp only
  rw [ensureTenant_stored hstored]
  simp only [Option.map_eq_bind]
  rfl

/-- Links of another tenant are refused in both or keep the agreement. -/
theorem links_alike (correlationId : String) (htenant : tenantId ≠ removed) (ids : List String)
    {links links' : Table CorrelationFindingRow CorrelationFindingRow.Conflict}
    (h : Table.Mirrors (fun link => decide (link.tenantId ≠ removed)) id links links') :
    (ids.foldlM (insertLink tenantId correlationId) links = none ∧
      ids.foldlM (insertLink tenantId correlationId) links' = none) ∨
    ∃ after after', ids.foldlM (insertLink tenantId correlationId) links = some after ∧
      ids.foldlM (insertLink tenantId correlationId) links' = some after' ∧
      Table.Mirrors (fun link => decide (link.tenantId ≠ removed)) id after after' := by
  induction ids generalizing links links' with
  | nil => exact Or.inr ⟨links, links', rfl, rfl, h⟩
  | cons findingId rest ih =>
    have hfree : ∀ old : CorrelationFindingRow, decide (old.tenantId ≠ removed) = false →
        ¬ CorrelationFindingRow.Conflict old ⟨tenantId, correlationId, findingId⟩ := by
      intro old hkept hsame
      rw [show old = ⟨tenantId, correlationId, findingId⟩ from hsame] at hkept
      exact of_decide_eq_false hkept htenant
    obtain ⟨hnone, hnone'⟩ | ⟨next, next', hnext, hnext', hagree⟩ :=
      h.insert_same (decide_eq_true htenant) (fun old _ => hfree old) fun old _ => hfree old
    · exact Or.inl ⟨by simp [List.foldlM_cons, insertLink, hnone], by simp [List.foldlM_cons, insertLink, hnone']⟩
    · obtain ⟨hnone, hnone'⟩ | ⟨after, after', hafter, hafter', hagree'⟩ := ih hagree
      · exact Or.inl ⟨by simp [List.foldlM_cons, insertLink, hnext, hnone],
          by simp [List.foldlM_cons, insertLink, hnext', hnone']⟩
      · exact Or.inr ⟨after, after', by simp [List.foldlM_cons, insertLink, hnext, hafter],
          by simp [List.foldlM_cons, insertLink, hnext', hafter'], hagree'⟩

/-- Links of the tenant keep the agreement. -/
theorem links_outside (correlationId : String) (ids : List String)
    {links links' after : Table CorrelationFindingRow CorrelationFindingRow.Conflict}
    (h : Table.Mirrors (fun link => decide (link.tenantId ≠ removed)) id links links')
    (hafter : ids.foldlM (insertLink removed correlationId) links = some after) :
    Table.Mirrors (fun link => decide (link.tenantId ≠ removed)) id after links' := by
  induction ids generalizing links with
  | nil =>
    cases hafter
    exact h
  | cons findingId rest ih =>
    rw [List.foldlM_cons] at hafter
    obtain ⟨next, hnext, hrest⟩ := Option.bind_eq_some_iff.mp hafter
    exact ih (h.insert_outside (decide_eq_false fun hne => hne rfl) hnext) hrest

/-- `add_correlation` for another tenant. -/
theorem addCorrelation_alike (h : CorrelationsAgree removed db db') (htenant : tenantId ≠ removed)
    (hstored : Stored db tenantId) (hstored' : Stored db' tenantId)
    (hnew : ∀ row ∈ db.correlations.rows, row.id ≠ "corr_" ++ m.uuid)
    (hnew' : ∀ row ∈ db'.correlations.rows, row.id ≠ "corr_" ++ m.uuid) (correlation : Correlation) :
    (addCorrelation db m tenantId correlation).2 = (addCorrelation db' m tenantId correlation).2 ∧
      CorrelationsAgree removed (addCorrelation db m tenantId correlation).1
        (addCorrelation db' m tenantId correlation).1 := by
  unfold addCorrelation
  rw [insertCorrelation_stored hstored, insertCorrelation_stored hstored']
  let row : CorrelationRow := ⟨"corr_" ++ m.uuid, tenantId, correlation.ruleId, "1", correlation.severity,
    correlation.narrative, m.now⟩
  obtain ⟨hnone, hnone'⟩ | ⟨rows, rows', hrows, hrows', hagree⟩ :=
    @Table.Mirrors.insert_same _ _ _ _ _ _ h.correlations row (decide_eq_true htenant)
      (fun old hold _ => hnew old hold) fun old hold _ => hnew' old hold
  · rw [hnone, hnone']
    exact ⟨rfl, h⟩
  · rw [hrows, hrows', Option.bind_some, Option.bind_some]
    obtain ⟨hnone, hnone'⟩ | ⟨links, links', hlinks, hlinks', hagree'⟩ :=
      links_alike ("corr_" ++ m.uuid) htenant correlation.findings h.links
    · rw [hnone, hnone']
      exact ⟨rfl, h⟩
    · rw [hlinks, hlinks']
      exact ⟨rfl, hagree, hagree'⟩

/-- `add_correlation` for the tenant keeps the correlations of the others. -/
theorem addCorrelation_outside (h : CorrelationsAgree removed db db') (hstored : Stored db removed)
    (correlation : Correlation) : CorrelationsAgree removed (addCorrelation db m removed correlation).1 db' := by
  unfold addCorrelation
  rw [insertCorrelation_stored hstored]
  split
  · next hinsert =>
    obtain ⟨rows, hrows, hrest⟩ := Option.bind_eq_some_iff.mp hinsert
    obtain ⟨links, hlinks, rfl⟩ := Option.map_eq_some_iff.mp hrest
    exact ⟨h.correlations.insert_outside (decide_eq_false fun hne => hne rfl) hrows,
      links_outside _ _ h.links hlinks⟩
  · exact h

/-- `add_correlation` adds correlations and links only. -/
theorem addCorrelation_frame (hstored : Stored db tenantId) (correlation : Correlation) :
    RegistryFrame m tenantId db (addCorrelation db m tenantId correlation).1 := by
  unfold addCorrelation
  rw [insertCorrelation_stored hstored]
  split
  · next hinsert =>
    obtain ⟨rows, hrows, hrest⟩ := Option.bind_eq_some_iff.mp hinsert
    obtain ⟨links, -, rfl⟩ := Option.map_eq_some_iff.mp hrest
    refine ⟨rfl, rfl, RowsGrow.of_eq rfl rfl, fun row hrow => ?_⟩
    rw [(Table.insert_eq_some hrows).1] at hrow
    rcases List.mem_append.mp hrow with hold | hnew
    · exact Or.inl hold
    · rw [List.mem_singleton.mp hnew]
      exact Or.inr rfl
  · exact RegistryFrame.refl m tenantId db

/-! ### One call -/

/-- What any call leaves alone, and what it may add. -/
structure CallFrame (m : Moment) (tenantId : String) (db db₁ : Database) : Prop where
  tenants : db₁.tenants = db.tenants
  rows : RowsGrow tenantId db db₁
  jobIds : ∀ row ∈ db₁.jobTables.jobs.rows, (∃ old ∈ db.jobTables.jobs.rows, old.id = row.id) ∨
    row.id = "job_" ++ m.uuid
  correlationIds : ∀ row ∈ db₁.correlations.rows, row ∈ db.correlations.rows ∨ row.id = "corr_" ++ m.uuid

/-- A call of the registry leaves the jobs alone. -/
theorem RegistryFrame.call {db₁ : Database} (h : RegistryFrame m tenantId db db₁) : CallFrame m tenantId db db₁ where
  tenants := h.tenants
  rows := h.rows
  jobIds row hrow := Or.inl ⟨row, h.jobTables ▸ hrow, rfl⟩
  correlationIds := h.correlationIds

/-- Every call is framed so. -/
theorem call_frame (call : StoreCall) (hstored : Stored db call.tenantId) :
    CallFrame m call.tenantId db (call.perform core text db m).1 := by
  cases call with
  | jobs call =>
    obtain ⟨hwrite, hsame⟩ := @perform_write core db m call hstored
    exact ⟨hsame.tenants, RowsGrow.of_eq hsame.findings hsame.findingSequence, hwrite.ids,
      fun row hrow => Or.inl (hsame.correlations ▸ hrow)⟩
  | findings tenantId call =>
    apply RegistryFrame.call
    cases call with
    | addForJob finding jobId => exact addForJob_frame hstored finding jobId
    | addCorrelation correlation => exact addCorrelation_frame hstored correlation
    | updateLifecycle findingId status assignedTo actor =>
      exact updateLifecycle_frame findingId status assignedTo actor
    | _ => exact RegistryFrame.refl m tenantId db

/-- The databases hold the same rows of every tenant but one, with findings under other row ids. -/
structure Agree (removed : String) (number : ℕ → ℕ) (db db' : Database) : Prop where
  tenants : db'.tenants = db.tenants
  jobs : JobsAgree removed db.jobTables db'.jobTables
  findings : FindingsAgree removed number db.findings db'.findings
  sequence : db'.findingSequence = number db.findingSequence
  correlations : CorrelationsAgree removed db db'

/-- Correlations that did not change. -/
theorem CorrelationsAgree.of_eq {db₁ db₁' : Database} (h : CorrelationsAgree removed db db')
    (hrows : db₁.correlations = db.correlations) (hlinks : db₁.correlationFindings = db.correlationFindings)
    (hrows' : db₁'.correlations = db'.correlations) (hlinks' : db₁'.correlationFindings = db'.correlationFindings) :
    CorrelationsAgree removed db₁ db₁' :=
  ⟨by rw [hrows, hrows']; exact h.correlations, by rw [hlinks, hlinks']; exact h.links⟩

/-- `add_for_job` leaves the correlations alone. -/
theorem addForJob_correlations (hstored : Stored db tenantId) (finding : Finding) (jobId : Option String) :
    (addForJob core text db m tenantId finding jobId).1.correlations = db.correlations ∧
      (addForJob core text db m tenantId finding jobId).1.correlationFindings = db.correlationFindings := by
  rw [addForJob_stored hstored]
  split
  · split <;> exact ⟨rfl, rfl⟩
  · exact ⟨rfl, rfl⟩

/-- `add_correlation` leaves the findings alone. -/
theorem addCorrelation_findings (hstored : Stored db tenantId) (correlation : Correlation) :
    (addCorrelation db m tenantId correlation).1.findings = db.findings ∧
      (addCorrelation db m tenantId correlation).1.findingSequence = db.findingSequence := by
  unfold addCorrelation
  rw [insertCorrelation_stored hstored]
  split
  · next hinsert =>
    obtain ⟨rows, -, hrest⟩ := Option.bind_eq_some_iff.mp hinsert
    obtain ⟨links, -, rfl⟩ := Option.map_eq_some_iff.mp hrest
    exact ⟨rfl, rfl⟩
  · exact ⟨rfl, rfl⟩

/-- `update_lifecycle` leaves the sequence and the correlations alone. -/
theorem updateLifecycle_others (findingId : String) (status : Option FindingStatus)
    (assignedTo : Option (Option String)) (actor : String) :
    (updateLifecycle core db m tenantId findingId status assignedTo actor).1.findingSequence = db.findingSequence ∧
      (updateLifecycle core db m tenantId findingId status assignedTo actor).1.correlations = db.correlations ∧
      (updateLifecycle core db m tenantId findingId status assignedTo actor).1.correlationFindings =
        db.correlationFindings := by
  unfold updateLifecycle
  split <;> exact ⟨rfl, rfl, rfl⟩

/-- Job tables that did not change. -/
theorem JobsAgree.of_eq {tables tables' tables₁ tables₁' : JobTables JobRow} (h : JobsAgree removed tables tables')
    (hsame : tables₁ = tables) (hsame' : tables₁' = tables') : JobsAgree removed tables₁ tables₁' := by
  rw [hsame, hsame']
  exact h

/-- Findings that did not change. -/
theorem FindingsAgree.of_eq {findings findings' findings₁ findings₁' : Table FindingRow FindingRow.Conflict}
    (h : FindingsAgree removed number findings findings') (hsame : findings₁ = findings)
    (hsame' : findings₁' = findings') : FindingsAgree removed number findings₁ findings₁' := by
  rw [hsame, hsame']
  exact h

/-- A call for the tenant keeps the agreement when performed in the first database only. -/
theorem Agree.outside (h : Agree removed number db db') (call : StoreCall) (htenant : call.tenantId = removed)
    (hstored : Stored db removed)
    (hnext : number (call.perform core text db m).1.findingSequence = number db.findingSequence) :
    Agree removed number (call.perform core text db m).1 db' := by
  have hsequence : db'.findingSequence = number (call.perform core text db m).1.findingSequence :=
    h.sequence.trans hnext.symm
  have hstored' : Stored db call.tenantId := by
    rw [htenant]
    exact hstored
  have htenants : db'.tenants = (call.perform core text db m).1.tenants :=
    h.tenants.trans (@call_frame core text db m call hstored').tenants.symm
  cases call with
  | jobs call =>
    obtain ⟨hwrite, hsame⟩ := @perform_write core db m call hstored'
    change call.tenantId = removed at htenant
    rw [htenant] at hwrite
    exact ⟨htenants, hwrite.outside h.jobs, FindingsAgree.of_eq h.findings hsame.findings rfl, hsequence,
      h.correlations.of_eq hsame.correlations hsame.correlationFindings rfl rfl⟩
  | findings tenantId call =>
    change tenantId = removed at htenant
    subst htenant
    cases call with
    | addForJob finding jobId =>
      have hframe := @addForJob_frame tenantId core text db m hstored finding jobId
      obtain ⟨hrows, hlinks⟩ := @addForJob_correlations tenantId core text db m hstored finding jobId
      exact ⟨htenants, h.jobs.of_eq hframe.jobTables rfl, addForJob_outside h.findings hstored finding jobId,
        hsequence, h.correlations.of_eq hrows hlinks rfl rfl⟩
    | addCorrelation correlation =>
      have hframe := @addCorrelation_frame tenantId db m hstored correlation
      have hfindings := (@addCorrelation_findings tenantId db m hstored correlation).1
      exact ⟨htenants, h.jobs.of_eq hframe.jobTables rfl, FindingsAgree.of_eq h.findings hfindings rfl, hsequence,
        addCorrelation_outside h.correlations hstored correlation⟩
    | updateLifecycle findingId status assignedTo actor =>
      have hframe := @updateLifecycle_frame tenantId core db m findingId status assignedTo actor
      obtain ⟨-, hrows, hlinks⟩ := @updateLifecycle_others tenantId core db m findingId status assignedTo actor
      exact ⟨htenants, h.jobs.of_eq hframe.jobTables rfl,
        updateLifecycle_outside h.findings findingId status assignedTo actor, hsequence,
        h.correlations.of_eq hrows hlinks rfl rfl⟩
    | _ => exact h

/-- The identifiers of a moment are new. -/
structure Unused (m : Moment) (db : Database) : Prop where
  jobs : ∀ row ∈ db.jobTables.jobs.rows, row.id ≠ "job_" ++ m.uuid
  correlations : ∀ row ∈ db.correlations.rows, row.id ≠ "corr_" ++ m.uuid

/-- Renumbering cursors keeps the tenant of a call. -/
@[simp] theorem renumber_tenantId (call : StoreCall) : (call.renumber number).tenantId = call.tenantId := by
  unfold StoreCall.renumber
  split <;> rfl

/-- A call of the registry for another tenant. -/
theorem Agree.registry (h : Agree removed number db db') (htenant : tenantId ≠ removed)
    (hstored : Stored db tenantId) (hstored' : Stored db' tenantId) (horder : OrderKept removed number db.findings)
    (hnumbered : Numbered db) (hnumbered' : Numbered db') (hunused : Unused m db) (hunused' : Unused m db')
    (call : RegistryCall)
    (hnext : (call.perform core text db m tenantId).1.findingSequence ≠ db.findingSequence →
      number (db.findingSequence + 1) = number db.findingSequence + 1) :
    (StoreResult.renumber number (.findings (call.perform core text db m tenantId).2) =
        (((StoreCall.findings tenantId call).renumber number).perform core text db' m).2) ∧
      Agree removed number (call.perform core text db m tenantId).1
        (((StoreCall.findings tenantId call).renumber number).perform core text db' m).1 := by
  cases call with
  | addForJob finding jobId =>
    obtain ⟨hresult, hfindings, hsequence⟩ := addForJob_alike h.findings horder hnumbered hnumbered' h.sequence
      htenant hstored hstored' finding jobId hnext
    have hframe := @addForJob_frame tenantId core text db m hstored finding jobId
    have hframe' := @addForJob_frame tenantId core text db' m hstored' finding jobId
    obtain ⟨hrows, hlinks⟩ := @addForJob_correlations tenantId core text db m hstored finding jobId
    obtain ⟨hrows', hlinks'⟩ := @addForJob_correlations tenantId core text db' m hstored' finding jobId
    exact ⟨congrArg (fun result => StoreResult.findings (.done result)) hresult,
      hframe'.tenants.trans (h.tenants.trans hframe.tenants.symm), h.jobs.of_eq hframe.jobTables hframe'.jobTables,
      hfindings, hsequence, h.correlations.of_eq hrows hlinks hrows' hlinks'⟩
  | addCorrelation correlation =>
    obtain ⟨hresult, hcorrelations⟩ := addCorrelation_alike h.correlations htenant hstored hstored'
      hunused.correlations hunused'.correlations correlation
    have hframe := @addCorrelation_frame tenantId db m hstored correlation
    have hframe' := @addCorrelation_frame tenantId db' m hstored' correlation
    obtain ⟨hfindings, hsequence⟩ := @addCorrelation_findings tenantId db m hstored correlation
    obtain ⟨hfindings', hsequence'⟩ := @addCorrelation_findings tenantId db' m hstored' correlation
    exact ⟨congrArg (fun result => StoreResult.findings (.done result)) hresult,
      hframe'.tenants.trans (h.tenants.trans hframe.tenants.symm), h.jobs.of_eq hframe.jobTables hframe'.jobTables,
      FindingsAgree.of_eq h.findings hfindings hfindings',
      hsequence'.trans (h.sequence.trans (congrArg number hsequence.symm)), hcorrelations⟩
  | findings =>
    exact ⟨congrArg (fun found => StoreResult.findings (.findings found)) (findings_eq h.findings horder htenant), h⟩
  | correlations scan =>
    exact ⟨congrArg (fun found => StoreResult.findings (.correlations found))
      (correlations_eq h.correlations htenant scan), h⟩
  | query source severity host cve since limit =>
    exact ⟨congrArg (fun found => StoreResult.findings (.findings found))
      (query_eq h.findings htenant source severity host cve since limit), h⟩
  | listPage cursor limit source severity status =>
    have hpage := @listPage_eq removed tenantId number core db db' h.findings horder htenant cursor limit source
      severity status
    exact ⟨congrArg (fun page : List FindingLifecycleRecord × Option ℕ => StoreResult.findings (.page page.1 page.2))
      hpage, h⟩
  | updateLifecycle findingId status assignedTo actor =>
    obtain ⟨hresult, hfindings⟩ := @updateLifecycle_alike removed tenantId number core db db' m h.findings htenant
      findingId status assignedTo actor
    have hframe := @updateLifecycle_frame tenantId core db m findingId status assignedTo actor
    have hframe' := @updateLifecycle_frame tenantId core db' m findingId status assignedTo actor
    obtain ⟨hsequence, hrows, hlinks⟩ := @updateLifecycle_others tenantId core db m findingId status assignedTo actor
    obtain ⟨hsequence', hrows', hlinks'⟩ :=
      @updateLifecycle_others tenantId core db' m findingId status assignedTo actor
    exact ⟨congrArg (fun record => StoreResult.findings (.record record)) hresult,
      hframe'.tenants.trans (h.tenants.trans hframe.tenants.symm), h.jobs.of_eq hframe.jobTables hframe'.jobTables,
      hfindings, hsequence'.trans (h.sequence.trans (congrArg number hsequence.symm)),
      h.correlations.of_eq hrows hlinks hrows' hlinks'⟩

/-- A call for another tenant returns the same in both databases, up to row ids, and keeps the agreement. -/
theorem Agree.alike (h : Agree removed number db db') (call : StoreCall) (htenant : call.tenantId ≠ removed)
    (hstored : Stored db call.tenantId) (horder : OrderKept removed number db.findings)
    (hnumbered : Numbered db) (hnumbered' : Numbered db') (hunused : Unused m db) (hunused' : Unused m db')
    (hnext : (call.perform core text db m).1.findingSequence ≠ db.findingSequence →
      number (db.findingSequence + 1) = number db.findingSequence + 1) :
    (call.perform core text db m).2.renumber number = ((call.renumber number).perform core text db' m).2 ∧
      Agree removed number (call.perform core text db m).1 ((call.renumber number).perform core text db' m).1 := by
  have hstored' : Stored db' call.tenantId := by
    unfold Stored
    rw [h.tenants]
    exact hstored
  cases call with
  | jobs call =>
    obtain ⟨hresult, hjobs⟩ := @perform_alike removed core db db' m call h.jobs htenant hstored hstored'
      hunused.jobs hunused'.jobs
    obtain ⟨-, hsame⟩ := @perform_write core db m call hstored
    obtain ⟨-, hsame'⟩ := @perform_write core db' m call hstored'
    exact ⟨congrArg StoreResult.jobs hresult, hsame'.tenants.trans (h.tenants.trans hsame.tenants.symm), hjobs,
      FindingsAgree.of_eq h.findings hsame.findings hsame'.findings,
      hsame'.findingSequence.trans (h.sequence.trans (congrArg number hsame.findingSequence.symm)),
      h.correlations.of_eq hsame.correlations hsame.correlationFindings hsame'.correlations
        hsame'.correlationFindings⟩
  | findings tenantId call =>
    exact h.registry htenant hstored hstored' horder hnumbered hnumbered' hunused hunused' call hnext

end Isolation

end SharedIntegration

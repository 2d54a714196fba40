import SharedIntegration.Claiming

/-!
# What a step does to the finding registry

On the relational backend only two transactions of a run touch findings and correlation links,
and only one kind of event carries a finding. The steps of `_store_results` are listed with
what they read from the registry and what they leave there; every other step of the system
leaves the registry and the finding events alone.
-/

namespace SharedIntegration

open Transition Relational

/-- The finding events of a job. -/
def findingLog (db : Database) (key : JobKey) : List JobEvent :=
  ((SqlJobs.view db key).toList.flatMap JobView.log).filter fun event => event.kind = "finding"

/-- Findings, correlations with their links and finding events are the same in both databases. -/
structure SameRegistry (db db' : Database) : Prop where
  findings : db'.findings = db.findings
  correlations : db'.correlations = db.correlations
  links : db'.correlationFindings = db.correlationFindings
  log : ∀ key, findingLog db' key = findingLog db key

namespace SameRegistry

/-- Nothing has happened. -/
theorem refl (db : Database) : SameRegistry db db := ⟨rfl, rfl, rfl, fun _ => rfl⟩

/-- A change of one job that appends no finding event. -/
theorem of_update {db db' : Database} {key : JobKey} {v v' : JobView}
    (hfindings : db'.findings = db.findings) (hcorrelations : db'.correlations = db.correlations)
    (hlinks : db'.correlationFindings = db.correlationFindings)
    (hv : SqlJobs.view db key = some v)
    (hview : SqlJobs.view db' = Function.update (SqlJobs.view db) key (some v'))
    (hlog : (v'.log.filter fun event => event.kind = "finding") =
      v.log.filter fun event => event.kind = "finding") : SameRegistry db db' := by
  refine ⟨hfindings, hcorrelations, hlinks, fun other => ?_⟩
  unfold findingLog
  by_cases hother : other = key
  · subst hother
    rw [hview, Function.update_self, hv]
    simpa using hlog
  · rw [hview, Function.update_of_ne hother]

end SameRegistry

/-- Appending an event of another kind leaves the finding events. -/
theorem filter_append_other {v : JobView} {kind : String} (hkind : kind ≠ "finding")
    (payload : Document) (now : Instant) :
    ((v.append kind payload now).log.filter fun event => event.kind = "finding") =
      v.log.filter fun event => event.kind = "finding" := by
  simp [hkind]

namespace SqlJobs

/-- `_required` changes nothing. -/
theorem required_same {db db' : Database} {key : JobKey} {record : JobRecord}
    (h : required db key = .ok (db', record)) : db' = db := by
  unfold required at h
  split at h <;> cases h
  rfl

/-- `create` stores no finding. -/
theorem create_registry {core : CoreLibrary} {db db' : Database} {m : Moment} {tenantId : String}
    {source : FindingSource} {payload : Document} {idempotencyKey : Option String}
    {record : JobRecord} {isNew : Bool}
    (h : create core db m tenantId source payload idempotencyKey = .ok (db', record, isNew)) :
    SameRegistry db db' := by
  have hregistry : db'.findings = db.findings ∧ db'.correlations = db.correlations ∧
    db'.correlationFindings = db.correlationFindings := by
    unfold create at h
    split at h
    · cases h
      exact ⟨rfl, rfl, rfl⟩
    · split at h
      · next inserted hinsert =>
        have hdb : db' = inserted := by
          split at h <;> cases h
          rfl
        rw [hdb]
        simp only [insertJob, Option.bind_eq_bind, Option.bind_eq_some_iff, Option.some.injEq] at hinsert
        obtain ⟨tenants, -, jobTables, -, rfl⟩ := hinsert
        exact ⟨rfl, rfl, rfl⟩
      · split at h <;> cases h
        exact ⟨rfl, rfl, rfl⟩
  rcases create_ok h with ⟨-, rfl, -⟩ | ⟨-, -, hnone, -, hview⟩
  · exact .refl _
  · refine ⟨hregistry.1, hregistry.2.1, hregistry.2.2, fun other => ?_⟩
    unfold findingLog
    by_cases hother : other = record.key
    · subst hother
      rw [hview, Function.update_self, hnone]
      rfl
    · rw [hview, Function.update_of_ne hother]

/-- `mark_running` stores no finding. -/
theorem markRunning_registry (db : Database) (m : Moment) (key : JobKey) (requireQueued : Bool) :
    SameRegistry db (markRunning db m key requireQueued).1 := by
  by_cases hclaim : ∃ v, view db key = some v ∧ JobView.claimable requireQueued v.record = true
  · obtain ⟨v, hv, hclaimable⟩ := hclaim
    refine .of_update ?_ ?_ ?_ hv (markRunning_claimed m requireQueued hv hclaimable).2
      (filter_append_other (by decide) _ _)
    · unfold markRunning
      split <;> rfl
    · unfold markRunning
      split <;> rfl
    · unfold markRunning
      split <;> rfl
  · rw [markRunning_refused m requireQueued]
    · exact .refl db
    · intro v hv
      by_contra hclaimable
      exact hclaim ⟨v, hv, Bool.not_eq_false _ ▸ hclaimable⟩

/-- `transition` stores no finding. -/
theorem transition_registry {db db' : Database} {m : Moment} {key : JobKey} {status : JobStatus}
    {resultCount : Option ℕ} {errorCode errorMessage : Option String} {record : JobRecord}
    (h : transition db m key status resultCount errorCode errorMessage = .ok (db', record)) :
    SameRegistry db db' := by
  have hregistry : db'.findings = db.findings ∧ db'.correlations = db.correlations ∧
    db'.correlationFindings = db.correlationFindings := by
    unfold transition at h
    split at h
    · cases h
    · rw [required_same h]
      exact ⟨rfl, rfl, rfl⟩
  cases hv : view db key with
  | none =>
    rw [transition, findRow_of_view_none hv] at h
    cases h
  | some v =>
    obtain ⟨db'', h', hview⟩ := transition_ok m status resultCount errorCode errorMessage hv
    rw [h', Except.ok.injEq, Prod.mk.injEq] at h
    rw [h.1] at hview
    exact .of_update hregistry.1 hregistry.2.1 hregistry.2.2 hv hview (filter_append_other (by decide) _ _)

/-- `append_event` stores no finding. -/
theorem appendEvent_registry {db db' : Database} {m : Moment} {key : JobKey} {kind : String}
    {payload : Document} {event : JobEvent} (h : appendEvent db m key kind payload = .ok (db', event)) :
    db'.findings = db.findings ∧ db'.correlations = db.correlations ∧
    db'.correlationFindings = db.correlationFindings := by
  unfold appendEvent at h
  split at h
  · cases h
  · rw [Except.ok.injEq, Prod.mk.injEq] at h
    rw [← h.1]
    exact ⟨rfl, rfl, rfl⟩

/-- `append_event` appends to the log of a stored job. -/
theorem appendEvent_view {db db' : Database} {m : Moment} {key : JobKey} {kind : String} {payload : Document}
    {event : JobEvent} (h : appendEvent db m key kind payload = .ok (db', event)) :
    ∃ v, view db key = some v ∧ view db' = Function.update (view db) key (some (v.append kind payload m.now)) := by
  cases hv : view db key with
  | none =>
    rw [appendEvent, findRow_of_view_none hv] at h
    cases h
  | some v =>
    obtain ⟨db'', event', h', hview⟩ := appendEvent_ok m kind payload hv
    rw [h', Except.ok.injEq, Prod.mk.injEq] at h
    rw [h.1] at hview
    exact ⟨v, rfl, hview⟩

/-- `append_event` of another kind appends no finding event. -/
theorem appendEvent_other {db db' : Database} {m : Moment} {key : JobKey} {kind : String}
    {payload : Document} {event : JobEvent} (h : appendEvent db m key kind payload = .ok (db', event))
    (hkind : kind ≠ "finding") : SameRegistry db db' := by
  obtain ⟨hfindings, hcorrelations, hlinks⟩ := appendEvent_registry h
  obtain ⟨v, hv, hview⟩ := appendEvent_view h
  exact .of_update hfindings hcorrelations hlinks hv hview (filter_append_other hkind _ _)

/-- The finding events behind an `append_event` are the old ones and the new one. -/
theorem mem_findingLog_appendEvent {db db' : Database} {m : Moment} {key other : JobKey} {kind : String}
    {payload : Document} {event old : JobEvent}
    (h : appendEvent db m key kind payload = .ok (db', event)) (hold : old ∈ findingLog db' other) :
    old ∈ findingLog db other ∨ (other = key ∧ old.payload = payload) := by
  obtain ⟨v, hv, hview⟩ := appendEvent_view h
  unfold findingLog at hold ⊢
  rw [hview] at hold
  by_cases hother : other = key
  · subst hother
    rw [Function.update_self] at hold
    rw [hv]
    simp only [Option.toList_some, List.flatMap_cons, List.flatMap_nil, List.append_nil,
      JobView.append_log, List.filter_append, List.mem_append] at hold ⊢
    rcases hold with hold | hnew
    · exact .inl hold
    · rw [List.mem_singleton.mp (List.mem_of_mem_filter hnew)]
      exact .inr ⟨trivial, rfl⟩
  · rw [Function.update_of_ne hother] at hold
    exact .inl hold

/-- `set_dispatch_id` stores no finding. -/
theorem setDispatchId_registry (db : Database) (m : Moment) (key : JobKey) (dispatchId : String) :
    SameRegistry db (setDispatchId db m key dispatchId) := by
  have hview := setDispatchId_view db m key dispatchId
  cases hv : view db key with
  | none =>
    rw [hv, Option.map_none, ← hv, Function.update_eq_self] at hview
    refine ⟨rfl, rfl, rfl, fun other => ?_⟩
    rw [findingLog, findingLog, hview]
  | some v =>
    rw [hv, Option.map_some] at hview
    exact .of_update rfl rfl rfl hv hview rfl

/-- `request_cancel` stores no finding. -/
theorem requestCancel_registry {db db' : Database} {m : Moment} {key : JobKey} {record : JobRecord}
    (h : requestCancel db m key = .ok (db', record)) : SameRegistry db db' := by
  have hregistry : db'.findings = db.findings ∧ db'.correlations = db.correlations ∧
    db'.correlationFindings = db.correlationFindings := by
    unfold requestCancel at h
    split at h
    · cases h
    · split at h
      · cases h
        exact ⟨rfl, rfl, rfl⟩
      · rw [required_same h]
        exact ⟨rfl, rfl, rfl⟩
  cases hv : view db key with
  | none =>
    rw [requestCancel, findRow_of_view_none hv] at h
    cases h
  | some v =>
    obtain ⟨db'', h', hview⟩ := requestCancel_ok m hv
    rw [h', Except.ok.injEq, Prod.mk.injEq] at h
    rw [h.1] at hview
    refine .of_update hregistry.1 hregistry.2.1 hregistry.2.2 hv hview ?_
    unfold JobView.requestCancel
    split
    · rfl
    · exact filter_append_other (by decide) _ _

end SqlJobs

/-- How far a run is from storing: it may still come to it, it is in `_store_results` or about
to report its success, or it will not store anything any more. -/
inductive Phase
  | before
  | storing
  | over
deriving DecidableEq

/-- The phase of a stage. -/
def Stage.phase : Stage → Phase
  | .storing _ | .adding _ | .recording _ | .correlating _ _ _ | .recordingCorrelation _ _ _ _
  | .succeeding _ => .storing
  | .jobCancelled | .asyncCancelled | .cancellingAsync | .failing _ _ _ => .over
  | .waiting | .polling _ | .stopping | .abandoning | .retrying _ | .sleeping => .before

/-- The phase of a position. -/
def Pc.phase : Pc → Phase
  | .trying _ stage => stage.phase
  | .done _ | .dead => .over
  | .start | .unknownSource _ | .loopTop _ | .cancelling _ | .claiming _ _ => .before

/-- What a step of a run does to the registry, with what the store loop reads from it. -/
inductive Run.Storing (core : CoreLibrary) (text : TextLibrary) (run : Run) (m : Moment)
    (db db' : Database) (run' : Run) : Prop
  | outside (hbefore : run.pc.phase = .before)
      (hafter : run'.pc.phase = .before ∨ ∃ attempt found, run'.pc = .trying attempt (.storing found))
      (hsame : SameRegistry db db')
  | leave (hover : run'.pc.phase = .over) (hsame : SameRegistry db db')
  | load {attempt found} (hpc : run.pc = .trying attempt (.storing found))
      (hpc' : run'.pc = .trying attempt
        (storeNext (FindingLifecycle.findings core db run.key.tenantId) found.length found))
      (hdb : db' = db)
  | add {attempt loop} (hpc : run.pc = .trying attempt (.adding loop))
      (hpc' : run'.pc = .trying attempt (.recording loop))
      (hstore : FindingLifecycle.storeFinding core text db m run.key.tenantId loop.finding
        (some run.key.jobId) = some db')
  | record {attempt loop event} (hpc : run.pc = .trying attempt (.recording loop))
      (hpc' : run'.pc = .trying attempt (.correlating loop run.executor.correlations []))
      (happend : SqlJobs.appendEvent db m run.key "finding" (core.toDict loop.finding) =
        .ok (db', event))
  | evaluate {attempt loop rule rules pending}
      (hpc : run.pc = .trying attempt (.correlating loop (rule :: rules) []))
      (hpc' : run'.pc = .trying attempt (.correlating loop rules pending))
      (hrule : rule loop.finding loop.existing = .ok pending) (hdb : db' = db)
  | correlate {attempt loop rules correlation pending}
      (hpc : run.pc = .trying attempt (.correlating loop rules (correlation :: pending)))
      (hpc' : run'.pc = .trying attempt (.recordingCorrelation loop rules correlation pending))
      (hinsert : FindingLifecycle.insertCorrelation db m run.key.tenantId correlation = some db')
  | recordCorrelation {attempt loop rules correlation pending}
      (hpc : run.pc = .trying attempt (.recordingCorrelation loop rules correlation pending))
      (hpc' : run'.pc = .trying attempt (.correlating loop rules pending))
      (hsame : SameRegistry db db')
  | next {attempt loop} (hpc : run.pc = .trying attempt (.correlating loop [] []))
      (hpc' : run'.pc = .trying attempt
        (storeNext (loop.existing ++ [loop.finding]) loop.count loop.rest))
      (hdb : db' = db)

section Steps

variable {core : CoreLibrary} {text : TextLibrary}

/-- What a settled scan leads to. -/
theorem afterScan_phase (executor : JobExecutor) (attempt : ℕ) (outcome : ScanOutcome) :
    (afterScan executor attempt outcome).phase ≠ .storing ∨
      ∃ found, afterScan executor attempt outcome = .storing found := by
  cases outcome with
  | findings found => exact .inr ⟨found, rfl⟩
  | productError error =>
    unfold afterScan
    dsimp only
    split <;> exact .inl fun h => nomatch h
  | otherError message => exact .inl fun h => nomatch h
  | cancelled => exact .inl fun h => nomatch h

/-- What a stopped scan leads to. -/
theorem afterStop_phase (executor : JobExecutor) (attempt : ℕ) {dropped : Stage}
    (hdropped : dropped.phase ≠ .storing) (outcome : ScanOutcome) :
    (afterStop executor attempt dropped outcome).phase ≠ .storing ∨
      ∃ found, afterStop executor attempt dropped outcome = .storing found := by
  cases outcome with
  | findings found => exact .inl hdropped
  | cancelled => exact .inl hdropped
  | productError error => exact afterScan_phase executor attempt (.productError error)
  | otherError message => exact afterScan_phase executor attempt (.otherError message)

/-- Waiting for the scan comes before storing. -/
theorem scanStep_phase {World : Type} {backend : Backend World} {executor : JobExecutor} {key : JobKey}
    {attempt : ℕ} {w : World} {stage stage' : Stage} {event : RunEvent}
    (h : scanStep backend executor key attempt w stage event = some stage') :
    stage.phase = .before ∧ (stage'.phase ≠ .storing ∨ ∃ found, stage' = .storing found) := by
  unfold scanStep at h
  split at h <;> (try split at h) <;> (try split at h) <;> cases h
  all_goals refine ⟨rfl, ?_⟩
  all_goals first
    | exact afterScan_phase _ _ _
    | exact afterStop_phase _ _ (by decide) _
    | exact .inl fun h => nomatch h

/-- A status that ends the run leaves the registry alone. -/
theorem endWith_registry {key : JobKey} {db db' : Database} {m : Moment} {status : JobStatus}
    {errorCode errorMessage : Option String} {pc : Pc}
    (h : endWith (relationalBackend core text) key db m status errorCode errorMessage = (db', pc)) :
    SameRegistry db db' ∧ pc.phase = .over := by
  unfold endWith at h
  split at h
  · next htransition =>
    cases h
    exact ⟨SqlJobs.transition_registry htransition, rfl⟩
  · cases h
    exact ⟨.refl db, rfl⟩

/-- The handlers of an attempt leave the registry alone; only a retry goes on. -/
theorem handlerStep_registry {key : JobKey} {attempt : ℕ} {db db' : Database} {m : Moment}
    {stage : Stage} {event : RunEvent} {pc : Pc}
    (h : handlerStep (relationalBackend core text) key attempt db m stage event = some (db', pc)) :
    SameRegistry db db' ∧ (pc.phase = .over ∨ stage.phase = .before ∧ pc.phase = .before) := by
  unfold handlerStep at h
  split at h
  · split at h
    · next htransition =>
      cases h
      exact ⟨SqlJobs.transition_registry htransition, .inl rfl⟩
    · cases h
      exact ⟨.refl db, .inl rfl⟩
  · obtain ⟨hsame, hover⟩ := endWith_registry (Option.some.inj h)
    exact ⟨hsame, .inl hover⟩
  · split at h
    · split at h <;> cases h <;> exact ⟨.refl db, .inl rfl⟩
    · cases h
      exact ⟨.refl db, .inl rfl⟩
  · split at h
    · next htransition =>
      cases h
      exact ⟨SqlJobs.transition_registry htransition, .inl rfl⟩
    · cases h
      exact ⟨.refl db, .inl rfl⟩
  · split at h
    · next happend =>
      cases h
      exact ⟨SqlJobs.appendEvent_other happend (by decide), .inr ⟨rfl, rfl⟩⟩
    · cases h
      exact ⟨.refl db, .inl rfl⟩
  · split at h <;> cases h
    exact ⟨.refl db, .inl rfl⟩
  · cases h
    exact ⟨.refl db, .inr ⟨rfl, rfl⟩⟩
  · cases h
    exact ⟨.refl db, .inl rfl⟩
  · obtain ⟨hsame, hover⟩ := endWith_registry (Option.some.inj h)
    exact ⟨hsame, .inl hover⟩
  · cases h

/-- Recording an event stores it and goes on, or leaves the store loop. -/
theorem recordEvent_cases {key : JobKey} {attempt : ℕ} {db db' : Database} {m : Moment} {kind : String}
    {payload : Document} {next : Stage} {event : RunEvent} {pc : Pc}
    (h : recordEvent (relationalBackend core text) key attempt db m kind payload next event =
      some (db', pc)) :
    (∃ stored, SqlJobs.appendEvent db m key kind payload = .ok (db', stored) ∧
      pc = .trying attempt next) ∨ (db' = db ∧ pc.phase = .over) := by
  unfold recordEvent at h
  split at h
  · split at h
    · next happend =>
      cases h
      exact .inl ⟨_, happend, rfl⟩
    · cases h
      exact .inr ⟨rfl, rfl⟩
  · split at h <;> cases h
    exact .inr ⟨rfl, rfl⟩
  · cases h
    exact .inr ⟨rfl, rfl⟩
  · cases h

/-- `_store_results`, step by step. -/
theorem storeStep_storing {run : Run} {attempt : ℕ} {db db' : Database} {m : Moment} {stage : Stage}
    {event : RunEvent} {pc : Pc} (hpc : run.pc = .trying attempt stage)
    (h : storeStep (relationalBackend core text) run.executor run.key attempt db m stage event =
      some (db', pc)) : run.Storing core text m db db' (run.goto pc) := by
  unfold storeStep at h
  split at h
  · cases h
    exact .load hpc rfl rfl
  · next loop =>
    have hcall : (relationalBackend core text).addForJob db m run.key.tenantId loop.finding
        (some run.key.jobId) = FindingLifecycle.addForJob core text db m run.key.tenantId loop.finding
          (some run.key.jobId) := rfl
    rw [hcall, FindingLifecycle.addForJob] at h
    cases hstore : FindingLifecycle.storeFinding core text db m run.key.tenantId loop.finding
        (some run.key.jobId) with
    | some stored =>
      rw [hstore] at h
      cases h
      exact .add hpc rfl hstore
    | none =>
      rw [hstore] at h
      cases h
      exact .leave rfl (.refl db)
  · cases h
    exact .leave rfl (.refl db)
  · rcases recordEvent_cases h with ⟨stored, happend, rfl⟩ | ⟨rfl, hover⟩
    · exact .record hpc rfl happend
    · exact .leave hover (.refl db')
  · next loop rules correlation pending =>
    have hcall : (relationalBackend core text).addCorrelation db m run.key.tenantId correlation =
        FindingLifecycle.addCorrelation db m run.key.tenantId correlation := rfl
    rw [hcall, FindingLifecycle.addCorrelation] at h
    cases hinsert : FindingLifecycle.insertCorrelation db m run.key.tenantId correlation with
    | some stored =>
      rw [hinsert] at h
      cases h
      exact .correlate hpc rfl hinsert
    | none =>
      rw [hinsert] at h
      cases h
      exact .leave rfl (.refl db)
  · cases h
    exact .leave rfl (.refl db)
  · split at h
    · next hrule =>
      cases h
      exact .evaluate hpc rfl hrule rfl
    · cases h
      exact .leave rfl (.refl db)
  · cases h
    exact .next hpc rfl rfl
  · rcases recordEvent_cases h with ⟨stored, happend, rfl⟩ | ⟨rfl, hover⟩
    · exact .recordCorrelation hpc rfl (SqlJobs.appendEvent_other happend (by decide))
    · exact .leave hover (.refl db')
  · cases h

/-- The `try` statement of one attempt, seen from the registry. -/
theorem tryStep_storing {run : Run} {attempt : ℕ} {db db' : Database} {m : Moment} {stage : Stage}
    {event : RunEvent} {pc : Pc} (hpc : run.pc = .trying attempt stage)
    (h : tryStep (relationalBackend core text) run.executor run.key attempt db m stage event =
      some (db', pc)) : run.Storing core text m db db' (run.goto pc) := by
  unfold tryStep at h
  cases hscan : scanStep (relationalBackend core text) run.executor run.key attempt db stage event with
  | some stage' =>
    rw [hscan] at h
    cases h
    obtain ⟨hbefore, hafter⟩ := scanStep_phase hscan
    have hphase : run.pc.phase = .before := by rw [hpc]; exact hbefore
    rcases hafter with hafter | ⟨found, rfl⟩
    · cases hstage : stage'.phase with
      | before => exact .outside hphase (.inl hstage) (.refl db)
      | storing => exact absurd hstage hafter
      | _ => exact .leave hstage (.refl db)
    · exact .outside hphase (.inr ⟨attempt, found, rfl⟩) (.refl db)
  | none =>
    rw [hscan, Option.map_none, Option.none_or, Option.or_eq_some_iff] at h
    rcases h with hstore | ⟨-, hhandler⟩
    · exact storeStep_storing hpc hstore
    · obtain ⟨hsame, hover | ⟨hbefore, hafter⟩⟩ := handlerStep_registry hhandler
      · exact .leave hover hsame
      · exact .outside (by rw [hpc]; exact hbefore) (.inl hafter) hsame

/-- A step of a run on a living worker, seen from the registry. -/
theorem Run.proceed_storing {run run' : Run} {db db' : Database} {m : Moment} {event : RunEvent}
    (h : run.proceed (relationalBackend core text) db m event = some (db', run')) :
    run.Storing core text m db db' run' := by
  unfold Run.proceed at h
  split at h
  · next hpc =>
    have hbefore : run.pc.phase = .before := by rw [hpc]; rfl
    split at h
    · cases h
      exact .leave rfl (.refl db)
    · split at h
      · cases h
        exact .leave rfl (.refl db)
      · split at h <;> cases h <;> exact .outside hbefore (.inl rfl) (.refl db)
  · cases h
    exact .leave rfl (.refl db)
  · cases h
    obtain ⟨hsame, hover⟩ := @endWith_registry core text _ _ _ _ _ _ _ _ rfl
    exact .leave hover hsame
  · next attempt hpc =>
    have hbefore : run.pc.phase = .before := by rw [hpc]; rfl
    split at h
    · cases h
      exact .leave rfl (.refl db)
    · split at h
      · split at h <;> cases h
        · exact .leave rfl (.refl db)
        · exact .outside hbefore (.inl rfl) (.refl db)
      · cases h
        exact .outside hbefore (.inl rfl) (.refl db)
  · cases h
    obtain ⟨hsame, hover⟩ := @endWith_registry core text _ _ _ _ _ _ _ _ rfl
    exact .leave hover hsame
  · next attempt payload hpc =>
    have hbefore : run.pc.phase = .before := by rw [hpc]; rfl
    have hsame := SqlJobs.markRunning_registry db m run.key (attempt = 1)
    have hcall : (relationalBackend core text).markRunning db m run.key (attempt = 1) =
        SqlJobs.markRunning db m run.key (attempt = 1) := rfl
    rw [hcall] at h
    split at h
    · next hclaim =>
      cases h
      rw [hclaim] at hsame
      exact .outside hbefore (.inl rfl) hsame
    · next hclaim =>
      cases h
      rw [hclaim] at hsame
      exact .leave rfl hsame
  · next attempt stage hpc =>
    obtain ⟨⟨db₁, pc⟩, htry, hgoto⟩ := Option.map_eq_some_iff.mp h
    cases hgoto
    exact tryStep_storing hpc htry
  · cases h

/-- Every step of a run is one of these. -/
theorem Run.storing_of_step {run run' : Run} {db db' : Database} {m : Moment} {event : RunEvent}
    (h : run.step (relationalBackend core text) db m event = some (db', run')) :
    run.Storing core text m db db' run' := by
  unfold Run.step at h
  split at h
  · split at h <;> cases h
    exact .leave rfl (.refl db)
  · exact Run.proceed_storing h

/-- A step of `create_scan` leaves the registry alone. -/
theorem ScanCall.step_registry {call : ScanCall} {db db' : Database} {m : Moment} {event : ScanEvent}
    {pc : ScanPc} {messages : List JobKey}
    (h : call.step (relationalBackend core text) db m event = some (db', pc, messages)) :
    SameRegistry db db' := by
  unfold ScanCall.step at h
  split at h
  · split at h
    · split at h
      · next hcreate =>
        cases h
        exact SqlJobs.create_registry hcreate
      · next hcreate =>
        cases h
        exact SqlJobs.create_registry hcreate
      · cases h
        exact .refl db
    · cases h
      exact SqlJobs.setDispatchId_registry _ _ _ _
    · split at h <;> cases h <;> exact .refl db
    · split at h
      · next htransition =>
        cases h
        exact SqlJobs.transition_registry htransition
      · cases h
        exact .refl db
    · cases h
  · next published result =>
    split at h
    · cases result with
      | ok dispatchId =>
        cases h
        exact .refl db
      | error message =>
        cases h
        exact .refl db
    · cases h

namespace System

/-- A step of the system is a step of one run, or leaves the registry alone and starts at most
one run. -/
theorem step_storing {products : List FindingSource} {s s' : System Database} {label : Label}
    (h : s.step (relationalBackend core text) products label = some s') :
    (∃ index event run run' before after, label.action = .run index event ∧
      s.runs = before ++ run :: after ∧ before.length = index ∧ s'.runs = before ++ run' :: after ∧
      run.step (relationalBackend core text) s.world label.moment event = some (s'.world, run')) ∨
    (SameRegistry s.world s'.world ∧
      (s'.runs = s.runs ∨ ∃ executor key, label.action = .deliver executor key ∧
        s'.runs = s.runs ++ [Run.fresh executor key])) := by
  unfold step at h
  split at h
  · cases h
    exact .inr ⟨.refl _, .inl rfl⟩
  · obtain ⟨call, -, h⟩ := Option.bind_eq_some_iff.mp h
    obtain ⟨⟨db, pc, messages⟩, hstep, h⟩ := Option.bind_eq_some_iff.mp h
    cases h
    exact .inr ⟨ScanCall.step_registry hstep, .inl rfl⟩
  · next executor key haction =>
    split at h <;> cases h
    exact .inr ⟨.refl _, .inr ⟨executor, key, haction, rfl⟩⟩
  · next index event haction =>
    obtain ⟨run, hrun, h⟩ := Option.bind_eq_some_iff.mp h
    obtain ⟨⟨db, run'⟩, hstep, h⟩ := Option.bind_eq_some_iff.mp h
    cases h
    obtain ⟨before, after, hruns, hset, hindex⟩ := exists_split_of_getElem? hrun run'
    exact .inl ⟨index, event, run, run', before, after, haction, hruns, hindex, hset, hstep⟩
  · split at h
    · next hcancel =>
      cases h
      exact .inr ⟨SqlJobs.requestCancel_registry hcancel, .inl rfl⟩
    · cases h
      exact .inr ⟨.refl _, .inl rfl⟩
  · obtain ⟨write, hwrite, -⟩ := Option.bind_eq_some_iff.mp h
    cases hwrite
  · obtain ⟨write, hwrite, -⟩ := Option.bind_eq_some_iff.mp h
    cases hwrite

end System

end Steps

end SharedIntegration

import SharedIntegration.Execution

/-!
# What a step of a run does to its job

Every step of `execute` reads one job and changes at most that job. `Run.Move` lists all
steps by what the run read and by what it wrote, with the work inside one attempt as a single
case; the invariants of jobs and runs are read off this list.
-/

namespace SharedIntegration

/-- The kinds of events a worker appends through `append_event`. -/
def workerKinds : List String := ["finding", "correlation", "retrying"]

/-- The attempt will be repeated once the retry event is stored and the back-off is over. -/
def Stage.retries : Stage → Bool
  | .retrying _ | .sleeping => true
  | _ => false

/-- What one step of a run does to the run and to the view of its job. -/
inductive Run.Move (now : Instant) (run : Run) (event : RunEvent) (v : JobView) :
    JobView → Run → Prop
  | crash (hevent : event = .crash) (hlive : run.live = true) : Move now run event v v (run.goto .dead)
  | skip (hpc : run.pc = .start) (hterminal : v.record.status.terminal = true) :
      Move now run event v v (run.goto (.done .returned))
  | abort (hpc : run.pc = .start) (hevent : event = .taskCancelled) :
      Move now run event v v (run.goto (.done .cancelledError))
  | accept (hpc : run.pc = .start) (hactive : v.record.status.terminal = false)
      (hsource : v.record.source ∈ run.executor.products) :
      Move now run event v v (run.admitted v.record.source)
  | reject (hpc : run.pc = .start) (hactive : v.record.status.terminal = false)
      (hsource : v.record.source ∉ run.executor.products) :
      Move now run event v v (run.goto (.unknownSource v.record.source))
  | failUnknown {source} (message : String) (hpc : run.pc = .unknownSource source)
      (hevent : event = .advance) :
      Move now run event v
        (v.transition now .failed none (some "UNKNOWN_SOURCE") (some message))
        (run.goto (.done .returned))
  | stopAtTop {attempt} (hpc : run.pc = .loopTop attempt) (hstatus : v.record.status = .cancelled) :
      Move now run event v v (run.goto (.done .returned))
  | cancelAtTop {attempt} (hpc : run.pc = .loopTop attempt) (hstatus : v.record.status ≠ .cancelled)
      (hrequested : v.record.cancelRequested = true) :
      Move now run event v v (run.goto (.cancelling attempt))
  | proceed {attempt} (hpc : run.pc = .loopTop attempt) (hstatus : v.record.status ≠ .cancelled)
      (hrequested : v.record.cancelRequested = false) :
      Move now run event v v (run.goto (.claiming attempt v.record.payload))
  | cancel {attempt} (hpc : run.pc = .cancelling attempt) (hevent : event = .advance) :
      Move now run event v (v.transition now .cancelled none none none) (run.goto (.done .returned))
  | claim {attempt payload} (hpc : run.pc = .claiming attempt payload)
      (hclaimable : JobView.claimable (attempt = 1) v.record = true) :
      Move now run event v (v.markRunning now) (run.claimed attempt payload)
  | refuse {attempt payload} (hpc : run.pc = .claiming attempt payload)
      (hclaimable : JobView.claimable (attempt = 1) v.record = false) :
      Move now run event v v (run.goto (.done .returned))
  | work {attempt stage} (stage' : Stage) {v' : JobView} (hpc : run.pc = .trying attempt stage)
      (hlog : v' = v ∨ ∃ kind ∈ workerKinds, ∃ payload, v' = v.append kind payload now)
      (hretry : stage'.retries = true → stage.retries = true ∨ attempt < run.executor.maxAttempts) :
      Move now run event v v' (run.goto (.trying attempt stage'))
  | finish {attempt stage} (status : JobStatus) (resultCount : Option ℕ)
      (errorCode errorMessage : Option String) (ending : Ending)
      (hpc : run.pc = .trying attempt stage) (hstatus : status.terminal = true)
      (hsuccess : status = .succeeded → ∃ count, stage = .succeeding count) :
      Move now run event v (v.transition now status resultCount errorCode errorMessage)
        (run.goto (.done ending))
  | findTerminal {attempt} (hpc : run.pc = .trying attempt .asyncCancelled)
      (hterminal : v.record.status.terminal = true) :
      Move now run event v v (run.goto (.done .cancelledError))
  | retry {attempt} (hpc : run.pc = .trying attempt .sleeping) :
      Move now run event v v (run.goto (.loopTop (attempt + 1)))
  | abandonRetry {attempt} (hpc : run.pc = .trying attempt .sleeping)
      (hevent : event = .taskCancelled) :
      Move now run event v v (run.goto (.done .cancelledError))
  | loseRetry {attempt code} (hpc : run.pc = .trying attempt (.retrying code))
      (hevent : event = .appendConflict) :
      Move now run event v v (run.goto (.done (.raised appendConflictMessage)))

variable {World : Type} {backend : Backend World}

/-- A view that is written back unchanged. -/
theorem view_unchanged {w : World} {key : JobKey} {v : JobView} (hv : backend.view w key = some v) :
    backend.view w = Function.update (backend.view w) key (some v) := by
  rw [← hv, Function.update_eq_self]

/-- `get` reads the record that the view shows. -/
theorem get_of_view {w : World} {key : JobKey} {v : JobView} (hv : backend.view w key = some v) :
    backend.get w key = some v.record := by
  rw [backend.get_eq, hv, Option.map_some]

/-- Only an attempt that is not the last one is repeated. -/
theorem afterScan_retries {executor : JobExecutor} {attempt : ℕ} {outcome : ScanOutcome}
    (h : (afterScan executor attempt outcome).retries = true) : attempt < executor.maxAttempts := by
  cases outcome with
  | productError error =>
    by_cases hretry : error.retryable && attempt < executor.maxAttempts
    · simp only [Bool.and_eq_true, decide_eq_true_eq] at hretry
      exact hretry.2
    · simp [afterScan, hretry, Stage.retries] at h
  | findings found => cases h
  | otherError message => cases h
  | cancelled => cases h

/-- The same after the scan was told to stop. -/
theorem afterStop_retries {executor : JobExecutor} {attempt : ℕ} {dropped : Stage}
    {outcome : ScanOutcome} (hdropped : dropped.retries = false)
    (h : (afterStop executor attempt dropped outcome).retries = true) :
    attempt < executor.maxAttempts := by
  cases outcome with
  | findings found => simp [afterStop, hdropped] at h
  | cancelled => simp [afterStop, hdropped] at h
  | productError error =>
    change (afterScan executor attempt (.productError error)).retries = true at h
    exact afterScan_retries h
  | otherError message => cases h

/-- Waiting for the scan only leads to a retry when an attempt is left. -/
theorem scanStep_retries {executor : JobExecutor} {key : JobKey} {attempt : ℕ} {w : World}
    {stage stage' : Stage} {event : RunEvent}
    (h : scanStep backend executor key attempt w stage event = some stage')
    (hretry : stage'.retries = true) : attempt < executor.maxAttempts := by
  unfold scanStep at h
  split at h <;> (try split at h) <;> (try split at h) <;> cases h
  all_goals first
    | exact afterScan_retries hretry
    | exact afterStop_retries rfl hretry
    | cases hretry

/-- Recording an event stays in the attempt and at most extends the log. -/
theorem recordEvent_work {key : JobKey} {attempt : ℕ} {w w' : World} {m : Moment} {kind : String}
    {payload : Document} {next : Stage} {event : RunEvent} {pc' : Pc} {v : JobView}
    (hv : backend.view w key = some v) (hkind : kind ∈ workerKinds) (hnext : next.retries = false)
    (h : recordEvent backend key attempt w m kind payload next event = some (w', pc')) :
    ∃ stage' v', pc' = .trying attempt stage' ∧ stage'.retries = false ∧
      backend.view w' = Function.update (backend.view w) key (some v') ∧
      (v' = v ∨ ∃ kind ∈ workerKinds, ∃ payload, v' = v.append kind payload m.now) := by
  unfold recordEvent at h
  split at h
  · obtain ⟨w₁, appended, happend, hview⟩ := backend.appendEvent_ok m kind payload hv
    rw [happend] at h
    cases h
    exact ⟨next, _, rfl, hnext, hview, .inr ⟨kind, hkind, payload, rfl⟩⟩
  · split at h
    · cases h
      exact ⟨_, v, rfl, rfl, view_unchanged hv, .inl rfl⟩
    · cases h
  · cases h
    exact ⟨_, v, rfl, rfl, view_unchanged hv, .inl rfl⟩
  · cases h

/-- Storing results stays in the attempt and at most extends the log. -/
theorem storeStep_work {executor : JobExecutor} {key : JobKey} {attempt : ℕ} {w w' : World}
    {m : Moment} {stage : Stage} {event : RunEvent} {pc' : Pc} {v : JobView}
    (hv : backend.view w key = some v)
    (h : storeStep backend executor key attempt w m stage event = some (w', pc')) :
    ∃ stage' v', pc' = .trying attempt stage' ∧ stage'.retries = false ∧
      backend.view w' = Function.update (backend.view w) key (some v') ∧
      (v' = v ∨ ∃ kind ∈ workerKinds, ∃ payload, v' = v.append kind payload m.now) := by
  have hnext : ∀ existing count rest, (storeNext existing count rest).retries = false := by
    intro existing count rest
    cases rest <;> rfl
  have hquiet : ∀ {w₁ stage₁}, backend.view w₁ = backend.view w → Stage.retries stage₁ = false →
      some (w₁, Pc.trying attempt stage₁) = some (w', pc') →
      ∃ stage' v', pc' = .trying attempt stage' ∧ stage'.retries = false ∧
        backend.view w' = Function.update (backend.view w) key (some v') ∧
        (v' = v ∨ ∃ kind ∈ workerKinds, ∃ payload, v' = v.append kind payload m.now) := by
    intro w₁ stage₁ hview hretries hsome
    cases hsome
    exact ⟨stage₁, v, rfl, hretries, hview.trans (view_unchanged hv), .inl rfl⟩
  unfold storeStep at h
  split at h
  · split at h
    · exact hquiet rfl (hnext _ _ _) h
    · exact hquiet rfl rfl h
  · next loop =>
    have hadd := backend.addForJob_view w m key.tenantId loop.finding (some key.jobId)
    split at h
    · next hcall => exact hquiet (by rw [hcall] at hadd; exact hadd) rfl h
    · next hcall => exact hquiet (by rw [hcall] at hadd; exact hadd) rfl h
  · exact hquiet rfl rfl h
  · exact recordEvent_work hv (by simp [workerKinds]) rfl h
  · next loop rules correlation pending =>
    have hadd := backend.addCorrelation_view w m key.tenantId correlation
    split at h
    · next hcall => exact hquiet (by rw [hcall] at hadd; exact hadd) rfl h
    · next hcall => exact hquiet (by rw [hcall] at hadd; exact hadd) rfl h
  · exact hquiet rfl rfl h
  · split at h
    · exact hquiet rfl rfl h
    · exact hquiet rfl rfl h
  · exact hquiet rfl (hnext _ _ _) h
  · exact recordEvent_work hv (by simp [workerKinds]) rfl h
  · cases h

/-- Writing a status for a stored job ends the run normally. -/
theorem endWith_eq {key : JobKey} {w : World} {v : JobView} (m : Moment) (status : JobStatus)
    (errorCode errorMessage : Option String) (hv : backend.view w key = some v) :
    ∃ w', endWith backend key w m status errorCode errorMessage = (w', .done .returned) ∧
      backend.view w' = Function.update (backend.view w) key
        (some (v.transition m.now status none errorCode errorMessage)) := by
  obtain ⟨w', htransition, hview⟩ := backend.transition_ok m status none errorCode errorMessage hv
  refine ⟨w', ?_, hview⟩
  rw [endWith, htransition]

/-- The end of an attempt. -/
theorem handlerStep_move {run : Run} {attempt : ℕ} {w w' : World} {m : Moment} {stage : Stage}
    {event : RunEvent} {pc' : Pc} {v : JobView} (hpc : run.pc = .trying attempt stage)
    (hv : backend.view w run.key = some v)
    (h : handlerStep backend run.key attempt w m stage event = some (w', pc')) :
    ∃ v', backend.view w' = Function.update (backend.view w) run.key (some v') ∧
      run.Move m.now event v v' (run.goto pc') := by
  have hsame := view_unchanged hv
  unfold handlerStep at h
  split at h
  · next count =>
    obtain ⟨w₁, htransition, hview⟩ := backend.transition_ok m .succeeded (some count) none none hv
    rw [htransition] at h
    cases h
    exact ⟨_, hview, .finish _ _ _ _ _ hpc rfl fun _ => ⟨count, rfl⟩⟩
  · obtain ⟨w₁, hend, hview⟩ := endWith_eq m .cancelled none none hv
    rw [hend] at h
    cases h
    exact ⟨_, hview, .finish _ _ _ _ _ hpc rfl fun h => nomatch h⟩
  · rw [get_of_view hv] at h
    dsimp only at h
    split at h
    · next hterminal =>
      cases h
      exact ⟨v, hsame, .findTerminal hpc hterminal⟩
    · cases h
      exact ⟨v, hsame, .work _ hpc (.inl rfl) (by simp [Stage.retries])⟩
  · obtain ⟨w₁, htransition, hview⟩ := backend.transition_ok m .cancelled none none none hv
    rw [htransition] at h
    cases h
    exact ⟨_, hview, .finish _ _ _ _ _ hpc rfl fun h => nomatch h⟩
  · next code =>
    obtain ⟨w₁, appended, happend, hview⟩ := backend.appendEvent_ok m "retrying" (retryPayload attempt code)
      hv
    rw [happend] at h
    cases h
    exact ⟨_, hview, .work _ hpc (.inr ⟨_, by simp [workerKinds], _, rfl⟩) fun _ => .inl rfl⟩
  · split at h
    · cases h
      exact ⟨v, hsame, .loseRetry hpc rfl⟩
    · cases h
  · cases h
    exact ⟨v, hsame, .retry hpc⟩
  · cases h
    exact ⟨v, hsame, .abandonRetry hpc rfl⟩
  · next timeout code message =>
    obtain ⟨w₁, hend, hview⟩ := endWith_eq m (if timeout then .timedOut else .failed) (some code)
      (some message) hv
    rw [hend] at h
    cases h
    refine ⟨_, hview, .finish _ _ _ _ _ hpc (by cases timeout <;> rfl) fun hsuccess => ?_⟩
    cases timeout <;> cases hsuccess
  · cases h

/-- The `try` statement of one attempt. -/
theorem tryStep_move {run : Run} {attempt : ℕ} {w w' : World} {m : Moment} {stage : Stage}
    {event : RunEvent} {pc' : Pc} {v : JobView} (hpc : run.pc = .trying attempt stage)
    (hv : backend.view w run.key = some v)
    (h : tryStep backend run.executor run.key attempt w m stage event = some (w', pc')) :
    ∃ v', backend.view w' = Function.update (backend.view w) run.key (some v') ∧
      run.Move m.now event v v' (run.goto pc') := by
  unfold tryStep at h
  cases hscan : scanStep backend run.executor run.key attempt w stage event with
  | some stage' =>
    rw [hscan] at h
    cases h
    exact ⟨v, view_unchanged hv, .work _ hpc (.inl rfl) fun hretry =>
      .inr (scanStep_retries hscan hretry)⟩
  | none =>
    rw [hscan, Option.map_none, Option.none_or] at h
    cases hstore : storeStep backend run.executor run.key attempt w m stage event with
    | some stored =>
      rw [hstore] at h
      cases h
      obtain ⟨stage', v', rfl, hretries, hview, hlog⟩ := storeStep_work hv hstore
      exact ⟨v', hview, .work _ hpc hlog (by simp [hretries])⟩
    | none =>
      rw [hstore, Option.none_or] at h
      exact handlerStep_move hpc hv h

/-- What a run whose worker stays alive does to a stored job. -/
theorem Run.proceed_move {run run' : Run} {w w' : World} {m : Moment} {event : RunEvent}
    {v : JobView} (hv : backend.view w run.key = some v)
    (h : run.proceed backend w m event = some (w', run')) :
    ∃ v', backend.view w' = Function.update (backend.view w) run.key (some v') ∧
      run.Move m.now event v v' run' := by
  have hsame := view_unchanged hv
  have hget := get_of_view hv
  unfold Run.proceed at h
  split at h
  · next hpc =>
    rw [hget] at h
    dsimp only at h
    split at h
    · next hterminal =>
      cases h
      exact ⟨v, hsame, .skip hpc hterminal⟩
    · next hactive =>
      rw [Bool.not_eq_true] at hactive
      split at h
      · next hsource =>
        cases h
        exact ⟨v, hsame, .accept hpc hactive hsource⟩
      · next hsource =>
        cases h
        exact ⟨v, hsame, .reject hpc hactive hsource⟩
  · next hpc =>
    cases h
    exact ⟨v, hsame, .abort hpc rfl⟩
  · next source hpc =>
    obtain ⟨w₁, hend, hview⟩ := endWith_eq m .failed (some "UNKNOWN_SOURCE")
      (some ("No adapter registered for " ++ backend.core.sourceValue source)) hv
    rw [hend] at h
    cases h
    exact ⟨_, hview, .failUnknown _ hpc rfl⟩
  · next attempt hpc =>
    rw [hget] at h
    dsimp only at h
    split at h
    · next hstop =>
      split at h
      · next hstatus =>
        cases h
        exact ⟨v, hsame, .stopAtTop hpc hstatus⟩
      · next hstatus =>
        cases h
        exact ⟨v, hsame, .cancelAtTop hpc hstatus (hstop.resolve_right hstatus)⟩
    · next hgo =>
      rw [not_or, Bool.not_eq_true] at hgo
      cases h
      exact ⟨v, hsame, .proceed hpc hgo.2 hgo.1⟩
  · next attempt hpc =>
    obtain ⟨w₁, hend, hview⟩ := endWith_eq m .cancelled none none hv
    rw [hend] at h
    cases h
    exact ⟨_, hview, .cancel hpc rfl⟩
  · next attempt payload hpc =>
    obtain ⟨hclaimable, w₁, hclaim, hview⟩ | ⟨hclaimable, hrefused⟩ :=
      backend.markRunning_cases m (attempt = 1) hv
    · rw [hclaim] at h
      cases h
      exact ⟨_, hview, .claim hpc hclaimable⟩
    · rw [hrefused] at h
      cases h
      exact ⟨v, hsame, .refuse hpc hclaimable⟩
  · next attempt stage hpc =>
    obtain ⟨⟨w₁, pc'⟩, htry, hgoto⟩ := Option.map_eq_some_iff.mp h
    cases hgoto
    exact tryStep_move hpc hv htry
  · cases h

/-- A step never changes the arguments of the call. -/
theorem Run.step_arguments {run run' : Run} {w w' : World} {m : Moment} {event : RunEvent}
    (h : run.step backend w m event = some (w', run')) :
    run'.key = run.key ∧ run'.executor = run.executor := by
  unfold Run.step Run.proceed at h
  split at h
  · split at h <;> cases h
    exact ⟨rfl, rfl⟩
  · split at h
    · split at h
      · cases h
        exact ⟨rfl, rfl⟩
      · split at h
        · cases h
          exact ⟨rfl, rfl⟩
        · split at h <;> cases h <;> exact ⟨rfl, rfl⟩
    · cases h
      exact ⟨rfl, rfl⟩
    · cases h
      exact ⟨rfl, rfl⟩
    · split at h
      · cases h
        exact ⟨rfl, rfl⟩
      · split at h
        · split at h <;> cases h <;> exact ⟨rfl, rfl⟩
        · cases h
          exact ⟨rfl, rfl⟩
    · cases h
      exact ⟨rfl, rfl⟩
    · split at h <;> cases h <;> exact ⟨rfl, rfl⟩
    · obtain ⟨stepped, -, hgoto⟩ := Option.map_eq_some_iff.mp h
      cases hgoto
      exact ⟨rfl, rfl⟩
    · cases h

/-- Every step of a run on a stored job is one of the moves, and touches no other job. -/
theorem Run.step_move {run run' : Run} {w w' : World} {m : Moment} {event : RunEvent} {v : JobView}
    (hv : backend.view w run.key = some v) (h : run.step backend w m event = some (w', run')) :
    ∃ v', backend.view w' = Function.update (backend.view w) run.key (some v') ∧
      run.Move m.now event v v' run' := by
  unfold Run.step at h
  split at h
  · split at h
    · next hlive =>
      cases h
      exact ⟨v, view_unchanged hv, .crash rfl hlive⟩
    · cases h
  · exact Run.proceed_move hv h

/-- A move never changes the arguments of the call. -/
theorem Run.Move.arguments {now : Instant} {run run' : Run} {event : RunEvent} {v v' : JobView}
    (h : run.Move now event v v' run') : run'.key = run.key ∧ run'.executor = run.executor := by
  cases h <;> exact ⟨rfl, rfl⟩

/-- Apart from a claim, a move changes neither the counters of the run nor the attempt of the
job, and puts no job into the queue. -/
theorem Run.Move.claim_or_same {now : Instant} {run run' : Run} {event : RunEvent} {v v' : JobView}
    (h : run.Move now event v v' run') :
    (∃ attempt payload, run.pc = .claiming attempt payload ∧
      JobView.claimable (attempt = 1) v.record = true ∧ run' = run.claimed attempt payload ∧
      v' = v.markRunning now) ∨
    (run'.claims = run.claims ∧ run'.queuedClaims = run.queuedClaims ∧
      v'.record.attempt = v.record.attempt ∧
      (v'.record.status = .queued → v.record.status = .queued)) := by
  cases h with
  | claim hpc hclaimable => exact .inl ⟨_, _, hpc, hclaimable, rfl, rfl⟩
  | work stage' hpc hlog =>
    rcases hlog with rfl | ⟨kind, -, payload, rfl⟩ <;> exact .inr ⟨rfl, rfl, rfl, id⟩
  | finish status resultCount errorCode errorMessage ending hpc hstatus hsuccess =>
    refine .inr ⟨rfl, rfl, rfl, fun hqueued => ?_⟩
    change status = .queued at hqueued
    rw [hqueued] at hstatus
    cases hstatus
  | failUnknown | cancel => exact .inr ⟨rfl, rfl, rfl, fun hqueued => nomatch hqueued⟩
  | _ => exact .inr ⟨rfl, rfl, rfl, id⟩

end SharedIntegration

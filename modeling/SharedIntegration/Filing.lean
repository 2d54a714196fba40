import SharedIntegration.Storing

/-!
# What a run does with the outcome of a scan

A scan hands its findings over at one place only: the poll after it has settled, in a job whose
cancellation flag is not set. From there the store loop alternates between a registry call and
a finding event. The steps of a run are listed by how far they carry the outcome, together with
the calls they make outside the job repository and the finding events they append.
-/

namespace SharedIntegration

open Transition

/-- A call that leaves the job repository: the end of a scan, or a call of the registry with the
bound tenant and the job id of its run. -/
inductive Effect
  | scanned (key : JobKey) (outcome : ScanOutcome)
  | added (key : JobKey) (finding : Finding)
  | correlated (key : JobKey) (correlation : Correlation)

namespace Effect

/-- The outcome of a scan of the job. -/
def outcomeOf (key : JobKey) : Effect → Option ScanOutcome
  | .scanned other outcome => if other = key then some outcome else none
  | _ => none

/-- The finding handed to `add_for_job` for the job. -/
def findingOf (key : JobKey) : Effect → Option Finding
  | .added other finding => if other = key then some finding else none
  | _ => none

/-- The correlation handed to `add_correlation` for the job. -/
def correlationOf (key : JobKey) : Effect → Option Correlation
  | .correlated other correlation => if other = key then some correlation else none
  | _ => none

end Effect

/-- The calls a step of a run makes outside the job repository. -/
def Run.effects (run : Run) (event : RunEvent) : List Effect :=
  match run.pc, event with
  | .trying _ .waiting, .scanSettles outcome => [.scanned run.key outcome]
  | .trying _ .stopping, .scanStops outcome => [.scanned run.key outcome]
  | .trying _ .abandoning, .scanStops outcome => [.scanned run.key outcome]
  | .trying _ (.adding loop), .advance => [.added run.key loop.finding]
  | .trying _ (.correlating _ _ (correlation :: _)), .advance => [.correlated run.key correlation]
  | _, _ => []

/-- The calls a step of the system makes outside the job repository. -/
def System.effects {World : Type} (s : System World) (label : Label) : List Effect :=
  match label.action with
  | .run index event => (s.runs[index]?.map fun run => run.effects event).getD []
  | _ => []

/-- The payloads of the finding events of a job, in the order of the log. -/
def JobView.filed (view : JobView) : List Document :=
  (view.log.filter fun event => event.kind = "finding").map JobEvent.payload

namespace JobView

variable (v : JobView)

/-- Only an event of this kind files a finding. -/
@[simp] theorem filed_append (kind : String) (payload : Document) (now : Instant) :
    (v.append kind payload now).filed = v.filed ++ if kind = "finding" then [payload] else [] := by
  by_cases hkind : kind = "finding" <;> simp [filed, hkind]

@[simp] theorem filed_markRunning (now : Instant) : (v.markRunning now).filed = v.filed := by
  unfold markRunning
  rw [filed_append, if_neg (by decide), List.append_nil]
  rfl

@[simp] theorem filed_transition (now : Instant) (status : JobStatus) (resultCount : Option ℕ)
    (errorCode errorMessage : Option String) :
    (v.transition now status resultCount errorCode errorMessage).filed = v.filed := by
  unfold transition
  rw [filed_append, if_neg (by decide), List.append_nil]
  rfl

@[simp] theorem filed_writeCancel (now : Instant) (current : JobStatus) :
    (v.writeCancel now current).filed = v.filed := by
  unfold writeCancel
  rw [filed_append, if_neg (by decide), List.append_nil]
  rfl

@[simp] theorem filed_requestCancel (now : Instant) : (v.requestCancel now).filed = v.filed := by
  unfold requestCancel
  split
  · rfl
  · exact filed_writeCancel v now _

@[simp] theorem filed_setDispatchId (now : Instant) (dispatchId : String) :
    (v.setDispatchId now dispatchId).filed = v.filed := rfl

@[simp] theorem filed_created (key : JobKey) (source : FindingSource) (payload : Document)
    (idempotencyKey : Option String) (now : Instant) :
    (created key source payload idempotencyKey now).filed = [] := by
  unfold created
  rw [filed_append, if_neg (by decide), List.append_nil]
  rfl

end JobView

/-- The outcome of a scan that has settled and whose flag has not been polled since. -/
def Stage.settled : Stage → Option ScanOutcome
  | .polling settled => settled
  | _ => none

/-- The same for a position. -/
def Pc.settled : Pc → Option ScanOutcome
  | .trying _ stage => stage.settled
  | _ => none

/-- How far a step of a run carries the outcome of its scan, with the finding events it
appends. -/
inductive Run.Filing (core : CoreLibrary) (run : Run) (event : RunEvent) (v : JobView) (run' : Run) :
    List Document → Prop
  | outside (hbefore : run.pc.phase = .before) (hafter : run'.pc.phase = .before)
      (hsettled : run'.pc.settled = none) : Filing core run event v run' []
  | settle {attempt outcome} (hpc : run.pc = .trying attempt .waiting)
      (hevent : event = .scanSettles outcome)
      (hpc' : run'.pc = .trying attempt (.polling (some outcome))) : Filing core run event v run' []
  | accept {attempt found} (hpc : run.pc = .trying attempt (.polling (some (.findings found))))
      (hevent : event = .advance) (hflag : v.record.cancelRequested = false)
      (hpc' : run'.pc = .trying attempt (.storing found)) : Filing core run event v run' []
  | leave (hover : run'.pc.phase = .over) : Filing core run event v run' []
  | load {attempt found existing} (hpc : run.pc = .trying attempt (.storing found))
      (hpc' : run'.pc = .trying attempt (storeNext existing found.length found)) :
      Filing core run event v run' []
  | add {attempt loop} (hpc : run.pc = .trying attempt (.adding loop)) (hevent : event = .advance)
      (hpc' : run'.pc = .trying attempt (.recording loop)) : Filing core run event v run' []
  | record {attempt loop} (hpc : run.pc = .trying attempt (.recording loop))
      (hpc' : run'.pc = .trying attempt (.correlating loop run.executor.correlations [])) :
      Filing core run event v run' [core.toDict loop.finding]
  | evaluate {attempt loop rules rules' pending} (hpc : run.pc = .trying attempt (.correlating loop rules []))
      (hpc' : run'.pc = .trying attempt (.correlating loop rules' pending)) :
      Filing core run event v run' []
  | correlate {attempt loop rules correlation pending}
      (hpc : run.pc = .trying attempt (.correlating loop rules (correlation :: pending)))
      (hevent : event = .advance)
      (hpc' : run'.pc = .trying attempt (.recordingCorrelation loop rules correlation pending)) :
      Filing core run event v run' []
  | recordCorrelation {attempt loop rules correlation pending}
      (hpc : run.pc = .trying attempt (.recordingCorrelation loop rules correlation pending))
      (hpc' : run'.pc = .trying attempt (.correlating loop rules pending)) :
      Filing core run event v run' []
  | next {attempt loop} (hpc : run.pc = .trying attempt (.correlating loop [] []))
      (hpc' : run'.pc = .trying attempt
        (storeNext (loop.existing ++ [loop.finding]) loop.count loop.rest)) :
      Filing core run event v run' []

variable {World : Type} {backend : Backend World}

/-- What a settled or stopped scan leads to: its findings, another attempt, or the end. -/
theorem afterScan_cases (executor : JobExecutor) (attempt : ℕ) (outcome : ScanOutcome) :
    (∃ found, outcome = .findings found ∧ afterScan executor attempt outcome = .storing found) ∨
      (afterScan executor attempt outcome).phase = .over ∨
      ((afterScan executor attempt outcome).phase = .before ∧
        (afterScan executor attempt outcome).settled = none) := by
  cases outcome with
  | findings found => exact .inl ⟨found, rfl, rfl⟩
  | productError error =>
    unfold afterScan
    dsimp only
    split
    · exact .inr (.inr ⟨rfl, rfl⟩)
    · exact .inr (.inl rfl)
  | otherError message => exact .inr (.inl rfl)
  | cancelled => exact .inr (.inl rfl)

/-- A scan that was told to stop has no findings. -/
theorem afterStop_cases (executor : JobExecutor) (attempt : ℕ) {dropped : Stage}
    (hdropped : dropped.phase = .over) (outcome : ScanOutcome) :
    (afterStop executor attempt dropped outcome).phase = .over ∨
      ((afterStop executor attempt dropped outcome).phase = .before ∧
        (afterStop executor attempt dropped outcome).settled = none) := by
  cases outcome with
  | findings found => exact .inl hdropped
  | cancelled => exact .inl hdropped
  | productError error =>
    rcases afterScan_cases executor attempt (.productError error) with ⟨found, hfound, -⟩ | hcases
    · cases hfound
    · exact hcases
  | otherError message => exact .inl rfl

/-- A stage that is neither storing nor polling after a settled scan. -/
theorem Run.Filing.of_stage {core : CoreLibrary} {run : Run} {event : RunEvent} {v : JobView}
    {attempt : ℕ} {stage : Stage} (hbefore : run.pc.phase = .before)
    (h : stage.phase = .over ∨ (stage.phase = .before ∧ stage.settled = none)) :
    run.Filing core event v (run.goto (.trying attempt stage)) [] := by
  rcases h with hover | ⟨hafter, hsettled⟩
  · exact .leave hover
  · exact .outside hbefore hafter hsettled

/-- `_scan_with_cancellation`, step by step. -/
theorem scanStep_filing {core : CoreLibrary} {run : Run} {attempt : ℕ} {w : World} {stage stage' : Stage}
    {event : RunEvent} {v : JobView} (hpc : run.pc = .trying attempt stage)
    (hv : backend.view w run.key = some v)
    (h : scanStep backend run.executor run.key attempt w stage event = some stage') :
    run.Filing core event v (run.goto (.trying attempt stage')) [] := by
  have hbefore : run.pc.phase = .before := by
    rw [hpc]
    exact (scanStep_phase h).1
  unfold scanStep at h
  rw [get_of_view hv] at h
  split at h
  · cases h
    exact .outside hbefore rfl rfl
  · cases h
    exact .settle hpc rfl rfl
  · cases h
    exact .outside hbefore rfl rfl
  · next settled =>
    cases settled with
    | none =>
      dsimp only at h
      split at h <;> cases h <;> exact .outside hbefore rfl rfl
    | some outcome =>
      dsimp only at h
      split at h
      · cases h
        exact .of_stage hbefore (afterStop_cases _ _ rfl _)
      · next hflag =>
        cases h
        rcases afterScan_cases run.executor attempt outcome with ⟨found, rfl, hstoring⟩ | hcases
        · rw [hstoring]
          exact .accept hpc rfl (Bool.not_eq_true _ ▸ hflag) rfl
        · exact .of_stage hbefore hcases
  · cases h
    exact .of_stage hbefore (afterStop_cases _ _ rfl _)
  · cases h
    exact .leave rfl
  · cases h
    exact .of_stage hbefore (afterStop_cases _ _ rfl _)
  · cases h
    exact .leave rfl
  · cases h

/-- A step of a run on a stored job: one of the cases above, with the job as it leaves it. -/
def Run.Files (backend : Backend World) (run : Run) (event : RunEvent) (v : JobView) (w w' : World)
    (run' : Run) : Prop :=
  ∃ appended v', run.Filing backend.core event v run' appended ∧
    backend.view w' = Function.update (backend.view w) run.key (some v') ∧
    v'.filed = v.filed ++ appended

/-- A step that leaves all jobs alone. -/
theorem Run.Files.quiet {run run' : Run} {event : RunEvent} {v : JobView} {w w' : World}
    (hv : backend.view w run.key = some v) (hview : backend.view w' = backend.view w)
    (h : run.Filing backend.core event v run' []) : run.Files backend event v w w' run' :=
  ⟨[], v, h, hview.trans (view_unchanged hv), by simp⟩

/-- Recording an event appends it, or ends the attempt. -/
theorem recordEvent_files {run : Run} {attempt : ℕ} {w w' : World} {m : Moment} {kind : String}
    {payload : Document} {next : Stage} {event : RunEvent} {pc' : Pc} {v : JobView}
    (hv : backend.view w run.key = some v)
    (hnext : run.Filing backend.core event v (run.goto (.trying attempt next))
      (if kind = "finding" then [payload] else []))
    (h : recordEvent backend run.key attempt w m kind payload next event = some (w', pc')) :
    run.Files backend event v w w' (run.goto pc') := by
  unfold recordEvent at h
  split at h
  · obtain ⟨w₁, appended, happend, hview⟩ := backend.appendEvent_ok m kind payload hv
    rw [happend] at h
    cases h
    exact ⟨_, _, hnext, hview, by simp⟩
  · split at h
    · cases h
      exact .quiet hv rfl (.leave rfl)
    · cases h
  · cases h
    exact .quiet hv rfl (.leave rfl)
  · cases h

/-- `_store_results`, step by step. -/
theorem storeStep_files {run : Run} {attempt : ℕ} {w w' : World} {m : Moment} {stage : Stage}
    {event : RunEvent} {pc' : Pc} {v : JobView} (hpc : run.pc = .trying attempt stage)
    (hv : backend.view w run.key = some v)
    (h : storeStep backend run.executor run.key attempt w m stage event = some (w', pc')) :
    run.Files backend event v w w' (run.goto pc') := by
  unfold storeStep at h
  split at h
  · split at h <;> cases h
    · exact .quiet hv rfl (.load hpc rfl)
    · exact .quiet hv rfl (.leave rfl)
  · next loop =>
    have hadd := backend.addForJob_view w m run.key.tenantId loop.finding (some run.key.jobId)
    split at h
    · next hcall =>
      cases h
      rw [hcall] at hadd
      exact .quiet hv hadd (.add hpc rfl rfl)
    · next hcall =>
      cases h
      rw [hcall] at hadd
      exact .quiet hv hadd (.leave rfl)
  · cases h
    exact .quiet hv rfl (.leave rfl)
  · exact recordEvent_files hv (.record hpc rfl) h
  · next loop rules correlation pending =>
    have hadd := backend.addCorrelation_view w m run.key.tenantId correlation
    split at h
    · next hcall =>
      cases h
      rw [hcall] at hadd
      exact .quiet hv hadd (.correlate hpc rfl rfl)
    · next hcall =>
      cases h
      rw [hcall] at hadd
      exact .quiet hv hadd (.leave rfl)
  · cases h
    exact .quiet hv rfl (.leave rfl)
  · split at h <;> cases h
    · exact .quiet hv rfl (.evaluate hpc rfl)
    · exact .quiet hv rfl (.leave rfl)
  · cases h
    exact .quiet hv rfl (.next hpc rfl)
  · exact recordEvent_files hv (.recordCorrelation hpc rfl) h
  · cases h

/-- Writing a status ends the run. -/
theorem endWith_files {run : Run} {w w' : World} {m : Moment} {status : JobStatus}
    {errorCode errorMessage : Option String} {event : RunEvent} {pc' : Pc} {v : JobView}
    (hv : backend.view w run.key = some v)
    (h : endWith backend run.key w m status errorCode errorMessage = (w', pc')) :
    run.Files backend event v w w' (run.goto pc') := by
  obtain ⟨w₁, hend, hview⟩ := endWith_eq m status errorCode errorMessage hv
  rw [hend] at h
  cases h
  exact ⟨[], _, .leave rfl, hview, by simp⟩

/-- The end of an attempt. -/
theorem handlerStep_files {run : Run} {attempt : ℕ} {w w' : World} {m : Moment} {stage : Stage}
    {event : RunEvent} {pc' : Pc} {v : JobView} (hpc : run.pc = .trying attempt stage)
    (hv : backend.view w run.key = some v)
    (h : handlerStep backend run.key attempt w m stage event = some (w', pc')) :
    run.Files backend event v w w' (run.goto pc') := by
  have hphase : run.pc.phase = stage.phase := by rw [hpc]; rfl
  unfold handlerStep at h
  split at h
  · next count =>
    obtain ⟨w₁, htransition, hview⟩ := backend.transition_ok m .succeeded (some count) none none hv
    rw [htransition] at h
    cases h
    exact ⟨[], _, .leave rfl, hview, by simp⟩
  · exact endWith_files hv (Option.some.inj h)
  · split at h
    · split at h <;> cases h <;> exact .quiet hv rfl (.leave rfl)
    · cases h
      exact .quiet hv rfl (.leave rfl)
  · obtain ⟨w₁, htransition, hview⟩ := backend.transition_ok m .cancelled none none none hv
    rw [htransition] at h
    cases h
    exact ⟨[], _, .leave rfl, hview, by simp⟩
  · next code =>
    obtain ⟨w₁, appended, happend, hview⟩ := backend.appendEvent_ok m "retrying" (retryPayload attempt code)
      hv
    rw [happend] at h
    cases h
    exact ⟨[], _, .outside hphase rfl rfl, hview, by simp⟩
  · split at h <;> cases h
    exact .quiet hv rfl (.leave rfl)
  · cases h
    exact .quiet hv rfl (.outside hphase rfl rfl)
  · cases h
    exact .quiet hv rfl (.leave rfl)
  · exact endWith_files hv (Option.some.inj h)
  · cases h

/-- The `try` statement of one attempt. -/
theorem tryStep_files {run : Run} {attempt : ℕ} {w w' : World} {m : Moment} {stage : Stage}
    {event : RunEvent} {pc' : Pc} {v : JobView} (hpc : run.pc = .trying attempt stage)
    (hv : backend.view w run.key = some v)
    (h : tryStep backend run.executor run.key attempt w m stage event = some (w', pc')) :
    run.Files backend event v w w' (run.goto pc') := by
  unfold tryStep at h
  cases hscan : scanStep backend run.executor run.key attempt w stage event with
  | some stage' =>
    rw [hscan] at h
    cases h
    exact .quiet hv rfl (scanStep_filing hpc hv hscan)
  | none =>
    rw [hscan, Option.map_none, Option.none_or, Option.or_eq_some_iff] at h
    rcases h with hstore | ⟨-, hhandler⟩
    · exact storeStep_files hpc hv hstore
    · exact handlerStep_files hpc hv hhandler

/-- A step of a run on a living worker. -/
theorem Run.proceed_files {run run' : Run} {w w' : World} {m : Moment} {event : RunEvent} {v : JobView}
    (hv : backend.view w run.key = some v) (h : run.proceed backend w m event = some (w', run')) :
    run.Files backend event v w w' run' := by
  unfold Run.proceed at h
  rw [get_of_view hv] at h
  split at h
  · next hpc =>
    have hbefore : run.pc.phase = .before := by rw [hpc]; rfl
    dsimp only at h
    split at h
    · cases h
      exact .quiet hv rfl (.leave rfl)
    · split at h <;> cases h <;> exact .quiet hv rfl (.outside hbefore rfl rfl)
  · cases h
    exact .quiet hv rfl (.leave rfl)
  · cases h
    exact endWith_files hv rfl
  · next attempt hpc =>
    have hbefore : run.pc.phase = .before := by rw [hpc]; rfl
    dsimp only at h
    split at h
    · split at h <;> cases h
      · exact .quiet hv rfl (.leave rfl)
      · exact .quiet hv rfl (.outside hbefore rfl rfl)
    · cases h
      exact .quiet hv rfl (.outside hbefore rfl rfl)
  · cases h
    exact endWith_files hv rfl
  · next attempt payload hpc =>
    have hbefore : run.pc.phase = .before := by rw [hpc]; rfl
    obtain ⟨-, w₁, hclaim, hview⟩ | ⟨-, hrefused⟩ := backend.markRunning_cases m (attempt = 1) hv
    · rw [hclaim] at h
      cases h
      exact ⟨[], _, .outside hbefore rfl rfl, hview, by simp⟩
    · rw [hrefused] at h
      cases h
      exact .quiet hv rfl (.leave rfl)
  · next attempt stage hpc =>
    obtain ⟨⟨w₁, pc'⟩, htry, hgoto⟩ := Option.map_eq_some_iff.mp h
    cases hgoto
    exact tryStep_files hpc hv htry
  · cases h

/-- Every step of a run on a stored job is one of the cases. -/
theorem Run.step_files {run run' : Run} {w w' : World} {m : Moment} {event : RunEvent} {v : JobView}
    (hv : backend.view w run.key = some v) (h : run.step backend w m event = some (w', run')) :
    run.Files backend event v w w' run' := by
  unfold Run.step at h
  split at h
  · split at h <;> cases h
    exact .quiet hv rfl (.leave rfl)
  · exact Run.proceed_files hv h

/-- A run that is about to report its success reports the number of findings it stored. -/
theorem Run.step_succeeding {run run' : Run} {w w' : World} {m : Moment} {event : RunEvent} {v v' : JobView}
    {attempt count : ℕ} (hpc : run.pc = .trying attempt (.succeeding count))
    (hv : backend.view w run.key = some v) (h : run.step backend w m event = some (w', run'))
    (hview : backend.view w' = Function.update (backend.view w) run.key (some v')) :
    v' = v ∨ v'.record.resultCount = count := by
  have hsame : ∀ {u}, backend.view w' = Function.update (backend.view w) run.key (some u) → u = v' := by
    intro u hu
    have hkey := congrFun (hu.symm.trans hview) run.key
    rw [Function.update_self, Function.update_self] at hkey
    exact Option.some.inj hkey
  obtain ⟨w₁, htransition, hview'⟩ := backend.transition_ok m .succeeded (some count) none none hv
  cases event with
  | crash =>
    simp only [Run.step] at h
    split at h <;> cases h
    exact .inl (hsame (view_unchanged hv)).symm
  | advance =>
    simp only [Run.step, Run.proceed, hpc, tryStep, scanStep, storeStep, handlerStep, htransition,
      Option.map_none, Option.none_or, Option.map_some] at h
    cases h
    exact .inr (by rw [← hsame hview']; rfl)
  | _ => simp [Run.step, Run.proceed, hpc, tryStep, scanStep, storeStep, handlerStep] at h

namespace System

/-- A step of the system that moves one run, with what the run does to its job, the calls it
makes and the finding events it appends. -/
structure RunStep (backend : Backend World) (s : System World) (label : Label) (s' : System World)
    (event : RunEvent) (before : List Run) (run run' : Run) (after : List Run) (v v' : JobView)
    (appended : List Document) : Prop where
  runs : s.runs = before ++ run :: after
  runs' : s'.runs = before ++ run' :: after
  stored : backend.view s.world run.key = some v
  view : backend.view s'.world = Function.update (backend.view s.world) run.key (some v')
  move : run.Move label.moment.now event v v' run'
  effects : s.effects label = run.effects event
  filing : run.Filing backend.core event v run' appended
  filed : v'.filed = v.filed ++ appended
  counted : ∀ attempt count, run.pc = .trying attempt (.succeeding count) →
    v' = v ∨ v'.record.resultCount = count

/-- A step that names a run moves the run at that place. -/
theorem step_run_at {products : List FindingSource} {s s' : System World} {label : Label} {index : ℕ}
    {event : RunEvent} (hs : WellFormed backend s) (h : s.step backend products label = some s')
    (haction : label.action = .run index event) :
    ∃ before run run' after v v' appended,
      RunStep backend s label s' event before run run' after v v' appended ∧ before.length = index ∧
      run.step backend s.world label.moment event = some (s'.world, run') := by
  unfold step at h
  rw [haction] at h
  obtain ⟨run, hrun, h⟩ := Option.bind_eq_some_iff.mp h
  obtain ⟨⟨w, run'⟩, hstep, h⟩ := Option.bind_eq_some_iff.mp h
  cases h
  obtain ⟨v, hv⟩ := Option.isSome_iff_exists.mp (hs.runs run (List.mem_of_getElem? hrun))
  obtain ⟨v', hview, hmove⟩ := Run.step_move hv hstep
  obtain ⟨appended, v'', hfiling, hview', hfiled⟩ := Run.step_files hv hstep
  obtain ⟨before, after, hruns, hset, hindex⟩ := exists_split_of_getElem? hrun run'
  have hsame : v'' = v' := by
    have hkey := congrFun (hview'.symm.trans hview) run.key
    rw [Function.update_self, Function.update_self] at hkey
    exact Option.some.inj hkey
  subst hsame
  have heffects : s.effects label = run.effects event := by simp [System.effects, haction, hrun]
  exact ⟨before, run, run', after, v, v'', appended,
    ⟨hruns, hset, hv, hview, hmove, heffects, hfiling, hfiled,
      fun attempt count hpc => Run.step_succeeding hpc hv hstep hview⟩, hindex, hstep⟩

/-- A step that names a run moves it. -/
theorem step_run {products : List FindingSource} {s s' : System World} {label : Label} {index : ℕ}
    {event : RunEvent} (hs : WellFormed backend s) (h : s.step backend products label = some s')
    (haction : label.action = .run index event) :
    ∃ before run run' after v v' appended,
      RunStep backend s label s' event before run run' after v v' appended := by
  obtain ⟨before, run, run', after, v, v', appended, hsplit, -, -⟩ := step_run_at hs h haction
  exact ⟨before, run, run', after, v, v', appended, hsplit⟩

/-- A step that names no run makes no call outside the job repository. -/
theorem effects_of_ne_run {s : System World} {label : Label}
    (h : ∀ index event, label.action ≠ .run index event) : s.effects label = [] := by
  unfold System.effects
  split
  · next haction => exact absurd haction (h _ _)
  · rfl

end System

end SharedIntegration

import SharedIntegration.Outcomes
import SharedIntegration.Claiming

/-!
# Undisturbed executions

In an undisturbed execution nobody else touches the job, the scan of each attempt settles as the scenario
says, and the registry accepts what it is given. Every step of such an execution does what the forecast of its
position says, and what the forecast of the next position says is left.
-/

namespace SharedIntegration

open Transition

variable {World : Type}

/-- One for a poll of the job while the scan goes on. -/
def RunEvent.polls : RunEvent → ℕ
  | .pollTimeout => 1
  | .advance | .appendConflict | .scanSettles _ | .scanStops _ | .taskCancelled | .crash => 0

namespace Scenario

/-- The run goes on by itself, and the scan of an attempt settles as the scenario says. -/
def Undisturbed (scenario : Scenario) (s : World × Run) (label : RunEvent × Moment) : Prop :=
  match label.1 with
  | .advance | .pollTimeout => True
  | .scanSettles outcome => ∀ attempt, s.2.pc = .trying attempt .waiting → outcome = scenario.outcome attempt
  | .appendConflict | .scanStops _ | .taskCancelled | .crash => False

/-- The registry holds what the scenario says when the results are stored, and accepts them. -/
def AcceptedAt (backend : Backend World) (scenario : Scenario) (w : World) (m : Moment) (key : JobKey) : Pc → Prop
  | .trying _ (.storing _) => backend.findings w key.tenantId = .ok scenario.existing
  | .trying _ (.adding loop) => (backend.addForJob w m key.tenantId loop.finding (some key.jobId)).2 = .ok ()
  | .trying _ (.correlating _ _ (correlation :: _)) =>
    (backend.addCorrelation w m key.tenantId correlation).2 = .ok ()
  | _ => True

/-- The registry accepts the next call of a run, if it is a call of the registry. -/
def Accepted (backend : Backend World) (scenario : Scenario) (s : World × Run) (m : Moment) : Prop :=
  scenario.AcceptedAt backend s.1 m s.2.key s.2.pc

/-- The rules return, whatever they are asked. -/
def Returning (rules : List CorrelationRule) : Prop :=
  ∀ rule ∈ rules, ∀ finding existing, ∃ found, rule finding existing = .ok found

end Scenario

/-- The record of a job that has not ended and is not to be cancelled. -/
structure JobRecord.Undecided (record : JobRecord) (attempt : ℕ) (status : JobStatus) : Prop where
  attempt : record.attempt = attempt
  status : record.status = status
  kept : record.cancelRequested = false
  resultCount : record.resultCount = 0

namespace Scenario

/-- What holds at a position inside an attempt. -/
def StageReady (scenario : Scenario) (attempt : ℕ) : Stage → Prop
  | .polling (some outcome) => outcome = scenario.outcome attempt
  | .correlating _ rules _ => Returning rules
  | .recordingCorrelation _ rules _ _ => Returning rules
  | .retrying _ | .sleeping => attempt < scenario.executor.maxAttempts
  | _ => True

/-- What holds of the record of the job at a position. -/
def Ready (scenario : Scenario) (record : JobRecord) : Pc → Prop
  | .start => record.Undecided 0 .queued ∧ record.source ∈ scenario.executor.products
  | .loopTop attempt | .claiming attempt _ =>
    1 ≤ attempt ∧ attempt ≤ scenario.executor.maxAttempts ∧
      record.Undecided (attempt - 1) (if attempt = 1 then .queued else .running)
  | .trying attempt stage =>
    1 ≤ attempt ∧ attempt ≤ scenario.executor.maxAttempts ∧ record.Undecided attempt .running ∧
      scenario.StageReady attempt stage
  | .done .returned => True
  | .unknownSource _ | .cancelling _ | .done (.raised _) | .done .cancelledError | .dead => False

/-- A run of the job, as the scenario forecasts it. -/
structure OnCourse (backend : Backend World) (scenario : Scenario) (key : JobKey) (s : World × Run) (v : JobView)
    (forecast : Forecast) : Prop where
  core : scenario.core = backend.core
  returning : Returning scenario.executor.correlations
  job : s.2.key = key
  executor : s.2.executor = scenario.executor
  view : backend.view s.1 key = some v
  ready : scenario.Ready v.record s.2.pc
  forecast : scenario.forecast v.record s.2.pc = some forecast

/-- A step logs the first entries of the forecast, and leaves the others to the next one. -/
structure Continues (event : RunEvent) (v v' : JobView) (forecast forecast' : Forecast) : Prop where
  verdict : forecast'.verdict = forecast.verdict
  entries : v'.entries ++ forecast'.entries = v.entries ++ forecast.entries
  steps : 1 + forecast'.steps = forecast.steps + 2 * event.polls

/-- The state after a step is on course, and continues the one before. -/
def Advances (backend : Backend World) (scenario : Scenario) (key : JobKey) (event : RunEvent) (s' : World × Run)
    (v : JobView) (forecast : Forecast) : Prop :=
  ∃ v' forecast', OnCourse backend scenario key s' v' forecast' ∧ Continues event v v' forecast forecast'

end Scenario

/-- One more event is one more entry. -/
theorem JobView.entries_append (v : JobView) (kind : String) (payload : Document) (now : Instant) :
    (v.append kind payload now).entries = v.entries ++ [(kind, payload)] := by
  rw [entries, append_log, List.map_append]
  rfl

namespace Scenario

variable {backend : Backend World} {scenario : Scenario} {key : JobKey} {w : World} {run : Run} {v : JobView}
  {forecast : Forecast}

/-- A run that stays on course at its next position. -/
theorem OnCourse.goto (h : OnCourse backend scenario key (w, run) v forecast) {event : RunEvent} {w' : World}
    {pc' : Pc} {v' : JobView} {forecast' : Forecast} (hview : backend.view w' key = some v')
    (hready : scenario.Ready v'.record pc') (hforecast : scenario.forecast v'.record pc' = some forecast')
    (hcontinues : Continues event v v' forecast forecast') :
    Advances backend scenario key event (w', run.goto pc') v forecast :=
  ⟨v', forecast', ⟨h.core, h.returning, h.job, h.executor, hview, hready, hforecast⟩, hcontinues⟩

/-- A step that logs nothing. -/
theorem Continues.quiet {event : RunEvent} {v v' : JobView} {forecast forecast' : Forecast}
    (hlog : v'.entries = v.entries) (hverdict : forecast'.verdict = forecast.verdict)
    (hentries : forecast'.entries = forecast.entries)
    (hsteps : 1 + forecast'.steps = forecast.steps + 2 * event.polls) :
    Continues event v v' forecast forecast' :=
  ⟨hverdict, by rw [hlog, hentries], hsteps⟩

/-- A step that logs one entry. -/
theorem Continues.logs {event : RunEvent} {v v' : JobView} {forecast forecast' : Forecast} {entry : LogEntry}
    (hlog : v'.entries = v.entries ++ [entry]) (hverdict : forecast'.verdict = forecast.verdict)
    (hentries : entry :: forecast'.entries = forecast.entries)
    (hsteps : 1 + forecast'.steps = forecast.steps + 2 * event.polls) :
    Continues event v v' forecast forecast' :=
  ⟨hverdict, by rw [hlog, ← hentries, List.append_assoc]; rfl, hsteps⟩

/-- An attempt that is not to be repeated concludes. -/
theorem attempting_of_not_repeated (scenario : Scenario) {attempt : ℕ}
    (h : (scenario.outcome attempt).retryable = true → ¬ attempt < scenario.executor.maxAttempts) :
    scenario.attempting attempt = (scenario.concluding attempt (scenario.outcome attempt)).after [] 1 := by
  unfold attempting
  cases hleft : scenario.executor.maxAttempts - attempt with
  | zero => rfl
  | succ left =>
    rw [settled, if_neg]
    intro hretry
    have hlast := h hretry
    omega

/-- An attempt that is to be repeated is followed by the next one. -/
theorem attempting_of_repeated (scenario : Scenario) {attempt : ℕ}
    (hretry : (scenario.outcome attempt).retryable = true) (hlt : attempt < scenario.executor.maxAttempts) :
    scenario.attempting attempt =
      (scenario.attempting (attempt + 1)).after (scenario.retryEntries attempt) 6 := by
  have hleft : scenario.executor.maxAttempts - attempt = scenario.executor.maxAttempts - (attempt + 1) + 1 := by omega
  rw [attempting, hleft, settled, if_pos hretry]
  rfl

/-- What follows the loop over the findings is forecast by its head. -/
theorem forecast_storeNext (scenario : Scenario) (record : JobRecord) (attempt count : ℕ)
    (existing found : List Finding) :
    scenario.forecast record (.trying attempt (storeNext existing count found)) =
      some (scenario.storing ⟨attempt, .succeeded, none, none, count⟩ existing found) := by
  cases found with
  | nil => rfl
  | cons finding rest => rfl

/-- The head of the loop over the findings holds nothing of its own. -/
theorem stageReady_storeNext (scenario : Scenario) (attempt count : ℕ) (existing found : List Finding) :
    scenario.StageReady attempt (storeNext existing count found) := by
  cases found with
  | nil => trivial
  | cons finding rest => trivial

/-- What holds inside an attempt. -/
theorem OnCourse.inAttempt (h : OnCourse backend scenario key (w, run) v forecast) {attempt : ℕ} {stage : Stage}
    (hpc : run.pc = .trying attempt stage) :
    (1 ≤ attempt ∧ attempt ≤ scenario.executor.maxAttempts ∧ v.record.Undecided attempt .running ∧
      scenario.StageReady attempt stage) ∧ scenario.stageForecast attempt stage = some forecast := by
  have hready := h.ready
  have hforecast := h.forecast
  rw [hpc] at hready hforecast
  exact ⟨hready, hforecast⟩

/-- The outcome of an attempt leads to its conclusion, or to the next attempt. -/
theorem OnCourse.settle (h : OnCourse backend scenario key (w, run) v forecast) {attempt : ℕ}
    (hpc : run.pc = .trying attempt (.polling (some (scenario.outcome attempt))))
    (hcancelled : scenario.outcome attempt ≠ .cancelled) :
    Advances backend scenario key .advance
      (w, run.goto (.trying attempt (afterScan run.executor attempt (scenario.outcome attempt)))) v forecast := by
  obtain ⟨⟨hpos, hle, hundecided, -⟩, hsome⟩ := h.inAttempt hpc
  have hforecast : forecast = scenario.attempting attempt := (Option.some.inj hsome).symm
  have hexecutor : run.executor = scenario.executor := h.executor
  cases houtcome : scenario.outcome attempt with
  | findings found =>
    refine h.goto h.view ⟨hpos, hle, hundecided, trivial⟩ rfl (.quiet rfl ?_ ?_ ?_)
    all_goals
      rw [hforecast, scenario.attempting_of_not_repeated (by rw [houtcome]; intro h; cases h), houtcome]
      rfl
  | productError error =>
    rw [afterScan, hexecutor]
    split
    · next hrepeated =>
      obtain ⟨hretry, hleft⟩ := Bool.and_eq_true_iff.mp hrepeated
      have hlt : attempt < scenario.executor.maxAttempts := of_decide_eq_true hleft
      have hretryable : (scenario.outcome attempt).retryable = true := by
        rw [houtcome]
        exact hretry
      refine h.goto h.view ⟨hpos, hle, hundecided, hlt⟩ rfl (.quiet rfl ?_ ?_ ?_)
      all_goals
        rw [hforecast, scenario.attempting_of_repeated hretryable hlt, retryEntries, houtcome]
        first
          | rfl
          | (simp [RunEvent.polls]; omega)
    · next hconcluded =>
      have hlast : (scenario.outcome attempt).retryable = true → ¬ attempt < scenario.executor.maxAttempts := by
        intro hretryable hlt
        rw [houtcome] at hretryable
        exact hconcluded (Bool.and_eq_true_iff.mpr ⟨hretryable, decide_eq_true hlt⟩)
      refine h.goto h.view ⟨hpos, hle, hundecided, trivial⟩ rfl (.quiet rfl ?_ ?_ ?_)
      all_goals
        rw [hforecast, scenario.attempting_of_not_repeated hlast, houtcome]
        rfl
  | otherError message =>
    refine h.goto h.view ⟨hpos, hle, hundecided, trivial⟩ rfl (.quiet rfl ?_ ?_ ?_)
    all_goals
      rw [hforecast, scenario.attempting_of_not_repeated (by rw [houtcome]; intro h; cases h), houtcome]
      rfl
  | cancelled => exact absurd houtcome hcancelled

/-- Waiting for the scan stays on course. -/
theorem OnCourse.scan (h : OnCourse backend scenario key (w, run) v forecast) {attempt : ℕ} {stage stage' : Stage}
    {event : RunEvent} {m : Moment} (hpc : run.pc = .trying attempt stage)
    (hcancelled : scenario.outcome attempt ≠ .cancelled) (hundisturbed : scenario.Undisturbed (w, run) (event, m))
    (hstep : scanStep backend run.executor run.key attempt w stage event = some stage') :
    Advances backend scenario key event (w, run.goto (.trying attempt stage')) v forecast := by
  obtain ⟨⟨hpos, hle, hundecided, hstage⟩, hforecast⟩ := h.inAttempt hpc
  have hget : backend.get w run.key = some v.record := get_of_view (h.job ▸ h.view)
  unfold scanStep at hstep
  split at hstep
  · cases hstep
    cases hforecast
    exact h.goto h.view ⟨hpos, hle, hundecided, trivial⟩ rfl (.quiet rfl rfl rfl (by simp [RunEvent.polls]; omega))
  · next outcome =>
    cases hstep
    cases hforecast
    exact h.goto h.view ⟨hpos, hle, hundecided, hundisturbed attempt hpc⟩ rfl (.quiet rfl rfl rfl rfl)
  · exact hundisturbed.elim
  · next settled =>
    rw [hget] at hstep
    cases settled with
    | none =>
      dsimp only at hstep
      rw [if_neg (by rw [hundecided.kept]; exact Bool.false_ne_true)] at hstep
      cases hstep
      cases hforecast
      exact h.goto h.view ⟨hpos, hle, hundecided, trivial⟩ rfl
        (.quiet rfl rfl rfl (by simp [RunEvent.polls]; omega))
    | some outcome =>
      have hsame : outcome = scenario.outcome attempt := hstage
      dsimp only at hstep
      rw [if_neg (by rw [hundecided.kept]; exact Bool.false_ne_true)] at hstep
      cases hstep
      subst hsame
      exact h.settle hpc hcancelled
  · exact hundisturbed.elim
  · exact hundisturbed.elim
  · exact hundisturbed.elim
  · exact hundisturbed.elim
  · cases hstep

/-- An event of the worker is logged, and the run goes on. -/
theorem OnCourse.record (h : OnCourse backend scenario key (w, run) v forecast) {attempt : ℕ} {w' : World}
    {pc' : Pc} {event : RunEvent} {m : Moment} {kind : String} {payload : Document} {next : Stage}
    {forecast' : Forecast} (hpos : 1 ≤ attempt) (hle : attempt ≤ scenario.executor.maxAttempts)
    (hundecided : v.record.Undecided attempt .running) (hundisturbed : scenario.Undisturbed (w, run) (event, m))
    (hstep : recordEvent backend run.key attempt w m kind payload next event = some (w', pc'))
    (hnext : scenario.StageReady attempt next) (hforecast : scenario.stageForecast attempt next = some forecast')
    (hafter : forecast = forecast'.after [(kind, payload)] 1) :
    Advances backend scenario key event (w', run.goto pc') v forecast := by
  have hjob : run.key = key := h.job
  obtain ⟨w₁, appended, happend, hview⟩ := backend.appendEvent_ok m kind payload h.view
  unfold recordEvent at hstep
  split at hstep
  · rw [hjob, happend] at hstep
    cases hstep
    have hnow : backend.view w' key = some (v.append kind payload m.now) := by
      rw [hview, Function.update_self]
    refine h.goto hnow ⟨hpos, hle, hundecided, hnext⟩ hforecast ?_
    rw [hafter]
    exact .logs (v.entries_append kind payload m.now) rfl rfl rfl
  · exact hundisturbed.elim
  · exact hundisturbed.elim
  · cases hstep

/-- A step that neither waits nor fails is taken by the worker itself. -/
theorem OnCourse.work (h : OnCourse backend scenario key (w, run) v forecast) {attempt : ℕ} {w' : World}
    {stage' : Stage} {forecast' : Forecast} (hpos : 1 ≤ attempt) (hle : attempt ≤ scenario.executor.maxAttempts)
    (hundecided : v.record.Undecided attempt .running) (hview : backend.view w' = backend.view w)
    (hstage : scenario.StageReady attempt stage')
    (hforecast : scenario.stageForecast attempt stage' = some forecast') (hafter : forecast = forecast'.after [] 1) :
    Advances backend scenario key .advance (w', run.goto (.trying attempt stage')) v forecast := by
  refine h.goto ((congrFun hview key).trans h.view) ⟨hpos, hle, hundecided, hstage⟩ hforecast ?_
  rw [hafter]
  exact .quiet rfl rfl rfl rfl

/-- Storing the results stays on course. -/
theorem OnCourse.store (h : OnCourse backend scenario key (w, run) v forecast) {attempt : ℕ} {stage : Stage}
    {w' : World} {pc' : Pc} {event : RunEvent} {m : Moment} (hpc : run.pc = .trying attempt stage)
    (hundisturbed : scenario.Undisturbed (w, run) (event, m)) (haccepted : scenario.Accepted backend (w, run) m)
    (hstep : storeStep backend run.executor run.key attempt w m stage event = some (w', pc')) :
    Advances backend scenario key event (w', run.goto pc') v forecast := by
  obtain ⟨⟨hpos, hle, hundecided, hstage⟩, hforecast⟩ := h.inAttempt hpc
  have hexecutor : run.executor = scenario.executor := h.executor
  unfold Accepted at haccepted
  rw [hpc] at haccepted
  unfold storeStep at hstep
  split at hstep
  · next found =>
    have hexisting : backend.findings w run.key.tenantId = .ok scenario.existing := haccepted
    rw [hexisting] at hstep
    cases hstep
    exact h.work hpos hle hundecided rfl (scenario.stageReady_storeNext _ _ _ _)
      (scenario.forecast_storeNext v.record _ _ _ _) (Option.some.inj hforecast).symm
  · next loop =>
    have hview := backend.addForJob_view w m run.key.tenantId loop.finding (some run.key.jobId)
    have hok : (backend.addForJob w m run.key.tenantId loop.finding (some run.key.jobId)).2 = .ok () := haccepted
    split at hstep
    · next hcall =>
      rw [hcall] at hview
      cases hstep
      exact h.work hpos hle hundecided hview trivial rfl
        ((Option.some.inj hforecast).symm.trans (Forecast.after_two _ _))
    · next hcall =>
      rw [hcall] at hok
      cases hok
  · exact hundisturbed.elim
  · next loop =>
    have hafter := (Option.some.inj hforecast).symm
    rw [findingEntry, h.core] at hafter
    rw [hexecutor] at hstep
    exact h.record hpos hle hundecided hundisturbed hstep h.returning rfl hafter
  · next loop rules correlation pending =>
    have hview := backend.addCorrelation_view w m run.key.tenantId correlation
    have hok : (backend.addCorrelation w m run.key.tenantId correlation).2 = .ok () := haccepted
    split at hstep
    · next hcall =>
      rw [hcall] at hview
      cases hstep
      exact h.work hpos hle hundecided hview hstage rfl
        ((Option.some.inj hforecast).symm.trans (Forecast.after_two _ _))
    · next hcall =>
      rw [hcall] at hok
      cases hok
  · exact hundisturbed.elim
  · next loop rule rules =>
    obtain ⟨found, hfound⟩ := hstage rule List.mem_cons_self loop.finding loop.existing
    have hcorrelated : correlated rule loop.finding loop.existing = found := by
      rw [correlated, hfound]
    rw [hfound] at hstep
    cases hstep
    refine h.work hpos hle hundecided rfl ?_ rfl ?_
    · exact fun other hother => hstage other (List.mem_cons_of_mem _ hother)
    · rw [← hcorrelated]
      exact (Option.some.inj hforecast).symm
  · next loop =>
    cases hstep
    exact h.work hpos hle hundecided rfl (scenario.stageReady_storeNext _ _ _ _)
      (scenario.forecast_storeNext v.record _ _ _ _) (Option.some.inj hforecast).symm
  · next loop rules correlation pending =>
    have hafter := (Option.some.inj hforecast).symm
    rw [correlationEntry, h.core] at hafter
    exact h.record hpos hle hundecided hundisturbed hstep hstage rfl hafter
  · cases hstep

/-- The run ends with the status that was forecast. -/
theorem OnCourse.finish (h : OnCourse backend scenario key (w, run) v forecast) {w' : World} {m : Moment}
    {status : JobStatus} {resultCount : Option ℕ} {errorCode errorMessage : Option String}
    (hview : backend.view w' = Function.update (backend.view w) key
      (some (v.transition m.now status resultCount errorCode errorMessage)))
    (hforecast : forecast =
      .ending (v.transition m.now status resultCount errorCode errorMessage).record.verdict) :
    Advances backend scenario key .advance (w', run.goto (.done .returned)) v forecast := by
  have hnow : backend.view w' key = some (v.transition m.now status resultCount errorCode errorMessage) := by
    rw [hview, Function.update_self]
  refine h.goto hnow trivial rfl ?_
  rw [hforecast]
  exact .logs (JobView.entries_append _ _ _ _) rfl rfl rfl

/-- The end of an attempt stays on course. -/
theorem OnCourse.handle (h : OnCourse backend scenario key (w, run) v forecast) {attempt : ℕ} {stage : Stage}
    {w' : World} {pc' : Pc} {event : RunEvent} {m : Moment} (hpc : run.pc = .trying attempt stage)
    (hundisturbed : scenario.Undisturbed (w, run) (event, m))
    (hstep : handlerStep backend run.key attempt w m stage event = some (w', pc')) :
    Advances backend scenario key event (w', run.goto pc') v forecast := by
  obtain ⟨⟨hpos, hle, hundecided, hstage⟩, hforecast⟩ := h.inAttempt hpc
  have hjob : run.key = key := h.job
  have hattempt := hundecided.attempt
  unfold handlerStep at hstep
  split at hstep
  · next count =>
    obtain ⟨w₁, htransition, hview⟩ := backend.transition_ok m .succeeded (some count) none none h.view
    rw [hjob, htransition] at hstep
    cases hstep
    refine h.finish hview ((Option.some.inj hforecast).symm.trans ?_)
    rw [← hattempt]
    rfl
  · cases hforecast
  · cases hforecast
  · cases hforecast
  · next code =>
    obtain ⟨w₁, appended, happend, hview⟩ :=
      backend.appendEvent_ok m "retrying" (retryPayload attempt code) h.view
    rw [hjob, happend] at hstep
    cases hstep
    cases hforecast
    have hnow : backend.view w' key = some (v.append "retrying" (retryPayload attempt code) m.now) := by
      rw [hview, Function.update_self]
    refine h.goto hnow ⟨hpos, hle, hundecided, hstage⟩ rfl ?_
    exact .logs (v.entries_append _ _ _) rfl rfl (by simp [RunEvent.polls]; omega)
  · exact hundisturbed.elim
  · cases hstep
    cases hforecast
    refine h.goto h.view ⟨Nat.succ_pos attempt, hstage, ?_⟩ rfl
      (.quiet rfl rfl rfl (by simp [RunEvent.polls]; omega))
    rw [Nat.add_sub_cancel, if_neg (by omega)]
    exact hundecided
  · exact hundisturbed.elim
  · next timeout code message =>
    obtain ⟨w₁, hend, hview⟩ := endWith_eq m (if timeout then .timedOut else .failed) (some code)
      (some message) h.view
    rw [hjob, hend] at hstep
    cases hstep
    refine h.finish hview ((Option.some.inj hforecast).symm.trans ?_)
    have hcount := hundecided.resultCount
    simp [JobView.transition, JobRecord.verdict, JobRecord.writeStatus, hattempt, hcount]
  · cases hstep

/-- A step inside an attempt stays on course. -/
theorem OnCourse.attempt (h : OnCourse backend scenario key (w, run) v forecast) {attempt : ℕ} {stage : Stage}
    {w' : World} {pc' : Pc} {event : RunEvent} {m : Moment} (hpc : run.pc = .trying attempt stage)
    (hcancelled : scenario.outcome attempt ≠ .cancelled) (hundisturbed : scenario.Undisturbed (w, run) (event, m))
    (haccepted : scenario.Accepted backend (w, run) m)
    (hstep : tryStep backend run.executor run.key attempt w m stage event = some (w', pc')) :
    Advances backend scenario key event (w', run.goto pc') v forecast := by
  rcases Option.or_eq_some_iff.mp hstep with hwait | ⟨-, hrest⟩
  · obtain ⟨stage', hscan, hpair⟩ := Option.map_eq_some_iff.mp hwait
    cases hpair
    exact h.scan hpc hcancelled hundisturbed hscan
  · rcases Option.or_eq_some_iff.mp hrest with hstore | ⟨-, hhandle⟩
    · exact h.store hpc hundisturbed haccepted hstore
    · exact h.handle hpc hundisturbed hhandle

/-- A step of a living worker stays on course. -/
theorem OnCourse.proceed (h : OnCourse backend scenario key (w, run) v forecast) {s' : World × Run}
    {event : RunEvent} {m : Moment} (hcancelled : ∀ attempt, scenario.outcome attempt ≠ .cancelled)
    (hundisturbed : scenario.Undisturbed (w, run) (event, m))
    (haccepted : scenario.Accepted backend (w, run) m)
    (hstep : run.proceed backend w m event = some s') : Advances backend scenario key event s' v forecast := by
  have hexecutor : run.executor = scenario.executor := h.executor
  have hready := h.ready
  have hforecast := h.forecast
  have hget : backend.get w run.key = some v.record := get_of_view (h.job ▸ h.view)
  unfold Run.proceed at hstep
  split at hstep
  · next hpc =>
    rw [hpc] at hready hforecast
    obtain ⟨hundecided, hsource⟩ := hready
    have hactive : v.record.status.terminal = false := by
      rw [hundecided.status]
      rfl
    rw [hget] at hstep
    dsimp only at hstep
    rw [if_neg (by rw [hactive]; exact Bool.false_ne_true), hexecutor, if_pos hsource] at hstep
    cases hstep
    cases hforecast
    exact ⟨v, _, ⟨h.core, h.returning, h.job, h.executor, h.view,
      ⟨Nat.le_refl 1, scenario.executor.maxAttempts_pos, hundecided⟩, rfl⟩,
      .quiet rfl rfl rfl (by simp [RunEvent.polls]; omega)⟩
  · exact hundisturbed.elim
  · next hpc =>
    rw [hpc] at hready
    exact hready.elim
  · next attempt hpc =>
    rw [hpc] at hready hforecast
    obtain ⟨hpos, hle, hundecided⟩ := hready
    have hstatus : v.record.status ≠ .cancelled := by
      rw [hundecided.status]
      split
      · exact JobStatus.noConfusion
      · exact JobStatus.noConfusion
    rw [hget] at hstep
    dsimp only at hstep
    rw [if_neg (by rw [hundecided.kept]; exact not_or_intro Bool.false_ne_true hstatus)] at hstep
    cases hstep
    cases hforecast
    exact h.goto h.view ⟨hpos, hle, hundecided⟩ rfl (.quiet rfl rfl rfl (by simp [RunEvent.polls]; omega))
  · next hpc =>
    rw [hpc] at hready
    exact hready.elim
  · next attempt payload hpc =>
    rw [hpc] at hready hforecast
    obtain ⟨hpos, hle, hundecided⟩ := hready
    have hclaimable : JobView.claimable (attempt = 1) v.record = true := by
      simp [JobView.claimable, hundecided.status, hundecided.kept]
    obtain ⟨-, w₁, hclaim, hview⟩ | ⟨hrefused, -⟩ := backend.markRunning_cases m (attempt = 1) (h.job ▸ h.view)
    · rw [hclaim] at hstep
      cases hstep
      cases hforecast
      have hnow : backend.view w₁ key = some (v.markRunning m.now) := by
        rw [hview, show run.key = key from h.job, Function.update_self]
      have hundecided' : (v.markRunning m.now).record.Undecided attempt .running :=
        ⟨by rw [← Nat.sub_add_cancel hpos, ← hundecided.attempt]; rfl, rfl, hundecided.kept,
          hundecided.resultCount⟩
      exact ⟨_, _, ⟨h.core, h.returning, h.job, h.executor, hnow, ⟨hpos, hle, hundecided', trivial⟩, rfl⟩,
        .logs (JobView.entries_append _ _ _ _) rfl rfl (by simp [RunEvent.polls]; omega)⟩
    · rw [hclaimable] at hrefused
      cases hrefused
  · next attempt stage hpc =>
    obtain ⟨⟨w₁, pc'⟩, htry, hgoto⟩ := Option.map_eq_some_iff.mp hstep
    cases hgoto
    exact h.attempt hpc (hcancelled attempt) hundisturbed haccepted htry
  · cases hstep

/-- Every step of an undisturbed execution stays on course. -/
theorem OnCourse.step {s s' : World × Run} {label : RunEvent × Moment}
    (h : OnCourse backend scenario key s v forecast) (hcancelled : ∀ attempt, scenario.outcome attempt ≠ .cancelled)
    (hundisturbed : scenario.Undisturbed s label) (haccepted : scenario.Accepted backend s label.2)
    (hstep : s.2.step backend s.1 label.2 label.1 = some s') :
    Advances backend scenario key label.1 s' v forecast := by
  obtain ⟨event, m⟩ := label
  cases event with
  | crash => exact hundisturbed.elim
  | advance => exact h.proceed hcancelled hundisturbed haccepted hstep
  | pollTimeout => exact h.proceed hcancelled hundisturbed haccepted hstep
  | scanSettles outcome => exact h.proceed hcancelled hundisturbed haccepted hstep
  | appendConflict => exact hundisturbed.elim
  | scanStops outcome => exact hundisturbed.elim
  | taskCancelled => exact hundisturbed.elim

end Scenario

end SharedIntegration

import SharedIntegration.UndisturbedRuns

/-!
# An undisturbed execution has the specified outcome

A job that is queued has been created and not been touched since. Its undisturbed execution never gets stuck,
takes a bounded number of steps apart from polls, and ends as the scenario says, with exactly its log.
-/

namespace SharedIntegration

open Transition

variable {World : Type}

/-- What happens next in an undisturbed execution. -/
inductive Progress
  | goesOn
  | polls
  | settles

namespace Scenario

/-- The scan of an attempt settles with the outcome of that attempt. -/
def event (scenario : Scenario) (run : Run) : Progress → RunEvent
  | .goesOn => .advance
  | .polls => .pollTimeout
  | .settles =>
    match run.pc with
    | .trying attempt _ => .scanSettles (scenario.outcome attempt)
    | _ => .advance

/-- One step of an undisturbed execution. -/
def step (backend : Backend World) (scenario : Scenario) (s : World × Run) (label : Progress × Moment) :
    Option (World × Run) :=
  s.2.step backend s.1 label.2 (scenario.event s.2 label.1)

/-- How often the worker polls. -/
def polls (labels : List (Progress × Moment)) : ℕ :=
  labels.countP fun label => match label.1 with
    | .polls => true
    | .goesOn | .settles => false

variable {backend : Backend World} {scenario : Scenario} {key : JobKey} {w : World} {run : Run} {v : JobView}
  {forecast : Forecast}

/-- Such a step is undisturbed. -/
theorem undisturbed_event (s : World × Run) (progress : Progress) (m : Moment) :
    scenario.Undisturbed s (scenario.event s.2 progress, m) := by
  cases progress with
  | goesOn => trivial
  | polls => trivial
  | settles =>
    dsimp only [event]
    split
    · next attempt stage hpc =>
      intro other hother
      rw [hpc] at hother
      cases hother
      rfl
    · trivial

/-- Only a poll is counted as a poll. -/
theorem polls_event (scenario : Scenario) (run : Run) (progress : Progress) (m : Moment) :
    (scenario.event run progress).polls = polls [(progress, m)] := by
  cases progress with
  | goesOn => rfl
  | polls => rfl
  | settles =>
    dsimp only [event]
    split
    · rfl
    · rfl

/-- An undisturbed execution stays on course, and what the forecast leaves out has been logged. -/
theorem OnCourse.runSteps {labels : List (Progress × Moment)} {s s' : World × Run}
    (h : OnCourse backend scenario key s v forecast) (hcancelled : ∀ attempt, scenario.outcome attempt ≠ .cancelled)
    (haccepted : GuardedAlong (scenario.step backend) (fun s label => scenario.Accepted backend s label.2) s labels)
    (hrun : Transition.runSteps (scenario.step backend) s labels = some s') :
    ∃ v' forecast', OnCourse backend scenario key s' v' forecast' ∧ forecast'.verdict = forecast.verdict ∧
      v'.entries ++ forecast'.entries = v.entries ++ forecast.entries ∧
      labels.length + forecast'.steps = forecast.steps + 2 * polls labels := by
  induction labels generalizing s v forecast with
  | nil =>
    cases hrun
    exact ⟨v, forecast, h, rfl, rfl, by simp [polls]⟩
  | cons label labels ih =>
    obtain ⟨s₁, hstep, hrest⟩ := runSteps_cons_eq_some.mp hrun
    obtain ⟨v₁, forecast₁, h₁, hone⟩ := h.step hcancelled (undisturbed_event s label.1 label.2)
      haccepted.1 hstep
    obtain ⟨v', forecast', h', hverdict, hentries, hsteps⟩ := ih h₁ (haccepted.2 s₁ hstep) hrest
    refine ⟨v', forecast', h', hverdict.trans hone.verdict, hentries.trans hone.entries, ?_⟩
    have honeStep := hone.steps
    have hcount : polls (label :: labels) = polls [(label.1, label.2)] + polls labels :=
      @List.countP_append _ _ [label] labels
    rw [polls_event scenario s.2 label.1 label.2] at honeStep
    rw [hcount, List.length_cons]
    omega

/-- Inside an attempt the worker can go on, unless it waits for the scan. -/
theorem isSome_tryStep (executor : JobExecutor) (key : JobKey) (attempt : ℕ) (w : World) (m : Moment)
    {stage : Stage} (hstage : (scenario.stageForecast attempt stage).isSome = true) (hwaiting : stage ≠ .waiting) :
    (tryStep backend executor key attempt w m stage .advance).isSome = true := by
  unfold tryStep
  rw [Option.isSome_or, Option.isSome_map, Option.isSome_or, Bool.or_eq_true, Bool.or_eq_true]
  cases stage with
  | waiting => exact absurd rfl hwaiting
  | polling settled =>
    left
    unfold scanStep
    dsimp only
    split
    · split <;> rfl
    · split <;> rfl
    · rfl
    · rfl
  | storing found =>
    right; left
    unfold storeStep
    dsimp only
    split <;> rfl
  | adding loop =>
    right; left
    unfold storeStep
    dsimp only
    split <;> rfl
  | recording loop =>
    right; left
    unfold storeStep recordEvent
    dsimp only
    split <;> rfl
  | correlating loop rules pending =>
    right; left
    cases pending with
    | cons correlation pending =>
      unfold storeStep
      dsimp only
      split <;> rfl
    | nil =>
      cases rules with
      | cons rule rules =>
        unfold storeStep
        dsimp only
        split <;> rfl
      | nil => rfl
  | recordingCorrelation loop rules correlation pending =>
    right; left
    unfold storeStep recordEvent
    dsimp only
    split <;> rfl
  | succeeding count =>
    right; right
    unfold handlerStep
    dsimp only
    split <;> rfl
  | retrying code =>
    right; right
    unfold handlerStep
    dsimp only
    split <;> rfl
  | sleeping => exact .inr (.inr rfl)
  | failing timeout code message => exact .inr (.inr rfl)
  | stopping => cases hstage
  | abandoning => cases hstage
  | jobCancelled => cases hstage
  | asyncCancelled => cases hstage
  | cancellingAsync => cases hstage

/-- A run that is on course and has not ended can go on. -/
theorem OnCourse.exists_step {s : World × Run} (h : OnCourse backend scenario key s v forecast)
    (hlive : s.2.live = true) : ∃ progress, ∀ m, (scenario.step backend s (progress, m)).isSome = true := by
  obtain ⟨w, run⟩ := s
  have hget : backend.get w run.key = some v.record := get_of_view (h.job ▸ h.view)
  have hforecast := h.forecast
  cases hpc : run.pc with
  | start =>
    refine ⟨.goesOn, fun m => ?_⟩
    change (run.step backend w m .advance).isSome = true
    simp only [Run.step, Run.proceed, hpc, hget]
    split
    · rfl
    · split <;> rfl
  | unknownSource source =>
    rw [hpc] at hforecast
    cases hforecast
  | loopTop attempt =>
    refine ⟨.goesOn, fun m => ?_⟩
    change (run.step backend w m .advance).isSome = true
    simp only [Run.step, Run.proceed, hpc, hget]
    split
    · split <;> rfl
    · rfl
  | cancelling attempt =>
    rw [hpc] at hforecast
    cases hforecast
  | claiming attempt payload =>
    refine ⟨.goesOn, fun m => ?_⟩
    change (run.step backend w m .advance).isSome = true
    simp only [Run.step, Run.proceed, hpc]
    split <;> rfl
  | trying attempt stage =>
    rw [hpc] at hforecast
    by_cases hwaiting : stage = .waiting
    · refine ⟨.settles, fun m => ?_⟩
      subst hwaiting
      simp only [Scenario.step, event, hpc, Run.step, Run.proceed, Option.isSome_map]
      rfl
    · refine ⟨.goesOn, fun m => ?_⟩
      change (run.step backend w m .advance).isSome = true
      simp only [Run.step, Run.proceed, hpc, Option.isSome_map]
      exact isSome_tryStep run.executor run.key attempt w m (Option.isSome_of_eq_some hforecast) hwaiting
  | done ending =>
    rw [Run.live, hpc] at hlive
    cases hlive
  | dead =>
    rw [Run.live, hpc] at hlive
    cases hlive

end Scenario

/-- A job that has been created, and neither claimed nor cancelled. -/
structure JobView.Untouched (v : JobView) : Prop where
  undecided : v.record.Undecided 0 .queued
  entries : v.entries = [statusEntry .queued none none]

/-- A new job is untouched. -/
theorem JobView.untouched_created (key : JobKey) (source : FindingSource) (payload : Document)
    (idempotencyKey : Option String) (now : Instant) :
    (JobView.created key source payload idempotencyKey now).Untouched :=
  ⟨⟨rfl, rfl, rfl, rfl⟩, rfl⟩

namespace System

variable {backend : Backend World}

/-- Every job that is queued is untouched. -/
def QueuedUntouched (backend : Backend World) (s : System World) : Prop :=
  ∀ key v, backend.view s.world key = some v → v.record.status = .queued → v.Untouched

/-- A write that leaves a queued job untouched, or takes it out of the queue. -/
theorem QueuedUntouched.write {s s' : System World} (hs : QueuedUntouched backend s) {key : JobKey} {v' : JobView}
    (hview : backend.view s'.world = Function.update (backend.view s.world) key (some v'))
    (hwritten : v'.record.status = .queued → v'.Untouched) : QueuedUntouched backend s' := by
  intro other u hu hstatus
  rw [hview] at hu
  by_cases hother : other = key
  · rw [hother, Function.update_self, Option.some.injEq] at hu
    subst hu
    exact hwritten hstatus
  · rw [Function.update_of_ne hother] at hu
    exact hs other u hu hstatus

/-- A run writes nothing to a queued job that leaves it queued. -/
theorem QueuedUntouched.run {s : System World} (hs : QueuedUntouched backend s) (hcounted : Counted backend s)
    {run run' : Run} (hrun : run ∈ s.runs) {now : Instant} {event : RunEvent} {v v' : JobView}
    (hv : backend.view s.world run.key = some v) (hmove : run.Move now event v v' run')
    (hstatus : v'.record.status = .queued) : v'.Untouched := by
  cases hmove with
  | failUnknown => cases hstatus
  | cancel => cases hstatus
  | claim => cases hstatus
  | finish status resultCount errorCode errorMessage ending hpc hterminal =>
    change status = .queued at hstatus
    rw [hstatus] at hterminal
    cases hterminal
  | @work attempt stage stage' v' hpc hlog =>
    have hqueued : v.record.status = .queued := by
      rcases hlog with rfl | ⟨kind, -, payload, rfl⟩
      · exact hstatus
      · exact hstatus
    have hnone := hcounted.queued run.key v hv hqueued
    have hle := le_total Run.claims hrun rfl
    have hclaims := (hcounted.runs run hrun).position attempt (by rw [hpc]; rfl)
    have hpos := ((hcounted.runs run hrun).attempt attempt (by rw [hpc]; rfl)).1
    omega
  | crash => exact hs _ _ hv hstatus
  | skip => exact hs _ _ hv hstatus
  | abort => exact hs _ _ hv hstatus
  | accept => exact hs _ _ hv hstatus
  | reject => exact hs _ _ hv hstatus
  | stopAtTop => exact hs _ _ hv hstatus
  | cancelAtTop => exact hs _ _ hv hstatus
  | proceed => exact hs _ _ hv hstatus
  | refuse => exact hs _ _ hv hstatus
  | findTerminal => exact hs _ _ hv hstatus
  | retry => exact hs _ _ hv hstatus
  | abandonRetry => exact hs _ _ hv hstatus
  | loseRetry => exact hs _ _ hv hstatus

/-- Every step of the system leaves the queued jobs untouched. -/
theorem QueuedUntouched.move {s s' : System World} {label : Label} (hs : QueuedUntouched backend s)
    (hcounted : Counted backend s) (h : Move backend s label s') : QueuedUntouched backend s' := by
  cases h with
  | run _ hruns _ _ hv hview hmove =>
    exact hs.write hview (hs.run hcounted (by rw [hruns]; simp) hv hmove)
  | deliver _ _ _ hview => exact fun key v hv => hs key v (hview ▸ hv)
  | create _ hview => exact hs.write hview fun _ => JobView.untouched_created _ _ _ _ _
  | recordDispatch hv hview =>
    refine hs.write hview fun hstatus => ?_
    obtain ⟨⟨hattempt, -, hkept, hcount⟩, hentries⟩ := hs _ _ hv hstatus
    exact ⟨⟨hattempt, hstatus, hkept, hcount⟩, hentries⟩
  | failDispatch _ _ _ _ hview => exact hs.write hview fun hstatus => nomatch hstatus
  | @cancel key v _ hv hview =>
    refine hs.write hview fun hstatus => ?_
    unfold JobView.requestCancel at hstatus ⊢
    split at hstatus
    · next hterminal =>
      rw [if_pos hterminal]
      exact hs _ _ hv hstatus
    · exact absurd hstatus (cancelStatus_ne_queued _)
  | writeCancel _ _ _ hview => exact hs.write hview fun hstatus => absurd hstatus (cancelStatus_ne_queued _)
  | quiet hview => exact fun key v hv => hs key v (hview ▸ hv)

/-- Every queued job of a reachable system is untouched. -/
theorem reachable_queuedUntouched {products : List FindingSource} {schedule : List Label} {s : System World}
    (hrun : runSteps (step backend products) (initial backend) schedule = some s) : QueuedUntouched backend s := by
  refine (runSteps_invariant (fun s => WellFormed backend s ∧ Counted backend s ∧ QueuedUntouched backend s) ?_
    ⟨wellFormed_initial, counted_initial, ?_⟩ hrun).2.2
  · rintro s label s' ⟨hformed, hcounted, hs⟩ hstep
    have hmove := step_move hformed hstep
    exact ⟨step_wellFormed hformed hstep, hcounted.move hmove, hs.move hcounted hmove⟩
  · intro key v hv
    rw [initial, backend.view_empty] at hv
    cases hv

end System

/-- The undisturbed execution of a queued job, whatever its schedule: it takes a bounded number of steps apart
from polls, it can go on until it has ended, and in the end it has returned, the record of the job says what the
deciding attempt has given, and its log tells exactly the entries that the scenario specifies. -/
theorem undisturbed_execution {World : Type} (backend : Backend World) (products : List FindingSource)
    {schedule : List Label} {s : System World}
    (hreach : runSteps (System.step backend products) (System.initial backend) schedule = some s) {key : JobKey}
    {v : JobView} (hv : backend.view s.world key = some v) (hqueued : v.record.status = .queued)
    {scenario : Scenario} (hcore : scenario.core = backend.core)
    (hsource : v.record.source ∈ scenario.executor.products)
    (hreturning : Scenario.Returning scenario.executor.correlations)
    (hcancelled : ∀ attempt, scenario.outcome attempt ≠ .cancelled) {labels : List (Progress × Moment)}
    {s' : World × Run}
    (haccepted : GuardedAlong (scenario.step backend) (fun s label => scenario.Accepted backend s label.2)
      (s.world, Run.fresh scenario.executor key) labels)
    (hrun : runSteps (scenario.step backend) (s.world, Run.fresh scenario.executor key) labels = some s') :
    labels.length ≤ 4 + (scenario.attempting 1).steps + 2 * Scenario.polls labels ∧
    (s'.2.live = true → ∃ progress, ∀ m, (scenario.step backend s' (progress, m)).isSome = true) ∧
    (s'.2.live = false → s'.2.pc = .done .returned ∧ ∃ v', backend.view s'.1 key = some v' ∧
      v'.record.verdict = scenario.verdict ∧ v'.entries = scenario.entries) := by
  obtain ⟨hundecided, hcreated⟩ := System.reachable_queuedUntouched hreach key v hv hqueued
  have hstart : scenario.OnCourse backend key (s.world, Run.fresh scenario.executor key) v
      ((scenario.attempting 1).after [statusEntry .running none none] 4) :=
    ⟨hcore, hreturning, rfl, rfl, hv, ⟨hundecided, hsource⟩, rfl⟩
  obtain ⟨v', forecast', hcourse, hverdict, hentries, hsteps⟩ := hstart.runSteps hcancelled haccepted hrun
  obtain ⟨hone, htold⟩ := scenario.attempting_one
  refine ⟨?_, hcourse.exists_step, fun hended => ?_⟩
  · rw [Forecast.steps_after] at hsteps
    omega
  · have hforecast := hcourse.forecast
    cases hpc : s'.2.pc with
    | done ending =>
      rw [hpc] at hforecast
      cases ending with
      | returned =>
        cases hforecast
        refine ⟨rfl, v', hcourse.view, hverdict.trans hone, ?_⟩
        rw [hcreated, Forecast.entries_after, List.append_nil] at hentries
        exact hentries.trans htold
      | raised message => cases hforecast
      | cancelledError => cases hforecast
    | dead =>
      rw [hpc] at hforecast
      cases hforecast
    | start => simp [Run.live, hpc] at hended
    | unknownSource source => simp [Run.live, hpc] at hended
    | loopTop attempt => simp [Run.live, hpc] at hended
    | cancelling attempt => simp [Run.live, hpc] at hended
    | claiming attempt payload => simp [Run.live, hpc] at hended
    | trying attempt stage => simp [Run.live, hpc] at hended

/-- Whether a registry without findings holds none. -/
def decidableEmpty : ∀ found : Except String (List Finding), Decidable (found = .ok [])
  | .ok [] => isTrue rfl
  | .ok (_ :: _) => isFalse nofun
  | .error _ => isFalse nofun

/-- A rule that relates a finding to every earlier one. -/
def pairRule : CorrelationRule := fun finding existing =>
  .ok (existing.map fun other => ⟨"pair", [other.id, finding.id], .high, "seen together"⟩)

/-- A first attempt that times out, and a second one that finds two things. -/
def timedOutThenFound : Scenario where
  core := FindingDict.core
  executor := ⟨[.soc], [pairRule], 3, by decide⟩
  outcome attempt :=
    if attempt = 1 then .productError ⟨"ADAPTER_TIMEOUT", true, true, "slow"⟩
    else .findings [⟨"f1", .soc, .high, 1, "Open port", "", none, none, none, [], [], ∅, .obj []⟩,
      ⟨"f2", .soc, .low, 1, "Weak cipher", "", none, none, none, [], [], ∅, .obj []⟩]
  existing := []

/-- The worker polls once in the first attempt. -/
def polledOnce : List (Progress × Moment) :=
  let first : List Progress := [.goesOn, .goesOn, .goesOn, .polls, .goesOn, .settles]
  let second : List Progress := [.goesOn, .goesOn, .goesOn, .goesOn, .goesOn, .settles]
  (first ++ second ++ List.replicate 13 Progress.goesOn).map fun progress => (progress, ⟨0, "1"⟩)

/-- Whether the registry accepts a call of that execution. -/
instance decidableAcceptedAt (w : Database) (m : Moment) (key : JobKey) :
    ∀ pc, Decidable (timedOutThenFound.AcceptedAt FindingDict.backend w m key pc)
  | .trying _ (.storing _) => decidableEmpty (FindingDict.backend.findings w key.tenantId)
  | .trying _ (.adding loop) => inferInstanceAs (Decidable
    ((FindingDict.backend.addForJob w m key.tenantId loop.finding (some key.jobId)).2 = .ok ()))
  | .trying _ (.correlating _ _ (correlation :: _)) =>
    inferInstanceAs (Decidable ((FindingDict.backend.addCorrelation w m key.tenantId correlation).2 = .ok ()))
  | .trying _ (.correlating _ _ []) | .trying _ .waiting | .trying _ (.polling _) | .trying _ .stopping
  | .trying _ .abandoning | .trying _ (.recording _) | .trying _ (.recordingCorrelation _ _ _ _)
  | .trying _ (.succeeding _) | .trying _ .jobCancelled | .trying _ .asyncCancelled
  | .trying _ .cancellingAsync | .trying _ (.retrying _) | .trying _ .sleeping | .trying _ (.failing _ _ _)
  | .start | .unknownSource _ | .loopTop _ | .cancelling _ | .claiming _ _ | .done _ | .dead => isTrue trivial

/-- Whether the registry accepts the next call of that execution. -/
instance decidableAccepted (s : Database × Run) (m : Moment) :
    Decidable (timedOutThenFound.Accepted FindingDict.backend s m) := decidableAcceptedAt s.1 m s.2.key s.2.pc

set_option maxRecDepth 8000 in
/-- The theorem applies to that execution, which logs a retry, two findings and their correlation. -/
theorem undisturbed_execution_timedOutThenFound :
    ∃ s s', runSteps (System.step FindingDict.backend [.soc]) (System.initial FindingDict.backend)
        (publishScan 0 "tenant-a" .soc (.obj []) ⟨0, "1"⟩) = some s ∧
      runSteps (timedOutThenFound.step FindingDict.backend)
        (s.world, Run.fresh timedOutThenFound.executor ⟨"tenant-a", "job_1"⟩) polledOnce = some s' ∧
      s'.2.pc = .done .returned ∧ ∃ v', FindingDict.backend.view s'.1 ⟨"tenant-a", "job_1"⟩ = some v' ∧
        (v'.record.attempt, v'.record.status, v'.record.errorCode) = (2, .succeeded, none) ∧
        v'.entries.map Prod.fst =
          ["status", "status", "retrying", "status", "finding", "finding", "correlation", "status"] := by
  have hreach : ∃ s ∈ runSteps (System.step FindingDict.backend [.soc]) (System.initial FindingDict.backend)
      (publishScan 0 "tenant-a" .soc (.obj []) ⟨0, "1"⟩),
      (∃ v ∈ FindingDict.backend.view s.world ⟨"tenant-a", "job_1"⟩,
        v.record.status = .queued ∧ v.record.source = .soc) ∧
      GuardedAlong (timedOutThenFound.step FindingDict.backend)
        (fun s label => timedOutThenFound.Accepted FindingDict.backend s label.2)
        (s.world, Run.fresh timedOutThenFound.executor ⟨"tenant-a", "job_1"⟩) polledOnce ∧
      ∃ s' ∈ runSteps (timedOutThenFound.step FindingDict.backend)
        (s.world, Run.fresh timedOutThenFound.executor ⟨"tenant-a", "job_1"⟩) polledOnce,
        s'.2.live = false := by decide +kernel
  obtain ⟨s, hs, ⟨v, hv, hqueued, hsource⟩, haccepted, s', hs', hended⟩ := hreach
  have hreturning : Scenario.Returning timedOutThenFound.executor.correlations := by
    intro rule hrule finding existing
    rw [List.mem_singleton.mp hrule]
    exact ⟨_, rfl⟩
  have hcancelled : ∀ attempt, timedOutThenFound.outcome attempt ≠ .cancelled := by
    intro attempt
    change (if attempt = 1 then _ else _) ≠ _
    split
    · nofun
    · nofun
  obtain ⟨-, -, hends⟩ := undisturbed_execution FindingDict.backend [.soc] hs hv hqueued
    (show timedOutThenFound.core = FindingDict.backend.core from rfl)
    (by rw [hsource]; exact List.mem_singleton_self _) hreturning hcancelled haccepted hs'
  obtain ⟨hpc, v', hv', hverdict, hentries⟩ := hends hended
  refine ⟨s, s', hs, hs', hpc, v', hv', ?_, by rw [hentries]; decide⟩
  have hattempt := congrArg Verdict.attempt hverdict
  have hstatus := congrArg Verdict.status hverdict
  have hcode := congrArg Verdict.errorCode hverdict
  exact Prod.ext hattempt (Prod.ext hstatus hcode)

/-- The finding that a run is about to store. -/
def Pc.added : Pc → Option Finding
  | .trying _ (.adding loop) => some loop.finding
  | _ => none

/-- A rule that names the new finding twice, and a single attempt that finds one thing. -/
def namedTwice : Scenario where
  core := FindingDict.core
  executor := ⟨[.soc], [fun finding _ => .ok [⟨"twice", [finding.id, finding.id], .high, "seen twice"⟩]], 1,
    Nat.le_refl 1⟩
  outcome _ := .findings [⟨"f1", .soc, .high, 1, "Open port", "", none, none, none, [], [], ∅, .obj []⟩]
  existing := []

/-- The single attempt of the worker, until the job has ended. -/
def settledAtOnce : List (Progress × Moment) :=
  ([Progress.goesOn, .goesOn, .goesOn, .settles] ++ List.replicate 7 Progress.goesOn).map fun progress =>
    (progress, ⟨0, "1"⟩)

set_option maxRecDepth 8000 in
/-- A registry that accepts every finding may still refuse a correlation; the job then fails, although the
attempt that decides has succeeded. -/
theorem undisturbed_execution_correlationRefused :
    ∃ s ∈ runSteps (System.step FindingDict.backend [.soc]) (System.initial FindingDict.backend)
        (publishScan 0 "tenant-a" .soc (.obj []) ⟨0, "1"⟩),
      GuardedAlong (namedTwice.step FindingDict.backend)
        (fun s label => ∀ finding ∈ s.2.pc.added,
          (FindingDict.backend.addForJob s.1 label.2 "tenant-a" finding (some "job_1")).2 = .ok ())
        (s.world, Run.fresh namedTwice.executor ⟨"tenant-a", "job_1"⟩) settledAtOnce ∧
      ∃ s' ∈ runSteps (namedTwice.step FindingDict.backend)
          (s.world, Run.fresh namedTwice.executor ⟨"tenant-a", "job_1"⟩) settledAtOnce,
        s'.2.pc = .done .returned ∧ ∃ v' ∈ FindingDict.backend.view s'.1 ⟨"tenant-a", "job_1"⟩,
          (v'.record.status, v'.record.errorCode) = (.failed, some "INTERNAL_ERROR") ∧
          v'.entries.map Prod.fst = ["status", "status", "finding", "status"] ∧
          namedTwice.verdict.status = .succeeded := by
  decide +kernel

end SharedIntegration

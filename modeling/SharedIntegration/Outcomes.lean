import SharedIntegration.Execution

/-!
# The outcome of an undisturbed execution

A scenario fixes what each attempt of the adapter gives and what the registry holds when the results are
stored. It determines how the job ends and what its log tells. At each position of `execute` the scenario
forecasts the rest: how the job will end, what will still be logged, and in how many steps.
-/

namespace SharedIntegration

/-- The kind and the payload of an event. -/
abbrev LogEntry := String × Document

/-- What the log of a job tells, without numbers and times. -/
def JobView.entries (v : JobView) : List LogEntry := v.log.map fun event => (event.kind, event.payload)

/-- The entry of a status event. -/
def statusEntry (status : JobStatus) (errorCode errorMessage : Option String) : LogEntry :=
  ("status", statusPayload status errorCode errorMessage)

/-- What the record of a job says about its last attempt. -/
structure Verdict where
  attempt : ℕ
  status : JobStatus
  errorCode : Option String
  errorMessage : Option String
  resultCount : ℕ

/-- What a record says about its last attempt. -/
def JobRecord.verdict (record : JobRecord) : Verdict :=
  ⟨record.attempt, record.status, record.errorCode, record.errorMessage, record.resultCount⟩

/-- The entry of the status event that tells a verdict. -/
def Verdict.entry (verdict : Verdict) : LogEntry := statusEntry verdict.status verdict.errorCode verdict.errorMessage

namespace ScanOutcome

/-- The attempt may be repeated. -/
def retryable : ScanOutcome → Bool
  | .productError error => error.retryable
  | .findings _ | .otherError _ | .cancelled => false

/-- How a job ends if this is the outcome of its last attempt. -/
def verdict (attempt : ℕ) : ScanOutcome → Verdict
  | .findings found => ⟨attempt, .succeeded, none, none, found.length⟩
  | .productError error =>
    ⟨attempt, if error.timeout then .timedOut else .failed, some error.code, some error.message, 0⟩
  | .otherError message => ⟨attempt, .failed, some "INTERNAL_ERROR", some message, 0⟩
  | .cancelled => ⟨attempt, .cancelled, none, none, 0⟩

end ScanOutcome

/-- What the adapter gives in each attempt, and the findings that the registry holds when the results of the
last attempt are stored. -/
structure Scenario where
  core : CoreLibrary
  executor : JobExecutor
  outcome : ℕ → ScanOutcome
  existing : List Finding

/-- The correlations that a rule returns. -/
def correlated (rule : CorrelationRule) (finding : Finding) (existing : List Finding) : List Correlation :=
  match rule finding existing with
  | .ok found => found
  | .error _ => []

/-- How the job will end, what will still be logged, and the number of steps that this takes. -/
structure Forecast where
  verdict : Verdict
  entries : List LogEntry
  steps : ℕ

namespace Forecast

/-- Steps that log some entries come first. -/
def after (forecast : Forecast) (entries : List LogEntry) (steps : ℕ) : Forecast :=
  ⟨forecast.verdict, entries ++ forecast.entries, steps + forecast.steps⟩

/-- Only the final status is left to be written. -/
def ending (verdict : Verdict) : Forecast := ⟨verdict, [verdict.entry], 1⟩

@[simp] theorem verdict_after (forecast : Forecast) (entries : List LogEntry) (steps : ℕ) :
    (forecast.after entries steps).verdict = forecast.verdict := rfl

@[simp] theorem entries_after (forecast : Forecast) (entries : List LogEntry) (steps : ℕ) :
    (forecast.after entries steps).entries = entries ++ forecast.entries := rfl

@[simp] theorem steps_after (forecast : Forecast) (entries : List LogEntry) (steps : ℕ) :
    (forecast.after entries steps).steps = steps + forecast.steps := rfl

/-- A step before steps that log some entries. -/
theorem after_two (forecast : Forecast) (entries : List LogEntry) :
    forecast.after entries 2 = (forecast.after entries 1).after [] 1 := by
  have hsteps : 2 + forecast.steps = 1 + (1 + forecast.steps) := by omega
  rw [after, after, after, hsteps]
  rfl

end Forecast

namespace Scenario

variable (scenario : Scenario)

/-- The entry of a finding event. -/
def findingEntry (finding : Finding) : LogEntry := ("finding", scenario.core.toDict finding)

/-- The entry of a correlation event. -/
def correlationEntry (correlation : Correlation) : LogEntry :=
  ("correlation", correlationPayload scenario.core correlation)

/-- The entry of a retry event. -/
def retryEntry (attempt : ℕ) (code : String) : LogEntry := ("retrying", retryPayload attempt code)

/-- What is logged between an attempt and the next one. -/
def retryEntries (attempt : ℕ) : List LogEntry :=
  match scenario.outcome attempt with
  | .productError error => [retryEntry attempt error.code, statusEntry .running none none]
  | .findings _ | .otherError _ | .cancelled => []

/-- What is logged for findings: each one, followed by its correlations. -/
def resultEntries (existing : List Finding) : List Finding → List LogEntry
  | [] => []
  | finding :: rest =>
    scenario.findingEntry finding ::
      (scenario.executor.correlations.flatMap fun rule =>
        (correlated rule finding existing).map scenario.correlationEntry) ++
      resultEntries (existing ++ [finding]) rest

/-- What is logged for the outcome of the last attempt, before the final status. -/
def outcomeEntries : ScanOutcome → List LogEntry
  | .findings found => scenario.resultEntries scenario.existing found
  | .productError _ | .otherError _ | .cancelled => []

/-- The first attempt that is not to be repeated, or the last one that is made. -/
def decidingAttempt : ℕ :=
  ((List.range' 1 scenario.executor.maxAttempts).find? fun attempt =>
    !(scenario.outcome attempt).retryable).getD scenario.executor.maxAttempts

/-- How the job ends. -/
def verdict : Verdict := (scenario.outcome scenario.decidingAttempt).verdict scenario.decidingAttempt

/-- What the log of the job tells in the end. -/
def entries : List LogEntry :=
  [statusEntry .queued none none, statusEntry .running none none] ++
    (List.range' 1 (scenario.decidingAttempt - 1)).flatMap scenario.retryEntries ++
    scenario.outcomeEntries (scenario.outcome scenario.decidingAttempt) ++ [scenario.verdict.entry]

/-- Some correlations are left to be stored. -/
def pending (next : Forecast) : List Correlation → Forecast
  | [] => next
  | correlation :: rest => (pending next rest).after [scenario.correlationEntry correlation] 2

/-- Some rules are left to be asked. -/
def relating (finding : Finding) (existing : List Finding) (next : Forecast) : List CorrelationRule → Forecast
  | [] => next.after [] 1
  | rule :: rules =>
    (scenario.pending (relating finding existing next rules) (correlated rule finding existing)).after [] 1

/-- Some findings are left to be stored. -/
def storing (verdict : Verdict) (existing : List Finding) : List Finding → Forecast
  | [] => .ending verdict
  | finding :: rest =>
    (scenario.relating finding existing (storing verdict (existing ++ [finding]) rest)
      scenario.executor.correlations).after [scenario.findingEntry finding] 2

/-- The last attempt has its outcome. -/
def concluding (attempt : ℕ) : ScanOutcome → Forecast
  | .findings found =>
    (scenario.storing (ScanOutcome.verdict attempt (.findings found)) scenario.existing found).after [] 1
  | .productError error => .ending (ScanOutcome.verdict attempt (.productError error))
  | .otherError message => .ending (ScanOutcome.verdict attempt (.otherError message))
  | .cancelled => .ending (ScanOutcome.verdict attempt .cancelled)

/-- An attempt has its outcome, and some attempts may follow. -/
def settled (attempt : ℕ) : ℕ → Forecast
  | 0 => (scenario.concluding attempt (scenario.outcome attempt)).after [] 1
  | left + 1 =>
    if (scenario.outcome attempt).retryable then
      (settled (attempt + 1) left).after (scenario.retryEntries attempt) 6
    else (scenario.concluding attempt (scenario.outcome attempt)).after [] 1

/-- An attempt has its outcome. -/
def attempting (attempt : ℕ) : Forecast :=
  scenario.settled attempt (scenario.executor.maxAttempts - attempt)

/-- The forecast inside an attempt. -/
def stageForecast (attempt : ℕ) : Stage → Option Forecast
  | .waiting => some ((scenario.attempting attempt).after [] 1)
  | .polling none => some ((scenario.attempting attempt).after [] 2)
  | .polling (some _) => some (scenario.attempting attempt)
  | .storing found =>
    some ((scenario.storing (ScanOutcome.verdict attempt (.findings found)) scenario.existing found).after [] 1)
  | .adding loop =>
    some (scenario.storing ⟨attempt, .succeeded, none, none, loop.count⟩ loop.existing (loop.finding :: loop.rest))
  | .recording loop =>
    some ((scenario.relating loop.finding loop.existing
      (scenario.storing ⟨attempt, .succeeded, none, none, loop.count⟩ (loop.existing ++ [loop.finding]) loop.rest)
      scenario.executor.correlations).after [scenario.findingEntry loop.finding] 1)
  | .correlating loop rules pending =>
    some (scenario.pending (scenario.relating loop.finding loop.existing
      (scenario.storing ⟨attempt, .succeeded, none, none, loop.count⟩ (loop.existing ++ [loop.finding]) loop.rest)
      rules) pending)
  | .recordingCorrelation loop rules correlation pending =>
    some ((scenario.pending (scenario.relating loop.finding loop.existing
      (scenario.storing ⟨attempt, .succeeded, none, none, loop.count⟩ (loop.existing ++ [loop.finding]) loop.rest)
      rules) pending).after [scenario.correlationEntry correlation] 1)
  | .succeeding count => some (.ending ⟨attempt, .succeeded, none, none, count⟩)
  | .retrying code =>
    some ((scenario.attempting (attempt + 1)).after [retryEntry attempt code, statusEntry .running none none] 5)
  | .sleeping => some ((scenario.attempting (attempt + 1)).after [statusEntry .running none none] 4)
  | .failing timeout code message =>
    some (.ending ⟨attempt, if timeout then .timedOut else .failed, some code, some message, 0⟩)
  | .stopping | .abandoning | .jobCancelled | .asyncCancelled | .cancellingAsync => none

/-- The forecast at a position; a disturbed run has none. -/
def forecast (record : JobRecord) : Pc → Option Forecast
  | .start => some ((scenario.attempting 1).after [statusEntry .running none none] 4)
  | .loopTop attempt => some ((scenario.attempting attempt).after [statusEntry .running none none] 3)
  | .claiming attempt _ => some ((scenario.attempting attempt).after [statusEntry .running none none] 2)
  | .trying attempt stage => scenario.stageForecast attempt stage
  | .done .returned => some ⟨record.verdict, [], 0⟩
  | .unknownSource _ | .cancelling _ | .done (.raised _) | .done .cancelledError | .dead => none

/-- The entries of pending correlations come first. -/
theorem entries_pending (next : Forecast) (correlations : List Correlation) :
    (scenario.pending next correlations).entries =
      correlations.map scenario.correlationEntry ++ next.entries := by
  induction correlations with
  | nil => rfl
  | cons correlation rest ih =>
    rw [pending, Forecast.entries_after, ih]
    rfl

/-- Pending correlations do not change how the job ends. -/
theorem verdict_pending (next : Forecast) (correlations : List Correlation) :
    (scenario.pending next correlations).verdict = next.verdict := by
  induction correlations with
  | nil => rfl
  | cons correlation rest ih => exact ih

/-- The rules are asked one after another. -/
theorem entries_relating (finding : Finding) (existing : List Finding) (next : Forecast)
    (rules : List CorrelationRule) :
    (scenario.relating finding existing next rules).entries =
      (rules.flatMap fun rule => (correlated rule finding existing).map scenario.correlationEntry) ++
        next.entries := by
  induction rules with
  | nil => rfl
  | cons rule rules ih =>
    rw [relating, Forecast.entries_after, entries_pending, ih, List.flatMap_cons, List.append_assoc]
    rfl

/-- Rules do not change how the job ends. -/
theorem verdict_relating (finding : Finding) (existing : List Finding) (next : Forecast)
    (rules : List CorrelationRule) :
    (scenario.relating finding existing next rules).verdict = next.verdict := by
  induction rules with
  | nil => rfl
  | cons rule rules ih => exact (scenario.verdict_pending _ _).trans ih

/-- The findings are stored one after another, and then the status is written. -/
theorem entries_storing (verdict : Verdict) (existing found : List Finding) :
    (scenario.storing verdict existing found).entries =
      scenario.resultEntries existing found ++ [verdict.entry] := by
  induction found generalizing existing with
  | nil => rfl
  | cons finding rest ih =>
    rw [storing, Forecast.entries_after, entries_relating, ih, resultEntries]
    simp

/-- Findings do not change how the job ends. -/
theorem verdict_storing (verdict : Verdict) (existing found : List Finding) :
    (scenario.storing verdict existing found).verdict = verdict := by
  induction found generalizing existing with
  | nil => rfl
  | cons finding rest ih =>
    rw [storing, Forecast.verdict_after, verdict_relating]
    exact ih _

/-- The outcome of the last attempt is logged, and then the status. -/
theorem entries_concluding (attempt : ℕ) (outcome : ScanOutcome) :
    (scenario.concluding attempt outcome).entries =
      scenario.outcomeEntries outcome ++ [(outcome.verdict attempt).entry] := by
  cases outcome with
  | findings found => exact scenario.entries_storing _ _ _
  | productError error => rfl
  | otherError message => rfl
  | cancelled => rfl

/-- The outcome of the last attempt determines how the job ends. -/
theorem verdict_concluding (attempt : ℕ) (outcome : ScanOutcome) :
    (scenario.concluding attempt outcome).verdict = outcome.verdict attempt := by
  cases outcome with
  | findings found => exact scenario.verdict_storing _ _ _
  | productError error => rfl
  | otherError message => rfl
  | cancelled => rfl

/-- The first attempt from one on that is not to be repeated, or the last one. -/
def decidingFrom (attempt left : ℕ) : ℕ :=
  ((List.range' attempt (left + 1)).find? fun other => !(scenario.outcome other).retryable).getD (attempt + left)

/-- An attempt that is not to be repeated decides. -/
theorem decidingFrom_of_not_retryable {attempt : ℕ} (left : ℕ)
    (h : (scenario.outcome attempt).retryable = false) : scenario.decidingFrom attempt left = attempt := by
  rw [decidingFrom, List.range'_succ, List.find?_cons_of_pos (by rw [h]; rfl)]
  rfl

/-- An attempt that is to be repeated leaves the decision to the next ones. -/
theorem decidingFrom_succ {attempt : ℕ} (left : ℕ) (h : (scenario.outcome attempt).retryable = true) :
    scenario.decidingFrom attempt (left + 1) = scenario.decidingFrom (attempt + 1) left := by
  have hlast : attempt + (left + 1) = attempt + 1 + left := by omega
  rw [decidingFrom, List.range'_succ, List.find?_cons_of_neg (by rw [h]; decide), hlast]
  rfl

/-- The last attempt decides. -/
theorem decidingFrom_zero (attempt : ℕ) : scenario.decidingFrom attempt 0 = attempt := by
  rw [decidingFrom, List.range'_succ, List.range'_zero, List.find?_cons]
  split
  · rfl
  · rfl

/-- The deciding attempt is not before the first one. -/
theorem le_decidingFrom (attempt left : ℕ) : attempt ≤ scenario.decidingFrom attempt left := by
  induction left generalizing attempt with
  | zero => exact (scenario.decidingFrom_zero attempt).ge
  | succ left ih =>
    cases hretry : (scenario.outcome attempt).retryable with
    | false => exact (scenario.decidingFrom_of_not_retryable _ hretry).ge
    | true =>
      have hle := ih (attempt + 1)
      rw [decidingFrom_succ _ _ hretry]
      omega

/-- The attempts up to the deciding one are repeated, and its outcome is the last one. -/
theorem settled_eq (attempt left : ℕ) :
    (scenario.settled attempt left).verdict =
        (scenario.outcome (scenario.decidingFrom attempt left)).verdict (scenario.decidingFrom attempt left) ∧
      (scenario.settled attempt left).entries =
        (List.range' attempt (scenario.decidingFrom attempt left - attempt)).flatMap scenario.retryEntries ++
          scenario.outcomeEntries (scenario.outcome (scenario.decidingFrom attempt left)) ++
          [((scenario.outcome (scenario.decidingFrom attempt left)).verdict
            (scenario.decidingFrom attempt left)).entry] := by
  induction left generalizing attempt with
  | zero =>
    rw [decidingFrom_zero, Nat.sub_self]
    exact ⟨scenario.verdict_concluding _ _, scenario.entries_concluding _ _⟩
  | succ left ih =>
    rw [settled]
    cases hretry : (scenario.outcome attempt).retryable with
    | false =>
      rw [if_neg Bool.false_ne_true, decidingFrom_of_not_retryable _ _ hretry, Nat.sub_self]
      exact ⟨scenario.verdict_concluding _ _, scenario.entries_concluding _ _⟩
    | true =>
      obtain ⟨hverdict, hentries⟩ := ih (attempt + 1)
      have hle := scenario.le_decidingFrom (attempt + 1) left
      have hcount : scenario.decidingFrom (attempt + 1) left - attempt =
          scenario.decidingFrom (attempt + 1) left - (attempt + 1) + 1 := by omega
      rw [if_pos rfl, decidingFrom_succ _ _ hretry, hcount, List.range'_succ, List.flatMap_cons]
      refine ⟨hverdict, ?_⟩
      rw [Forecast.entries_after, hentries, List.append_assoc, List.append_assoc, List.append_assoc]

/-- The forecast of the first attempt is how the job ends and what its log tells from then on. -/
theorem attempting_one :
    (scenario.attempting 1).verdict = scenario.verdict ∧
      [statusEntry .queued none none, statusEntry .running none none] ++ (scenario.attempting 1).entries =
        scenario.entries := by
  have hpos := scenario.executor.maxAttempts_pos
  have hcount : scenario.executor.maxAttempts - 1 + 1 = scenario.executor.maxAttempts := by omega
  have hlast : 1 + (scenario.executor.maxAttempts - 1) = scenario.executor.maxAttempts := by omega
  have hdeciding : scenario.decidingFrom 1 (scenario.executor.maxAttempts - 1) = scenario.decidingAttempt := by
    rw [decidingFrom, hcount, hlast]
    rfl
  obtain ⟨hverdict, hentries⟩ := scenario.settled_eq 1 (scenario.executor.maxAttempts - 1)
  rw [hdeciding] at hverdict hentries
  refine ⟨hverdict, ?_⟩
  rw [attempting, hentries, entries, List.append_assoc, List.append_assoc]
  simp only [List.append_assoc]
  rfl

end Scenario

end SharedIntegration

import SharedIntegration.Cancellation

/-!
# Results are recorded once

Every attempt first collects all findings of its scan and only then stores them, one registry
call and one event each. Because a single run claims a job, what has been stored at any moment
is the prefix of one scan that the position of that run tells; the invariant is stated over the
calls made so far, and a success is reached only at its end.
-/

namespace SharedIntegration

open Transition

/-- How the iteration over `adapter.scan(payload)` ends. -/
inductive ScanEnding
  | exhausted
  | productError (error : ProductCLIError)
  | otherError (message : String)
  | cancelled

/-- One iteration over `adapter.scan(payload)`: what it yields, and how it ends. -/
structure AdapterScan where
  yielded : List Finding
  ending : ScanEnding

/-- `collect`: a comprehension whose iteration raises keeps nothing of what it yielded. -/
def collect (scan : AdapterScan) : ScanOutcome :=
  match scan.ending with
  | .exhausted => .findings scan.yielded
  | .productError error => .productError error
  | .otherError message => .otherError message
  | .cancelled => .cancelled

/-- Findings come from iterations that were exhausted. -/
theorem collect_eq_findings {scan : AdapterScan} {found : List Finding}
    (h : collect scan = .findings found) : scan.ending = .exhausted := by
  unfold collect at h
  split at h
  · next hending => exact hending
  all_goals cases h

/-- The loop is at the finding behind those already handled, in the last scan of the job. -/
structure StoreLoop.At (loop : StoreLoop) (outcomes : List ScanOutcome) (handled : List Finding) :
    Prop where
  scan : outcomes.getLast? = some (.findings (handled ++ loop.finding :: loop.rest))
  count : loop.count = (handled ++ loop.finding :: loop.rest).length

section Positions

variable (core : CoreLibrary) (outcomes : List ScanOutcome) (added : List Finding) (filed : List Document)

/-- What the scans, the registry calls and the finding events of a job are when its run is at this
stage. -/
def Stage.Filed : Stage → Prop
  | .polling (some outcome) => added = [] ∧ filed = [] ∧ outcomes.getLast? = some outcome
  | .storing found => added = [] ∧ filed = [] ∧ outcomes.getLast? = some (.findings found)
  | .adding loop => ∃ handled, loop.At outcomes handled ∧ added = handled ∧ filed = handled.map core.toDict
  | .recording loop => ∃ handled, loop.At outcomes handled ∧ added = handled ++ [loop.finding] ∧
      filed = handled.map core.toDict
  | .correlating loop _ _ | .recordingCorrelation loop _ _ _ => ∃ handled, loop.At outcomes handled ∧
      added = handled ++ [loop.finding] ∧ filed = (handled ++ [loop.finding]).map core.toDict
  | .succeeding count => ∃ found, outcomes.getLast? = some (.findings found) ∧ count = found.length ∧
      added = found ∧ filed = found.map core.toDict
  | .waiting | .polling none | .stopping | .abandoning | .retrying _ | .sleeping => added = [] ∧ filed = []
  | .jobCancelled | .asyncCancelled | .cancellingAsync | .failing _ _ _ => True

/-- The same at a position of `execute`. -/
def Pc.Filed : Pc → Prop
  | .trying _ stage => stage.Filed core outcomes added filed
  | .start | .unknownSource _ | .loopTop _ | .cancelling _ | .claiming _ _ => added = [] ∧ filed = []
  | .done _ | .dead => True

/-- Whatever was stored belongs to a scan that had findings. -/
def Founded : Prop := (added = [] ∧ filed = []) ∨ ∃ found, ScanOutcome.findings found ∈ outcomes

variable {core outcomes added filed}

/-- Before storing, nothing is stored. -/
theorem Pc.Filed.before {pc : Pc} (h : pc.Filed core outcomes added filed) (hbefore : pc.phase = .before) :
    added = [] ∧ filed = [] := by
  cases pc with
  | trying attempt stage =>
    cases stage with
    | polling settled =>
      cases settled with
      | none => exact h
      | some outcome => exact ⟨h.1, h.2.1⟩
    | waiting | stopping | abandoning | retrying | sleeping => exact h
    | _ => cases hbefore
  | start | unknownSource | loopTop | cancelling | claiming => exact h
  | _ => cases hbefore

/-- A position before storing asks for nothing else, unless a scan has just settled. -/
theorem Pc.filed_of_before {pc : Pc} (hbefore : pc.phase = .before) (hsettled : pc.settled = none)
    (h : added = [] ∧ filed = []) : pc.Filed core outcomes added filed := by
  cases pc with
  | trying attempt stage =>
    cases stage with
    | polling settled =>
      cases hsettled
      exact h
    | waiting | stopping | abandoning | retrying | sleeping => exact h
    | _ => cases hbefore
  | start | unknownSource | loopTop | cancelling | claiming => exact h
  | _ => cases hbefore

/-- A position at the end asks for nothing. -/
theorem Pc.filed_of_over {pc : Pc} (hover : pc.phase = .over) : pc.Filed core outcomes added filed := by
  cases pc with
  | trying attempt stage => cases stage <;> first | exact True.intro | cases hover
  | done | dead => exact True.intro
  | _ => cases hover

/-- While storing, the last scan of the job had findings. -/
theorem Pc.Filed.storing {pc : Pc} (h : pc.Filed core outcomes added filed) (hstoring : pc.phase = .storing) :
    ∃ found, ScanOutcome.findings found ∈ outcomes := by
  cases pc with
  | trying attempt stage =>
    cases stage with
    | storing found => exact ⟨found, List.mem_of_getLast? h.2.2⟩
    | adding loop | recording loop | correlating loop | recordingCorrelation loop =>
      obtain ⟨handled, hat, -⟩ := h
      exact ⟨_, List.mem_of_getLast? hat.scan⟩
    | succeeding count =>
      obtain ⟨found, hlast, -⟩ := h
      exact ⟨found, List.mem_of_getLast? hlast⟩
    | _ => cases hstoring
  | _ => cases hstoring

/-- The head of the loop, in front of the findings that are left. -/
theorem storeNext_filed {existing handled rest : List Finding} {attempt count : ℕ}
    (hscan : outcomes.getLast? = some (.findings (handled ++ rest)))
    (hcount : count = (handled ++ rest).length) (hadded : added = handled)
    (hfiled : filed = handled.map core.toDict) :
    (Pc.trying attempt (storeNext existing count rest)).Filed core outcomes added filed := by
  cases rest with
  | nil =>
    rw [List.append_nil] at hscan hcount
    exact ⟨handled, hscan, hcount, hadded, hfiled⟩
  | cons finding rest => exact ⟨handled, ⟨hscan, hcount⟩, hadded, hfiled⟩

end Positions

/-- The calls of a run belong to its own job. -/
theorem Run.effects_other {run : Run} {key : JobKey} (event : RunEvent) (h : run.key ≠ key) :
    (run.effects event).filterMap (Effect.outcomeOf key) = [] ∧
      (run.effects event).filterMap (Effect.findingOf key) = [] := by
  unfold Run.effects
  split <;> simp [Effect.outcomeOf, Effect.findingOf, h]

/-- A run that has ended, or has not begun to scan, calls nothing. -/
theorem Run.effects_idle {run : Run} (event : RunEvent) (h : ∀ attempt stage, run.pc ≠ .trying attempt stage) :
    run.effects event = [] := by
  unfold Run.effects
  split
  · next hpc => exact absurd hpc (h _ _)
  · next hpc => exact absurd hpc (h _ _)
  · next hpc => exact absurd hpc (h _ _)
  · next hpc => exact absurd hpc (h _ _)
  · next hpc => exact absurd hpc (h _ _)
  · rfl

/-- Every step of the run of a job keeps what its position tells. -/
theorem Run.Filing.filed {core : CoreLibrary} {run run' : Run} {event : RunEvent} {v : JobView}
    {appended : List Document} {outcomes : List ScanOutcome} {added : List Finding} {filed : List Document}
    (h : run.Filing core event v run' appended) (hrun : run.pc.Filed core outcomes added filed) :
    run'.pc.Filed core (outcomes ++ (run.effects event).filterMap (Effect.outcomeOf run.key))
      (added ++ (run.effects event).filterMap (Effect.findingOf run.key)) (filed ++ appended) := by
  cases h with
  | outside hbefore hafter hsettled =>
    have hnothing := (Run.effects_registry event fun (_ : run.key = run.key) => by rw [hbefore]; exact nofun).1
    rw [hnothing, List.append_nil, List.append_nil]
    exact Pc.filed_of_before hafter hsettled (hrun.before hbefore)
  | settle hpc hevent hpc' =>
    rw [hpc] at hrun
    rw [hpc']
    simpa [Run.effects, hpc, hevent, Effect.outcomeOf, Effect.findingOf, Pc.Filed, Stage.Filed] using hrun
  | accept hpc hevent hflag hpc' =>
    rw [hpc] at hrun
    rw [hpc']
    simpa [Run.effects, hpc, hevent, Pc.Filed, Stage.Filed] using hrun
  | leave hover => exact Pc.filed_of_over hover
  | @load attempt found existing hpc hpc' =>
    rw [hpc] at hrun
    obtain ⟨hadded, hfiled, hlast⟩ := hrun
    rw [hpc']
    have hnext := @storeNext_filed core outcomes added filed existing [] found attempt found.length hlast rfl
      hadded hfiled
    simpa [Run.effects, hpc] using hnext
  | add hpc hevent hpc' =>
    rw [hpc] at hrun
    obtain ⟨handled, hat, hadded, hfiled⟩ := hrun
    rw [hpc']
    refine ⟨handled, ?_, ?_, ?_⟩
    · simpa [Run.effects, hpc, hevent, List.filterMap_cons, Effect.outcomeOf] using hat
    · simp [Run.effects, hpc, hevent, Effect.findingOf, hadded]
    · rw [List.append_nil, hfiled]
  | record hpc hpc' =>
    rw [hpc] at hrun
    obtain ⟨handled, hat, hadded, hfiled⟩ := hrun
    rw [hpc']
    refine ⟨handled, ?_, ?_, ?_⟩
    · simpa [Run.effects, hpc] using hat
    · simp [Run.effects, hpc, hadded]
    · rw [hfiled, List.map_append, List.map_singleton]
  | evaluate hpc hpc' =>
    rw [hpc] at hrun
    rw [hpc']
    simpa [Run.effects, hpc, Pc.Filed, Stage.Filed] using hrun
  | correlate hpc hevent hpc' =>
    rw [hpc] at hrun
    rw [hpc']
    simpa [Run.effects, hpc, hevent, List.filterMap_cons, Effect.outcomeOf, Effect.findingOf, Pc.Filed,
      Stage.Filed] using hrun
  | recordCorrelation hpc hpc' =>
    rw [hpc] at hrun
    rw [hpc']
    simpa [Run.effects, hpc, Pc.Filed, Stage.Filed] using hrun
  | @next attempt loop hpc hpc' =>
    rw [hpc] at hrun
    obtain ⟨handled, hat, hadded, hfiled⟩ := hrun
    have hsplit : handled ++ loop.finding :: loop.rest = handled ++ [loop.finding] ++ loop.rest := by
      rw [List.append_assoc, List.singleton_append]
    have hnext : (Pc.trying attempt (storeNext (loop.existing ++ [loop.finding]) loop.count loop.rest)).Filed
        core outcomes added filed :=
      storeNext_filed (hsplit ▸ hat.scan) (hsplit ▸ hat.count) hadded hfiled
    rw [hpc']
    simpa [Run.effects, hpc] using hnext

/-- A step stores something only while storing. -/
theorem Run.Filing.founded {core : CoreLibrary} {run run' : Run} {event : RunEvent} {v : JobView}
    {appended : List Document} {outcomes : List ScanOutcome} {added : List Finding} {filed : List Document}
    (h : run.Filing core event v run' appended) (hrun : run.pc.Filed core outcomes added filed)
    (hfounded : Founded outcomes added filed) :
    Founded (outcomes ++ (run.effects event).filterMap (Effect.outcomeOf run.key))
      (added ++ (run.effects event).filterMap (Effect.findingOf run.key)) (filed ++ appended) := by
  have hgrow : ∀ more : List ScanOutcome, (∃ found, ScanOutcome.findings found ∈ outcomes) →
      ∃ found, ScanOutcome.findings found ∈ outcomes ++ more := by
    rintro more ⟨found, hfound⟩
    exact ⟨found, List.mem_append_left more hfound⟩
  by_cases hstoring : run.pc.phase = .storing
  · exact .inr (hgrow _ (hrun.storing hstoring))
  · rcases hfounded with ⟨hadded, hfiled⟩ | hfound
    · have hnothing := (Run.effects_registry event fun (_ : run.key = run.key) => hstoring).1
      have happended : appended = [] := by
        cases h with
        | record hpc => exact absurd (by rw [hpc]; rfl) hstoring
        | _ => rfl
      exact .inl ⟨by rw [hadded, hnothing, List.nil_append], by rw [hfiled, happended, List.nil_append]⟩
    · exact .inr (hgrow _ hfound)

/-- A run that will not store any more files nothing and stays so. -/
theorem Run.Filing.over {core : CoreLibrary} {run run' : Run} {event : RunEvent} {v : JobView}
    {appended : List Document} (h : run.Filing core event v run' appended) (hover : run.pc.phase = .over) :
    run'.pc.phase = .over ∧ appended = [] := by
  cases h with
  | leave hover' => exact ⟨hover', rfl⟩
  | outside hbefore => exact nomatch hover.symm.trans hbefore
  | settle hpc | accept hpc | load hpc | add hpc | record hpc | evaluate hpc | correlate hpc
  | recordCorrelation hpc | next hpc =>
    rw [hpc] at hover
    cases hover

/-- It calls nothing either. -/
theorem Run.effects_over {run : Run} (event : RunEvent) (hover : run.pc.phase = .over) :
    run.effects event = [] := by
  unfold Run.effects
  split
  all_goals first
    | rfl
    | next hpc => rw [hpc] at hover; cases hover

/-- Only the store loop files findings. -/
theorem Run.Filing.appended_eq_nil {core : CoreLibrary} {run run' : Run} {event : RunEvent} {v : JobView}
    {appended : List Document} (h : run.Filing core event v run' appended)
    (hpc : ∀ attempt loop, run.pc ≠ .trying attempt (.recording loop)) : appended = [] := by
  cases h with
  | record hrecording => exact absurd hrecording (hpc _ _)
  | _ => rfl

/-- A move that does not report a success leaves that of the job and its count alone. -/
theorem Run.Move.success_kept {now : Instant} {run run' : Run} {event : RunEvent} {v v' : JobView}
    (h : run.Move now event v v' run') (hphase : run.pc.phase ≠ .storing)
    (hstatus : v'.record.status = .succeeded) :
    v.record.status = .succeeded ∧ v'.record.resultCount = v.record.resultCount := by
  cases h with
  | work stage' hpc hlog =>
    rcases hlog with rfl | ⟨kind, -, payload, rfl⟩ <;> exact ⟨hstatus, rfl⟩
  | finish status resultCount errorCode errorMessage ending hpc hterminal hsuccess =>
    obtain ⟨count, rfl⟩ := hsuccess hstatus
    exact absurd (by rw [hpc]; rfl) hphase
  | failUnknown | cancel | claim => cases hstatus
  | _ => exact ⟨hstatus, rfl⟩

/-- A job comes to its success by the report of a run that has stored all its results. -/
theorem Run.Move.success {now : Instant} {run run' : Run} {event : RunEvent} {v v' : JobView}
    (h : run.Move now event v v' run') (hbefore : v.record.status ≠ .succeeded)
    (hstatus : v'.record.status = .succeeded) :
    (∃ attempt count, run.pc = .trying attempt (.succeeding count)) ∧ run'.pc.phase = .over := by
  cases h with
  | work stage' hpc hlog =>
    rcases hlog with rfl | ⟨kind, -, payload, rfl⟩ <;> exact absurd hstatus hbefore
  | finish status resultCount errorCode errorMessage ending hpc hterminal hsuccess =>
    obtain ⟨count, rfl⟩ := hsuccess hstatus
    exact ⟨⟨_, count, hpc⟩, rfl⟩
  | failUnknown | cancel | claim => cases hstatus
  | _ => exact absurd hstatus hbefore

namespace System

variable {World : Type} {backend : Backend World}

/-- The finding events of a job, none if it is not stored. -/
def filed (backend : Backend World) (key : JobKey) (s : System World) : List Document :=
  ((backend.view s.world key).map JobView.filed).getD []

/-- What has been stored of a job is what the position of the run that claimed it tells. -/
structure FiledOnce (backend : Backend World) (key : JobKey) (history : List Effect)
    (s : System World) : Prop where
  runs : ∀ run ∈ s.runs, run.key = key → 0 < run.queuedClaims →
    run.pc.Filed backend.core (history.filterMap (Effect.outcomeOf key))
      (history.filterMap (Effect.findingOf key)) (s.filed backend key)
  unclaimed : total Run.queuedClaims key s.runs = 0 → history.filterMap (Effect.outcomeOf key) = [] ∧
    history.filterMap (Effect.findingOf key) = [] ∧ s.filed backend key = []
  founded : Founded (history.filterMap (Effect.outcomeOf key)) (history.filterMap (Effect.findingOf key))
    (s.filed backend key)
  succeeded : ∀ v, backend.view s.world key = some v → v.record.status = .succeeded →
    (∃ found, (history.filterMap (Effect.outcomeOf key)).getLast? = some (.findings found) ∧
      v.record.resultCount = found.length ∧ history.filterMap (Effect.findingOf key) = found ∧
      s.filed backend key = found.map backend.core.toDict) ∧
    ∀ run ∈ s.runs, run.key = key → 0 < run.queuedClaims → run.pc.phase = .over

/-- Nothing is stored in a new system. -/
theorem filedOnce_initial (key : JobKey) : FiledOnce backend key [] (initial backend) := by
  have hnone : backend.view (initial backend).world key = none := backend.view_empty key
  refine ⟨by simp [initial], fun _ => ⟨rfl, rfl, ?_⟩, .inl ⟨rfl, ?_⟩, ?_⟩
  · rw [filed, hnone]
    rfl
  · rw [filed, hnone]
    rfl
  · intro v hv
    rw [hnone] at hv
    cases hv

/-- A step that stores nothing of the job, moves no run that has claimed it and reports no success
keeps the invariant. -/
theorem FiledOnce.keep {key : JobKey} {history effects : List Effect} {s s' : System World}
    (hs : FiledOnce backend key history s)
    (houtcomes : effects.filterMap (Effect.outcomeOf key) = [])
    (hadded : effects.filterMap (Effect.findingOf key) = [])
    (hfiled : s'.filed backend key = s.filed backend key)
    (hclaimers : ∀ run ∈ s'.runs, run.key = key → 0 < run.queuedClaims → run ∈ s.runs)
    (htotal : total Run.queuedClaims key s'.runs = total Run.queuedClaims key s.runs)
    (hsucceeded : ∀ v', backend.view s'.world key = some v' → v'.record.status = .succeeded →
      ∃ v, backend.view s.world key = some v ∧ v.record.status = .succeeded ∧
        v'.record.resultCount = v.record.resultCount) :
    FiledOnce backend key (history ++ effects) s' := by
  refine ⟨?_, ?_, ?_, ?_⟩ <;>
    simp only [List.filterMap_append, houtcomes, hadded, List.append_nil, hfiled]
  · intro run hrun hkey hclaims
    exact hs.runs run (hclaimers run hrun hkey hclaims) hkey hclaims
  · intro hzero
    exact hs.unclaimed (htotal ▸ hzero)
  · exact hs.founded
  · intro v' hv' hstatus'
    obtain ⟨v, hv, hstatus, hcount⟩ := hsucceeded v' hv' hstatus'
    obtain ⟨hrecorded, hover⟩ := hs.succeeded v hv hstatus
    rw [hcount]
    exact ⟨hrecorded, fun run hrun hkey hclaims => hover run (hclaimers run hrun hkey hclaims) hkey hclaims⟩

/-- What one job files and how it succeeded, after a write to a job. -/
theorem filed_write {key key' : JobKey} {s s' : System World} {v v' : JobView}
    (hv : backend.view s.world key' = some v)
    (hview : backend.view s'.world = Function.update (backend.view s.world) key' (some v'))
    (hfiled : key = key' → v'.filed = v.filed)
    (hsucceeded : key = key' → v'.record.status = .succeeded →
      v.record.status = .succeeded ∧ v'.record.resultCount = v.record.resultCount) :
    s'.filed backend key = s.filed backend key ∧
      ∀ u', backend.view s'.world key = some u' → u'.record.status = .succeeded →
        ∃ u, backend.view s.world key = some u ∧ u.record.status = .succeeded ∧
          u'.record.resultCount = u.record.resultCount := by
  unfold filed
  by_cases hkey : key = key'
  · subst hkey
    rw [hview, Function.update_self, hv, Option.map_some, Option.map_some, hfiled rfl]
    refine ⟨rfl, fun u' hu' hstatus => ⟨v, rfl, ?_⟩⟩
    rw [Option.some.injEq] at hu'
    subst hu'
    exact hsucceeded rfl hstatus
  · rw [hview, Function.update_of_ne hkey]
    exact ⟨rfl, fun u' hu' hstatus => ⟨u', hu', hstatus, rfl⟩⟩

/-- A step of the run that has claimed the job keeps the invariant. -/
theorem FiledOnce.claimer {key : JobKey} {history : List Effect} {s s' : System World} {label : Label}
    {event : RunEvent} {before after : List Run} {run run' : Run} {v v' : JobView}
    {appended : List Document} (hs : FiledOnce backend key history s) (hcounted : Counted backend s)
    (hsplit : RunStep backend s label s' event before run run' after v v' appended)
    (hkey : run.key = key) (hclaims : 0 < run.queuedClaims) :
    FiledOnce backend key (history ++ s.effects label) s' := by
  subst hkey
  have hmem : run ∈ s.runs := by simp [hsplit.runs]
  have hothers : ∀ other ∈ s'.runs, other.key = run.key → 0 < other.queuedClaims → other = run' := by
    have honce := hcounted.once run.key
    rw [hsplit.runs, total_append, total_cons, if_pos rfl] at honce
    intro other hother hotherKey hotherClaims
    rw [hsplit.runs'] at hother
    rcases List.mem_append.mp hother with hbefore | hother
    · have hle := le_total Run.queuedClaims hbefore hotherKey
      omega
    · rcases List.mem_cons.mp hother with rfl | hafter
      · rfl
      · have hle := le_total Run.queuedClaims hafter hotherKey
        omega
  have hclaims' : 0 < run'.queuedClaims := by
    rcases hsplit.move.claim_or_same with ⟨attempt, payload, -, -, rfl, -⟩ | ⟨-, hsame, -⟩
    · simp only [Run.claimed]
      omega
    · omega
  have hrun := hs.runs run hmem rfl hclaims
  have hfiled : s.filed backend run.key = v.filed := by rw [filed, hsplit.stored]; rfl
  have hfiled' : s'.filed backend run.key = s.filed backend run.key ++ appended := by
    rw [hfiled, filed, hsplit.view, Function.update_self, ← hsplit.filed]
    rfl
  refine ⟨?_, ?_, ?_, ?_⟩ <;> simp only [List.filterMap_append, hsplit.effects, hfiled']
  · intro other hother hotherKey hotherClaims
    rw [hothers other hother hotherKey hotherClaims]
    exact hsplit.filing.filed hrun
  · intro hzero
    have hle := @le_total Run.queuedClaims run.key s'.runs run' (by simp [hsplit.runs'])
      hsplit.move.arguments.1
    omega
  · exact hsplit.filing.founded hrun hs.founded
  · intro u hu hstatus
    rw [hsplit.view, Function.update_self, Option.some.injEq] at hu
    subst hu
    by_cases hbefore : v.record.status = .succeeded
    · -- the claimer has already reported the success and stores nothing any more
      obtain ⟨hrecorded, hover⟩ := hs.succeeded v hsplit.stored hbefore
      have hrunOver := hover run hmem rfl hclaims
      obtain ⟨hover', happended⟩ := hsplit.filing.over hrunOver
      have hcount := (hsplit.move.success_kept (by rw [hrunOver]; intro h; cases h) hstatus).2
      rw [Run.effects_over event hrunOver, happended, hcount]
      simp only [List.filterMap_nil, List.append_nil]
      refine ⟨hrecorded, fun other hother hotherKey hotherClaims => ?_⟩
      rw [hothers other hother hotherKey hotherClaims]
      exact hover'
    · obtain ⟨⟨attempt, count, hpc⟩, hover'⟩ := hsplit.move.success hbefore hstatus
      have hresult : v'.record.resultCount = count := by
        rcases hsplit.counted attempt count hpc with rfl | hcount
        · exact absurd hstatus hbefore
        · exact hcount
      have happended := hsplit.filing.appended_eq_nil fun n loop => by rw [hpc]; intro h; cases h
      rw [hpc] at hrun
      obtain ⟨found, hlast, hlength, hadded, hdocs⟩ := hrun
      have hidle : run.effects event = [] := by simp [Run.effects, hpc]
      rw [hidle, happended, hresult]
      simp only [List.filterMap_nil, List.append_nil]
      refine ⟨⟨found, hlast, hlength, hadded, hdocs⟩, fun other hother hotherKey hotherClaims => ?_⟩
      rw [hothers other hother hotherKey hotherClaims]
      exact hover'

/-- A step of a run that has not claimed its job keeps the invariant: it claims a job of which
nothing is stored, or stores nothing. -/
theorem FiledOnce.bystander {key : JobKey} {history : List Effect} {s s' : System World} {label : Label}
    {event : RunEvent} {before after : List Run} {run run' : Run} {v v' : JobView}
    {appended : List Document} (hs : FiledOnce backend key history s) (hcounted : Counted backend s)
    (hsplit : RunStep backend s label s' event before run run' after v v' appended)
    (hrun : run.key = key → run.queuedClaims = 0) :
    FiledOnce backend key (history ++ s.effects label) s' := by
  have hmem : run ∈ s.runs := by simp [hsplit.runs]
  have hsum := total_step Run.queuedClaims key hsplit.move.arguments.1 hsplit.runs hsplit.runs'
  have hold : ∀ other ∈ s'.runs, other = run' ∨ other ∈ s.runs := by
    intro other hother
    rw [hsplit.runs'] at hother
    rcases List.mem_append.mp hother with hbefore | hother
    · exact .inr (by simp [hsplit.runs, hbefore])
    · rcases List.mem_cons.mp hother with rfl | hafter
      · exact .inl rfl
      · exact .inr (by simp [hsplit.runs, hafter])
  by_cases hkey : run.key = key
  · have hclaims := hrun hkey
    have hidle : ∀ attempt stage, run.pc ≠ .trying attempt stage := by
      intro attempt stage hpc
      have hpos := (hcounted.runs run hmem).queuedClaims_pos hpc
      omega
    have happended := hsplit.filing.appended_eq_nil fun attempt loop => hidle _ _
    have hsame := hsplit.filed
    rw [happended, List.append_nil] at hsame
    rw [if_pos hkey, if_pos hkey, hclaims] at hsum
    rw [hsplit.effects, Run.effects_idle event hidle, List.append_nil]
    rcases hsplit.move.claim_or_same with ⟨attempt, payload, hpc, hclaimable, rfl, rfl⟩ |
      ⟨-, hqueuedClaims, -, -⟩
    · -- the claim found the job queued, so no run has claimed it before
      subst hkey
      have hattempt : attempt = 1 := by
        have hposition := (hcounted.runs run hmem).position (attempt - 1) (by simp [hpc, Pc.claims])
        have hbounds := (hcounted.runs run hmem).attempt attempt (by simp [hpc, Pc.attempt])
        have hqueued := (hcounted.runs run hmem).queued
        split at hqueued <;> omega
      have hstatus : v.record.status = .queued := by
        simpa [JobView.claimable, hattempt] using (Bool.and_eq_true_iff.mp hclaimable).1
      have hzero := total_queuedClaims_eq_zero hcounted.runs
        (hcounted.queued run.key v hsplit.stored hstatus)
      obtain ⟨houtcomes, hadded, hfiled⟩ := hs.unclaimed hzero
      have hfiled' : s'.filed backend run.key = [] := by
        rw [filed, hsplit.stored] at hfiled
        rw [filed, hsplit.view, Function.update_self]
        exact hsame.trans hfiled
      refine ⟨?_, ?_, ?_, ?_⟩ <;> simp only [houtcomes, hadded, hfiled']
      · intro other hother hotherKey hotherClaims
        rcases hold other hother with rfl | hother
        · exact ⟨rfl, rfl⟩
        · have hle := le_total Run.queuedClaims hother hotherKey
          omega
      · exact fun _ => ⟨trivial, trivial, trivial⟩
      · exact .inl ⟨rfl, rfl⟩
      · intro u hu hsucceeded
        rw [hsplit.view, Function.update_self, Option.some.injEq] at hu
        rw [← hu] at hsucceeded
        cases hsucceeded
    · have hphase : run.pc.phase ≠ .storing := by
        intro hstoring
        cases hpc : run.pc with
        | trying attempt stage => exact hidle attempt stage hpc
        | _ =>
          rw [hpc] at hstoring
          cases hstoring
      obtain ⟨hfiled, hsucceeded⟩ := @filed_write World backend key run.key s s' v v' hsplit.stored
        hsplit.view (fun _ => hsame) fun _ => hsplit.move.success_kept hphase
      have hkept := @keep World backend key history [] s s' hs rfl rfl hfiled ?_ (by omega) hsucceeded
      · rwa [List.append_nil] at hkept
      · intro other hother hotherKey hotherClaims
        rcases hold other hother with rfl | hother
        · omega
        · exact hother
  · rw [if_neg hkey, if_neg hkey] at hsum
    obtain ⟨houtcomes, hadded⟩ := Run.effects_other event hkey
    obtain ⟨hfiled, hsucceeded⟩ := @filed_write World backend key run.key s s' v v' hsplit.stored
      hsplit.view (fun h => absurd h.symm hkey) fun h => absurd h.symm hkey
    refine hs.keep (hsplit.effects ▸ houtcomes) (hsplit.effects ▸ hadded) hfiled ?_ (by omega) hsucceeded
    intro other hother hotherKey hotherClaims
    rcases hold other hother with rfl | hother
    · rw [hsplit.move.arguments.1] at hotherKey
      exact absurd hotherKey hkey
    · exact hother

/-- Every step of the system keeps the invariant. -/
theorem FiledOnce.step {products : List FindingSource} {key : JobKey} {history : List Effect}
    {s s' : System World} {label : Label} (hformed : WellFormed backend s) (hcounted : Counted backend s)
    (hpending : s.PendingActive) (hs : FiledOnce backend key history s)
    (h : s.step backend products label = some s') :
    FiledOnce backend key (history ++ s.effects label) s' := by
  by_cases hrun : ∃ index event, label.action = .run index event
  · obtain ⟨index, event, haction⟩ := hrun
    obtain ⟨before, run, run', after, v, v', appended, hsplit⟩ := step_run hformed h haction
    by_cases hclaimer : run.key = key ∧ 0 < run.queuedClaims
    · exact hs.claimer hcounted hsplit hclaimer.1 hclaimer.2
    · exact hs.bystander hcounted hsplit fun hkey => by
        by_contra hclaims
        exact hclaimer ⟨hkey, by omega⟩
  · have hother : ∀ index event, label.action ≠ .run index event :=
      fun index event haction => hrun ⟨index, event, haction⟩
    rw [effects_of_ne_run hother]
    have hwrite : ∀ {key' : JobKey} {v v' : JobView}, s'.runs = s.runs →
        backend.view s.world key' = some v →
        backend.view s'.world = Function.update (backend.view s.world) key' (some v') →
        v'.filed = v.filed → (v'.record.status = .succeeded →
          v.record.status = .succeeded ∧ v'.record.resultCount = v.record.resultCount) →
        FiledOnce backend key (history ++ []) s' := by
      intro key' v v' hruns' hv hview hfiled hsucceeded
      obtain ⟨hsame, hkept⟩ := @filed_write World backend key key' s s' v v' hv hview (fun _ => hfiled)
        fun _ => hsucceeded
      exact hs.keep rfl rfl hsame (fun run hmem _ _ => hruns' ▸ hmem) (by rw [hruns']) hkept
    cases step_move hformed h with
    | run haction => exact absurd haction (hother _ _)
    | @deliver executor key' haction hstored hruns' hview =>
      refine hs.keep rfl rfl (by rw [filed, filed, hview]) ?_ ?_ fun v' hv' hstatus =>
        ⟨v', by rw [← hview]; exact hv', hstatus, rfl⟩
      · intro run hmem _ hclaims
        rw [hruns'] at hmem
        rcases List.mem_append.mp hmem with hold | hnew
        · exact hold
        · rw [List.mem_singleton.mp hnew] at hclaims
          cases hclaims
      · have hzero : total Run.queuedClaims key [Run.fresh executor key'] = 0 :=
          total_eq_zero _ fun run hmem _ => by rw [List.mem_singleton.mp hmem]; rfl
        rw [hruns', total_append, hzero, Nat.add_zero]
    | @create key' source payload idempotencyKey hnone hview hruns' =>
      refine hs.keep rfl rfl ?_ (fun run hmem _ _ => hruns' ▸ hmem) (by rw [hruns']) ?_
      · unfold filed
        by_cases hkey : key = key'
        · subst hkey
          rw [hview, Function.update_self, hnone]
          exact JobView.filed_created _ _ _ _ _
        · rw [hview, Function.update_of_ne hkey]
      · intro v' hv' hstatus
        by_cases hkey : key = key'
        · subst hkey
          rw [hview, Function.update_self, Option.some.injEq] at hv'
          rw [← hv'] at hstatus
          cases hstatus
        · rw [hview, Function.update_of_ne hkey] at hv'
          exact ⟨v', hv', hstatus, rfl⟩
    | recordDispatch hv hview hruns' =>
      exact hwrite hruns' hv hview rfl fun hstatus => ⟨hstatus, rfl⟩
    | failDispatch _ _ _ hv hview hruns' =>
      exact hwrite hruns' hv hview (JobView.filed_transition _ _ _ _ _ _) nofun
    | @cancel key' v haction hv hview hruns' =>
      refine hwrite hruns' hv hview (JobView.filed_requestCancel _ _) fun hstatus => ?_
      unfold JobView.requestCancel at hstatus ⊢
      split at hstatus
      · next hterminal => exact ⟨hstatus, by rw [if_pos hterminal]⟩
      · next hactive =>
        refine absurd hstatus (cancelStatus_ne_succeeded ?_)
        intro hsucceeded
        exact hactive (by rw [hsucceeded]; rfl)
    | @writeCancel index key' current v haction hcancel hv hview hruns' =>
      have hactive := hpending _ (List.mem_of_getElem? hcancel)
      refine hwrite hruns' hv hview (JobView.filed_writeCancel _ _ _) fun hstatus =>
        absurd hstatus (cancelStatus_ne_succeeded ?_)
      rintro rfl
      cases hactive
    | quiet hview hruns' =>
      exact hs.keep rfl rfl (by rw [filed, filed, hview]) (fun run hmem _ _ => hruns' ▸ hmem)
        (by rw [hruns']) fun v' hv' hstatus => ⟨v', by rw [← hview]; exact hv', hstatus, rfl⟩

/-- The results of a job are those of its last scan, recorded once each and in order, or none. -/
structure ResultsRecorded (backend : Backend World) (key : JobKey) (effects : List Effect)
    (s : System World) : Prop where
  succeeded : ∀ record, backend.get s.world key = some record → record.status = .succeeded →
    ∃ scan : AdapterScan, scan.ending = .exhausted ∧
      (effects.filterMap (Effect.outcomeOf key)).getLast? = some (collect scan) ∧
      record.resultCount = scan.yielded.length ∧
      effects.filterMap (Effect.findingOf key) = scan.yielded ∧
      s.filed backend key = scan.yielded.map backend.core.toDict
  nothing : (∀ outcome ∈ effects.filterMap (Effect.outcomeOf key),
      ∃ scan : AdapterScan, scan.ending ≠ .exhausted ∧ outcome = collect scan) →
    effects.filterMap (Effect.findingOf key) = [] ∧ s.filed backend key = []

end System

/-- In every interleaving, a job that has succeeded reports as many results as its last scan
yielded, each of them was handed to the registry once under its tenant and id and has one event
in the same order; if every scan raised, nothing was recorded. -/
theorem results_recorded_once {World : Type} (backend : Backend World) (products : List FindingSource)
    {schedule : List Label} {s : System World} (key : JobKey)
    (hrun : runSteps (System.step backend products) (System.initial backend) schedule = some s) :
    s.ResultsRecorded backend key
      (emitted (System.step backend products) System.effects (System.initial backend) schedule) := by
  have hkeeps : ∀ history u l u', (System.WellFormed backend u ∧ System.Counted backend u ∧
      u.PendingActive ∧ System.FiledOnce backend key history u) →
      System.step backend products u l = some u' → System.WellFormed backend u' ∧
      System.Counted backend u' ∧ u'.PendingActive ∧
      System.FiledOnce backend key (history ++ u.effects l) u' := by
    rintro history u l u' ⟨hformed, hcounted, hpending, hfiled⟩ hstep
    exact ⟨System.step_wellFormed hformed hstep, hcounted.move (System.step_move hformed hstep),
      hpending.step hstep, hfiled.step hformed hcounted hpending hstep⟩
  have hfiled := (runSteps_history _ hkeeps ⟨System.wellFormed_initial, System.counted_initial,
    by simp [System.PendingActive, System.initial], System.filedOnce_initial key⟩ hrun).2.2.2
  rw [List.nil_append] at hfiled
  constructor
  · intro record hget hstatus
    rw [backend.get_eq] at hget
    obtain ⟨v, hv, rfl⟩ := Option.map_eq_some_iff.mp hget
    obtain ⟨⟨found, hlast, hcount, hadded, hdocs⟩, -⟩ := hfiled.succeeded v hv hstatus
    exact ⟨⟨found, .exhausted⟩, rfl, hlast, hcount, hadded, hdocs⟩
  · intro hraised
    rcases hfiled.founded with hnothing | ⟨found, hfound⟩
    · exact hnothing
    · obtain ⟨scan, hending, hcollect⟩ := hraised _ hfound
      exact absurd (collect_eq_findings hcollect.symm) hending

/-- A job whose first scan times out after a finding and whose second one yields it again. -/
def retriedScan : List Label :=
  let m : Moment := ⟨0, "1"⟩
  let finding : Finding := ⟨"finding_1", .soc, .high, 1, "Open port", "", none, none, none, [], [], ∅, .obj []⟩
  let timeout : ProductCLIError := ⟨"ADAPTER_TIMEOUT", true, true, "slow"⟩
  publishScan 0 "tenant-a" .soc (.obj []) m ++
    [⟨.deliver ⟨[.soc], [], 2, JobExecutor.twice⟩ ⟨"tenant-a", "job_1"⟩, m⟩] ++
    runLabels 0 m [.advance, .advance, .advance,
      .scanSettles (collect ⟨[finding], .productError timeout⟩), .advance, .advance, .advance, .advance,
      .advance, .scanSettles (collect ⟨[finding], .exhausted⟩), .advance, .advance, .advance, .advance,
      .advance, .advance]

set_option maxRecDepth 8000 in
/-- The theorem applies to that job, which succeeds with the one finding. -/
theorem results_recorded_once_retriedScan :
    ∃ s, runSteps (System.step FindingDict.backend [.soc]) (System.initial FindingDict.backend)
        retriedScan = some s ∧
      s.ResultsRecorded FindingDict.backend ⟨"tenant-a", "job_1"⟩
        (emitted (System.step FindingDict.backend [.soc]) System.effects
          (System.initial FindingDict.backend) retriedScan) ∧
      (FindingDict.backend.get s.world ⟨"tenant-a", "job_1"⟩).map
        (fun record => (record.status, record.resultCount)) = some (.succeeded, 1) := by
  have hreach : (runSteps (System.step FindingDict.backend [.soc])
      (System.initial FindingDict.backend) retriedScan).any (fun s =>
        (FindingDict.backend.get s.world ⟨"tenant-a", "job_1"⟩).map
          (fun record => (record.status, record.resultCount)) = some (.succeeded, 1)) = true := by
    decide +kernel
  obtain ⟨s, hs, hjob⟩ := (Option.any_eq_true _ _).mp hreach
  exact ⟨s, hs, results_recorded_once FindingDict.backend [.soc] _ hs, of_decide_eq_true hjob⟩

end SharedIntegration

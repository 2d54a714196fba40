import SharedIntegration.Filing

/-!
# Requested cancellations

A worker polls the durable flag between its waits for the scan, so the flag decides in two
places: the conditional update of a claim, and the poll after the scan has settled. Neither
lets a flagged job through, whoever set the flag and whatever the adapter does when it is told
to stop.
-/

namespace SharedIntegration

open Transition

variable {World : Type} {backend : Backend World}

/-- An attempt that has not accepted the outcome of its scan. -/
def Pc.scanning : Pc → Bool
  | .trying _ stage => stage.phase = .before
  | _ => false

/-- No move of a run takes a requested cancellation back or claims the job. -/
theorem Run.Move.flagged {now : Instant} {run run' : Run} {event : RunEvent} {v v' : JobView}
    (h : run.Move now event v v' run') (hflag : v.record.cancelRequested = true) :
    v'.record.cancelRequested = true ∧ v'.record.attempt = v.record.attempt := by
  cases h with
  | claim hpc hclaimable =>
    rw [JobView.claimable, hflag, Bool.not_true, Bool.and_false] at hclaimable
    cases hclaimable
  | work stage' hpc hlog =>
    rcases hlog with rfl | ⟨kind, -, payload, rfl⟩ <;> exact ⟨hflag, rfl⟩
  | _ => exact ⟨hflag, rfl⟩

/-- Only a run that has stored its results reports a success. -/
theorem Run.Move.unsuccessful {now : Instant} {run run' : Run} {event : RunEvent} {v v' : JobView}
    (h : run.Move now event v v' run') (hphase : run.pc.phase ≠ .storing)
    (hstatus : v.record.status ≠ .succeeded) : v'.record.status ≠ .succeeded := by
  cases h with
  | work stage' hpc hlog =>
    rcases hlog with rfl | ⟨kind, -, payload, rfl⟩ <;> exact hstatus
  | finish status resultCount errorCode errorMessage ending hpc hterminal hsuccess =>
    intro hsucceeded
    obtain ⟨count, rfl⟩ := hsuccess hsucceeded
    exact hphase (by rw [hpc]; rfl)
  | failUnknown | cancel | claim => exact nofun
  | _ => exact hstatus

/-- Only a run that is storing its results calls the registry. -/
theorem Run.effects_registry {run : Run} {key : JobKey} (event : RunEvent)
    (h : run.key = key → run.pc.phase ≠ .storing) :
    (run.effects event).filterMap (Effect.findingOf key) = [] ∧
      (run.effects event).filterMap (Effect.correlationOf key) = [] := by
  unfold Run.effects
  split
  · exact ⟨rfl, rfl⟩
  · exact ⟨rfl, rfl⟩
  · exact ⟨rfl, rfl⟩
  · next hpc =>
    have hother : run.key ≠ key := fun hkey => h hkey (by rw [hpc]; rfl)
    simp [Effect.findingOf, Effect.correlationOf, hother]
  · next hpc =>
    have hother : run.key ≠ key := fun hkey => h hkey (by rw [hpc]; rfl)
    simp [Effect.findingOf, Effect.correlationOf, hother]
  · exact ⟨rfl, rfl⟩

/-- A run of a flagged job that is not storing yet will not store. -/
theorem Run.Filing.discards {core : CoreLibrary} {run run' : Run} {event : RunEvent} {v : JobView}
    {appended : List Document} (h : run.Filing core event v run' appended)
    (hphase : run.pc.phase ≠ .storing) (hflag : v.record.cancelRequested = true) :
    run'.pc.phase ≠ .storing ∧ appended = [] := by
  cases h with
  | outside hbefore hafter => exact ⟨by rw [hafter]; exact nofun, rfl⟩
  | settle hpc hevent hpc' => exact ⟨by rw [hpc']; exact nofun, rfl⟩
  | accept hpc hevent hclear =>
    rw [hflag] at hclear
    cases hclear
  | leave hover => exact ⟨by rw [hover]; exact nofun, rfl⟩
  | load hpc | add hpc | record hpc | evaluate hpc | correlate hpc | recordCorrelation hpc | next hpc =>
    exact absurd (by rw [hpc]; rfl) hphase

namespace System

/-- The job is stored with a requested cancellation, at the given attempt. -/
def Flagged (backend : Backend World) (key : JobKey) (attempt : ℕ) (s : System World) : Prop :=
  ∃ v, backend.view s.world key = some v ∧ v.record.cancelRequested = true ∧
    v.record.attempt = attempt

/-- A write keeps the flag of its job if it keeps it in the row. -/
theorem Flagged.write {key key' : JobKey} {attempt : ℕ} {s s' : System World} {v v' : JobView}
    (hs : Flagged backend key attempt s) (hv : backend.view s.world key' = some v)
    (hview : backend.view s'.world = Function.update (backend.view s.world) key' (some v'))
    (hkeep : v.record.cancelRequested = true →
      v'.record.cancelRequested = true ∧ v'.record.attempt = v.record.attempt) :
    Flagged backend key attempt s' := by
  obtain ⟨u, hu, hflag, hattempt⟩ := hs
  by_cases hkey : key = key'
  · subst hkey
    rw [hv, Option.some.injEq] at hu
    subst hu
    obtain ⟨hflag', hattempt'⟩ := hkeep hflag
    exact ⟨v', by rw [hview, Function.update_self], hflag', hattempt'.trans hattempt⟩
  · exact ⟨u, by rw [hview, Function.update_of_ne hkey]; exact hu, hflag, hattempt⟩

/-- No step takes a requested cancellation back or claims the job. -/
theorem Flagged.move {key : JobKey} {attempt : ℕ} {s s' : System World} {label : Label}
    (hs : Flagged backend key attempt s) (h : Move backend s label s') :
    Flagged backend key attempt s' := by
  cases h with
  | run _ _ _ _ hv hview hmove => exact hs.write hv hview hmove.flagged
  | create hnone hview =>
    obtain ⟨u, hu, hflagged⟩ := hs
    refine ⟨u, ?_, hflagged⟩
    rwa [hview, Function.update_of_ne]
    intro hkey
    rw [hkey, hnone] at hu
    cases hu
  | recordDispatch hv hview => exact hs.write hv hview fun hflag => ⟨hflag, rfl⟩
  | failDispatch _ _ _ hv hview => exact hs.write hv hview fun hflag => ⟨hflag, rfl⟩
  | cancel haction hv hview =>
    refine hs.write hv hview fun hflag => ?_
    unfold JobView.requestCancel
    split
    · exact ⟨hflag, rfl⟩
    · exact ⟨rfl, rfl⟩
  | writeCancel haction hpending hv hview => exact hs.write hv hview fun _ => ⟨rfl, rfl⟩
  | deliver _ _ _ hview =>
    unfold Flagged at hs ⊢
    rwa [hview]
  | quiet hview =>
    unfold Flagged at hs ⊢
    rwa [hview]

/-- A pending write of `request_cancel` has read a status that is not terminal. -/
def PendingActive (s : System World) : Prop := ∀ pending ∈ s.cancels, pending.2.terminal = false

/-- Every step keeps that. -/
theorem PendingActive.step {products : List FindingSource} {s s' : System World} {label : Label}
    (hs : s.PendingActive) (h : s.step backend products label = some s') : s'.PendingActive := by
  unfold System.step at h
  split at h
  · cases h
    exact hs
  · obtain ⟨call, -, h⟩ := Option.bind_eq_some_iff.mp h
    obtain ⟨stepped, -, h⟩ := Option.bind_eq_some_iff.mp h
    cases h
    exact hs
  · split at h <;> cases h
    exact hs
  · obtain ⟨run, -, h⟩ := Option.bind_eq_some_iff.mp h
    obtain ⟨stepped, -, h⟩ := Option.bind_eq_some_iff.mp h
    cases h
    exact hs
  · split at h <;> cases h <;> exact hs
  · next key haction =>
    obtain ⟨write, -, h⟩ := Option.bind_eq_some_iff.mp h
    obtain ⟨current, -, h⟩ := Option.bind_eq_some_iff.mp h
    split at h
    · cases h
      exact hs
    · next hactive =>
      cases h
      intro pending hpending
      rcases List.mem_append.mp hpending with hold | hnew
      · exact hs pending hold
      · rw [List.mem_singleton.mp hnew]
        exact Bool.not_eq_true _ ▸ hactive
  · obtain ⟨write, -, h⟩ := Option.bind_eq_some_iff.mp h
    obtain ⟨pending, -, h⟩ := Option.bind_eq_some_iff.mp h
    cases h
    exact fun other hother => hs other (List.mem_of_mem_eraseIdx hother)

/-- The status a cancellation writes is never a success it did not read. -/
theorem cancelStatus_ne_succeeded {current : JobStatus} (h : current ≠ .succeeded) :
    JobRecord.cancelStatus current ≠ .succeeded := by
  unfold JobRecord.cancelStatus
  split
  · exact nofun
  · exact h

/-- No run of the job is storing, nothing of it has been stored since, and it did not succeed. -/
structure Discarding (backend : Backend World) (key : JobKey) (filed : List Document)
    (history : List Effect) (s : System World) : Prop where
  runs : ∀ run ∈ s.runs, run.key = key → run.pc.phase ≠ .storing
  job : ∃ v, backend.view s.world key = some v ∧ v.filed = filed ∧ v.record.status ≠ .succeeded
  findings : history.filterMap (Effect.findingOf key) = []
  correlations : history.filterMap (Effect.correlationOf key) = []

/-- A write keeps the job unsuccessful and files nothing if it does neither in the row. -/
theorem Discarding.write {key key' : JobKey} {filed : List Document} {history effects : List Effect}
    {s s' : System World} {v v' : JobView} (hs : Discarding backend key filed history s)
    (hruns : ∀ run ∈ s'.runs, run.key = key → run.pc.phase ≠ .storing)
    (heffects : effects.filterMap (Effect.findingOf key) = [] ∧
      effects.filterMap (Effect.correlationOf key) = [])
    (hv : backend.view s.world key' = some v)
    (hview : backend.view s'.world = Function.update (backend.view s.world) key' (some v'))
    (hkeep : key' = key → v.record.status ≠ .succeeded →
      v'.filed = v.filed ∧ v'.record.status ≠ .succeeded) :
    Discarding backend key filed (history ++ effects) s' := by
  obtain ⟨u, hu, hfiled, hstatus⟩ := hs.job
  refine ⟨hruns, ?_, ?_, ?_⟩
  · by_cases hkey : key = key'
    · subst hkey
      rw [hv, Option.some.injEq] at hu
      subst hu
      obtain ⟨hfiled', hstatus'⟩ := hkeep rfl hstatus
      exact ⟨v', by rw [hview, Function.update_self], hfiled'.trans hfiled, hstatus'⟩
    · exact ⟨u, by rw [hview, Function.update_of_ne hkey]; exact hu, hfiled, hstatus⟩
  · rw [List.filterMap_append, hs.findings, heffects.1, List.nil_append]
  · rw [List.filterMap_append, hs.correlations, heffects.2, List.nil_append]

/-- No step of the system stores anything of a flagged job that no run is storing. -/
theorem Discarding.step {products : List FindingSource} {key : JobKey} {attempt : ℕ}
    {filed : List Document} {history : List Effect} {s s' : System World} {label : Label}
    (hformed : WellFormed backend s) (hpending : s.PendingActive)
    (hflagged : Flagged backend key attempt s) (hs : Discarding backend key filed history s)
    (h : s.step backend products label = some s') :
    Discarding backend key filed (history ++ s.effects label) s' := by
  by_cases hrun : ∃ index event, label.action = .run index event
  · obtain ⟨index, event, haction⟩ := hrun
    obtain ⟨before, run, run', after, v, v', appended, hsplit⟩ := step_run hformed h haction
    have hmem : run ∈ s.runs := by simp [hsplit.runs]
    have hphase := hs.runs run hmem
    have hflag : run.key = key → v.record.cancelRequested = true := by
      rintro rfl
      obtain ⟨u, hu, hflag, -⟩ := hflagged
      rw [hsplit.stored, Option.some.injEq] at hu
      exact hu ▸ hflag
    refine hs.write ?_ (hsplit.effects ▸ Run.effects_registry event hphase) hsplit.stored hsplit.view ?_
    · refine forall_mem_of_split hsplit.runs hsplit.runs' hs.runs fun hkey => ?_
      rw [hsplit.move.arguments.1] at hkey
      exact (hsplit.filing.discards (hphase hkey) (hflag hkey)).1
    · intro hkey hstatus
      have hnothing := (hsplit.filing.discards (hphase hkey) (hflag hkey)).2
      have hfiled := hsplit.filed
      rw [hnothing, List.append_nil] at hfiled
      exact ⟨hfiled, hsplit.move.unsuccessful (hphase hkey) hstatus⟩
  · have hother : ∀ index event, label.action ≠ .run index event :=
      fun index event haction => hrun ⟨index, event, haction⟩
    have heffects : ([] : List Effect).filterMap (Effect.findingOf key) = [] ∧
      ([] : List Effect).filterMap (Effect.correlationOf key) = [] := ⟨rfl, rfl⟩
    rw [effects_of_ne_run hother]
    cases step_move hformed h with
    | run haction => exact absurd haction (hother _ _)
    | @deliver executor key' haction hstored hruns' hview =>
      obtain ⟨v, hv⟩ := Option.isSome_iff_exists.mp hstored
      refine hs.write ?_ heffects hv (hview.trans (view_unchanged hv)) fun _ hstatus => ⟨rfl, hstatus⟩
      intro run hmem
      rw [hruns'] at hmem
      rcases List.mem_append.mp hmem with hold | hnew
      · exact hs.runs run hold
      · rw [List.mem_singleton.mp hnew]
        exact fun _ => nofun
    | create hnone hview hruns' =>
      obtain ⟨u, hu, hjob⟩ := hs.job
      refine ⟨hruns' ▸ hs.runs, ⟨u, ?_, hjob⟩, by rw [List.append_nil]; exact hs.findings,
        by rw [List.append_nil]; exact hs.correlations⟩
      rwa [hview, Function.update_of_ne]
      intro hkey
      rw [hkey, hnone] at hu
      cases hu
    | recordDispatch hv hview hruns' =>
      exact hs.write (hruns' ▸ hs.runs) heffects hv hview fun _ hstatus => ⟨rfl, hstatus⟩
    | failDispatch _ _ _ hv hview hruns' =>
      exact hs.write (hruns' ▸ hs.runs) heffects hv hview fun _ _ => ⟨JobView.filed_transition _ _ _ _ _ _, nofun⟩
    | cancel haction hv hview hruns' =>
      refine hs.write (hruns' ▸ hs.runs) heffects hv hview fun _ hstatus =>
        ⟨JobView.filed_requestCancel _ _, ?_⟩
      unfold JobView.requestCancel
      split
      · exact hstatus
      · exact cancelStatus_ne_succeeded hstatus
    | writeCancel haction hcancel hv hview hruns' =>
      have hactive := hpending _ (List.mem_of_getElem? hcancel)
      refine hs.write (hruns' ▸ hs.runs) heffects hv hview fun _ _ =>
        ⟨JobView.filed_writeCancel _ _ _, cancelStatus_ne_succeeded ?_⟩
      rintro rfl
      cases hactive
    | quiet hview hruns' =>
      exact ⟨hruns' ▸ hs.runs, by rw [hview]; exact hs.job, by rw [List.append_nil]; exact hs.findings,
        by rw [List.append_nil]; exact hs.correlations⟩

/-- The write of a requested cancellation: by the call that holds the row, or by one that has
read the row before. -/
inductive CommitsCancel (s : System World) (label : Label) (key : JobKey) : Prop
  | locked (haction : label.action = .requestCancel key)
  | unlocked {index current} (haction : label.action = .cancelWrite index)
      (hpending : s.cancels[index]? = some (key, current))

/-- What that write does to a job that is not terminal. -/
theorem CommitsCancel.effect {products : List FindingSource} {s s' : System World} {label : Label}
    {key : JobKey} {v : JobView} (hcommit : s.CommitsCancel label key) (hpending : s.PendingActive)
    (h : s.step backend products label = some s') (hv : backend.view s.world key = some v)
    (hactive : v.record.status.terminal = false) :
    s'.runs = s.runs ∧ ∃ current : JobStatus, current ≠ .succeeded ∧
      backend.view s'.world = Function.update (backend.view s.world) key
        (some (v.writeCancel label.moment.now current)) := by
  have hne : ∀ {status : JobStatus}, status.terminal = false → status ≠ .succeeded := by
    rintro status hstatus rfl
    cases hstatus
  unfold step at h
  cases hcommit with
  | locked haction =>
    rw [haction] at h
    obtain ⟨w, hcancel, hview⟩ := backend.requestCancel_ok label.moment hv
    dsimp only at h
    rw [hcancel] at h
    cases h
    rw [JobView.requestCancel, hactive, if_neg Bool.false_ne_true] at hview
    exact ⟨rfl, v.record.status, hne hactive, hview⟩
  | @unlocked index current haction hread =>
    rw [haction] at h
    obtain ⟨write, hwrite, h⟩ := Option.bind_eq_some_iff.mp h
    obtain ⟨⟨key', current'⟩, hread', h⟩ := Option.bind_eq_some_iff.mp h
    cases h
    rw [hread, Option.some.injEq, Prod.mk.injEq] at hread'
    obtain ⟨rfl, rfl⟩ := hread'
    have hview := backend.unlockedCancel_view hwrite s.world label.moment key current
    rw [hv, Option.map_some] at hview
    exact ⟨rfl, current, hne (hpending _ (List.mem_of_getElem? hread)), hview⟩

/-- While the scan of a running attempt is not finished, no run of its job is storing. -/
theorem Counted.scanning_alone {s : System World} (hs : Counted backend s) {run : Run}
    (hmem : run ∈ s.runs) (hscanning : run.pc.scanning = true) :
    ∀ other ∈ s.runs, other.key = run.key → other.pc.phase ≠ .storing := by
  have htrying : ∃ attempt stage, run.pc = .trying attempt stage ∧ stage.phase = .before := by
    cases hpc : run.pc with
    | trying attempt stage =>
      rw [hpc] at hscanning
      exact ⟨attempt, stage, rfl, of_decide_eq_true hscanning⟩
    | _ =>
      rw [hpc] at hscanning
      cases hscanning
  obtain ⟨attempt, stage, hpc, hstage⟩ := htrying
  intro other hother hkey hphase
  obtain ⟨i, hi⟩ := List.mem_iff_getElem?.mp hmem
  obtain ⟨j, hj⟩ := List.mem_iff_getElem?.mp hother
  have hstoring : ∃ n stage, other.pc = .trying n stage := by
    cases hother' : other.pc with
    | trying n stage => exact ⟨n, stage, rfl⟩
    | _ =>
      rw [hother'] at hphase
      cases hphase
  obtain ⟨n, stage', hother'⟩ := hstoring
  have hsame := total_unique Run.queuedClaims (hs.once run.key) hi hj rfl hkey
    ((hs.runs run hmem).queuedClaims_pos hpc) ((hs.runs other hother).queuedClaims_pos hother')
  rw [hsame, hj, Option.some.injEq] at hi
  rw [hi, hpc, Pc.phase, hstage] at hphase
  cases hphase

/-- What a cancellation of the job committed in one state means for a later one. -/
structure CancelSticks (backend : Backend World) (key : JobKey) (s t : System World) : Prop where
  requested : ∃ committed current, backend.get s.world key = some committed ∧
    backend.get t.world key = some current ∧ current.cancelRequested = true ∧
    current.attempt = committed.attempt
  refused : ∀ m requireQueued, (backend.markRunning t.world m key requireQueued).2 = none
  scans : total (fun run => run.scans.length) key t.runs =
    total (fun run => run.scans.length) key s.runs

/-- Between the two states nothing of the job was stored, and it has not succeeded. -/
structure ResultsDiscarded (backend : Backend World) (key : JobKey) (s t : System World)
    (effects : List Effect) : Prop where
  findings : effects.filterMap (Effect.findingOf key) = []
  correlations : effects.filterMap (Effect.correlationOf key) = []
  filed : (backend.view t.world key).map JobView.filed = (backend.view s.world key).map JobView.filed
  unsuccessful : ∀ current, backend.get t.world key = some current → current.status ≠ .succeeded

/-- The number of scans started for a job is its stored attempt. -/
theorem Counted.scans {s : System World} (hs : Counted backend s) {key : JobKey} {v : JobView}
    (hv : backend.view s.world key = some v) :
    total (fun run => run.scans.length) key s.runs = v.record.attempt :=
  (total_congr key fun run hrun => (hs.runs run hrun).scanned).trans (hs.attempt key v hv).symm

end System

/-- In every interleaving, a cancellation that is committed on a job that is not terminal stays
requested and ends all claims of the job; if no run of the job is storing results then, none
ever does: nothing of it reaches the registry or the log, and it does not succeed. -/
theorem cancellation_sticky {World : Type} (backend : Backend World) (products : List FindingSource)
    {first rest : List Label} {label : Label} {s s' t : System World} {key : JobKey} {record : JobRecord}
    (hfirst : runSteps (System.step backend products) (System.initial backend) first = some s)
    (hget : backend.get s.world key = some record) (hactive : record.status.terminal = false)
    (hcommit : s.CommitsCancel label key) (hlabel : s.step backend products label = some s')
    (hrest : runSteps (System.step backend products) s' rest = some t) :
    System.CancelSticks backend key s t ∧
      ((∀ run ∈ s.runs, run.key = key → run.pc.phase ≠ .storing) →
        System.ResultsDiscarded backend key s t
          (emitted (System.step backend products) System.effects s (label :: rest))) := by
  obtain ⟨hformed, hcounted⟩ := System.reachable_counted hfirst
  have hpending : s.PendingActive :=
    runSteps_invariant System.PendingActive (fun _ _ _ hs => hs.step) (by simp [System.PendingActive,
      System.initial]) hfirst
  rw [backend.get_eq] at hget
  obtain ⟨v, hv, rfl⟩ := Option.map_eq_some_iff.mp hget
  obtain ⟨hruns', current, hcurrent, hview⟩ := hcommit.effect hpending hlabel hv hactive
  have hformed' := System.step_wellFormed hformed hlabel
  have hflagged' : System.Flagged backend key v.record.attempt s' :=
    ⟨v.writeCancel label.moment.now current, by rw [hview, Function.update_self], rfl, rfl⟩
  have hcontext : System.WellFormed backend t ∧ System.Flagged backend key v.record.attempt t := by
    refine runSteps_invariant (fun u => System.WellFormed backend u ∧
      System.Flagged backend key v.record.attempt u) ?_ ⟨hformed', hflagged'⟩ hrest
    rintro u l u' ⟨hu, hflagged⟩ hstep
    exact ⟨System.step_wellFormed hu hstep, hflagged.move (System.step_move hu hstep)⟩
  obtain ⟨-, u, hu, hflag, hattempt⟩ := hcontext
  constructor
  · have hreach : runSteps (System.step backend products) (System.initial backend)
        (first ++ label :: rest) = some t :=
      runSteps_append_eq_some.mpr ⟨s, hfirst, runSteps_cons_eq_some.mpr ⟨s', hlabel, hrest⟩⟩
    have hcounted' := (System.reachable_counted hreach).2
    refine ⟨⟨v.record, u.record, get_of_view hv, get_of_view hu, hflag, hattempt⟩, ?_, ?_⟩
    · intro m requireQueued
      rw [backend.markRunning_refused]
      intro u' hu'
      rw [hu, Option.some.injEq] at hu'
      rw [← hu', JobView.claimable, hflag, Bool.not_true, Bool.and_false]
    · rw [hcounted'.scans hu, hcounted.scans hv, hattempt]
  · intro hphase
    have hdiscarding' : System.Discarding backend key v.filed [] s' :=
      ⟨hruns' ▸ hphase, ⟨v.writeCancel label.moment.now current, by rw [hview, Function.update_self],
        JobView.filed_writeCancel _ _ _, System.cancelStatus_ne_succeeded hcurrent⟩, rfl, rfl⟩
    have hkeeps : ∀ history u l u', (System.WellFormed backend u ∧ u.PendingActive ∧
        System.Flagged backend key v.record.attempt u ∧
        System.Discarding backend key v.filed history u) →
        System.step backend products u l = some u' → System.WellFormed backend u' ∧ u'.PendingActive ∧
        System.Flagged backend key v.record.attempt u' ∧
        System.Discarding backend key v.filed (history ++ u.effects l) u' := by
      rintro history u l u' ⟨hu, hactive', hflagged, hdiscarding⟩ hstep
      exact ⟨System.step_wellFormed hu hstep, hactive'.step hstep,
        hflagged.move (System.step_move hu hstep), hdiscarding.step hu hactive' hflagged hstep⟩
    have hdiscarding := (runSteps_history _ hkeeps
      ⟨hformed', hpending.step hlabel, hflagged', hdiscarding'⟩ hrest).2.2.2
    have heffects : s.effects label = [] := by
      apply System.effects_of_ne_run
      intro index event haction
      cases hcommit with
      | locked haction' => cases haction.symm.trans haction'
      | unlocked haction' => cases haction.symm.trans haction'
    have hemitted : emitted (System.step backend products) System.effects s (label :: rest) =
        emitted (System.step backend products) System.effects s' rest := by
      rw [emitted, heffects, hlabel, Option.elim_some, List.nil_append]
    rw [List.nil_append] at hdiscarding
    obtain ⟨u', hu', hfiled, hstatus⟩ := hdiscarding.job
    rw [hemitted]
    refine ⟨hdiscarding.findings, hdiscarding.correlations, ?_, ?_⟩
    · rw [hu', hv, Option.map_some, Option.map_some, hfiled]
    · intro current' hget'
      rw [get_of_view hu', Option.some.injEq] at hget'
      exact hget' ▸ hstatus

/-- A job whose only run is waiting for its scan. -/
def scanRunning : List Label :=
  let m : Moment := ⟨0, "1"⟩
  publishScan 0 "tenant-a" .soc (.obj []) m ++
    [⟨.deliver ⟨[.soc], [], 2, JobExecutor.twice⟩ ⟨"tenant-a", "job_1"⟩, m⟩] ++
    runLabels 0 m [.advance, .advance, .advance]

/-- Its scan yields a finding all the same after the cancellation. -/
def settlesLate : List Label :=
  runLabels 0 ⟨2, "3"⟩ [.scanSettles (.findings [⟨"finding_1", .soc, .high, 1, "Open port", "", none, none,
    none, [], [], ∅, .obj []⟩]), .advance, .advance]

set_option maxRecDepth 8000 in
/-- The theorem applies to that scan, and the job ends as cancelled. -/
theorem cancellation_sticky_settlesLate :
    ∃ s t, runSteps (System.step FindingDict.backend [.soc]) (System.initial FindingDict.backend)
        scanRunning = some s ∧
      runSteps (System.step FindingDict.backend [.soc]) s
        (⟨.requestCancel ⟨"tenant-a", "job_1"⟩, ⟨1, "2"⟩⟩ :: settlesLate) = some t ∧
      System.CancelSticks FindingDict.backend ⟨"tenant-a", "job_1"⟩ s t ∧
      System.ResultsDiscarded FindingDict.backend ⟨"tenant-a", "job_1"⟩ s t
        (emitted (System.step FindingDict.backend [.soc]) System.effects s
          (⟨.requestCancel ⟨"tenant-a", "job_1"⟩, ⟨1, "2"⟩⟩ :: settlesLate)) ∧
      (FindingDict.backend.get t.world ⟨"tenant-a", "job_1"⟩).map JobRecord.status =
        some .cancelled := by
  have hreach : (runSteps (System.step FindingDict.backend [.soc])
      (System.initial FindingDict.backend) scanRunning).any (fun s =>
        (FindingDict.backend.get s.world ⟨"tenant-a", "job_1"⟩).any (fun record =>
          !record.status.terminal) &&
        s.runs.any (fun run => run.pc.scanning && run.key = ⟨"tenant-a", "job_1"⟩) &&
        (s.step FindingDict.backend [.soc] ⟨.requestCancel ⟨"tenant-a", "job_1"⟩, ⟨1, "2"⟩⟩).any
          fun s' => (runSteps (System.step FindingDict.backend [.soc]) s' settlesLate).any fun t =>
            (FindingDict.backend.get t.world ⟨"tenant-a", "job_1"⟩).map JobRecord.status =
              some .cancelled) = true := by decide +kernel
  obtain ⟨s, hs, h⟩ := (Option.any_eq_true _ _).mp hreach
  simp only [Bool.and_eq_true] at h
  obtain ⟨⟨hjob, hscan⟩, hcancel⟩ := h
  obtain ⟨record, hget, hactive⟩ := (Option.any_eq_true _ _).mp hjob
  obtain ⟨s', hlabel, h⟩ := (Option.any_eq_true _ _).mp hcancel
  obtain ⟨t, ht, hstatus⟩ := (Option.any_eq_true _ _).mp h
  obtain ⟨hsticks, hdiscards⟩ := cancellation_sticky FindingDict.backend [.soc] hs hget
    (by simpa using hactive) (.locked rfl) hlabel ht
  obtain ⟨run, hmem, hrun⟩ := List.any_eq_true.mp hscan
  rw [Bool.and_eq_true, decide_eq_true_eq] at hrun
  have halone := (System.reachable_counted hs).2.scanning_alone hmem hrun.1
  rw [hrun.2] at halone
  exact ⟨s, t, hs, runSteps_cons_eq_some.mpr ⟨s', hlabel, ht⟩, hsticks, hdiscards halone,
    of_decide_eq_true hstatus⟩

end SharedIntegration

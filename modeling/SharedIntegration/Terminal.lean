import SharedIntegration.Claiming

/-!
# When terminal statuses are absorbing

`transition` writes any status over any other. Three of its callers do not hold the claim on
the job: the missing-adapter branch, the cancellation at the top of the first attempt, and
the dispatch failure of `create_scan`; `request_cancel` may also write late where the backend
does not lock. A run of the system in which these four write only to a job that nobody has
finished or claimed keeps every terminal status and appends no further status event.
-/

namespace SharedIntegration

open Transition

/-- The position belongs to a run that has claimed the job and not yet ended. -/
def Pc.holds : Pc → Bool
  | .trying _ _ => true
  | .loopTop attempt | .cancelling attempt | .claiming attempt _ => attempt ≠ 1
  | _ => false

/-- The next step at this position writes a status without having claimed the job. -/
def Pc.writesUnclaimed : Pc → Bool
  | .unknownSource _ => true
  | .cancelling attempt => attempt = 1
  | _ => false

/-- One for a run that holds the claim on its job. -/
def Run.holding (run : Run) : ℕ := if run.pc.holds then 1 else 0

/-- The status events of a log. -/
def statusEvents (log : List JobEvent) : List JobEvent := log.filter fun event => event.kind = "status"

namespace System

variable {World : Type} {backend : Backend World}

/-- Nobody has finished the job and no living run holds a claim on it. -/
structure Unclaimed (backend : Backend World) (key : JobKey) (s : System World) : Prop where
  active : ∀ v, backend.view s.world key = some v → v.record.status.terminal = false
  idle : total Run.holding key s.runs = 0

instance {key : JobKey} {s : System World} : Decidable (Unclaimed backend key s) :=
  decidable_of_iff ((∀ v ∈ backend.view s.world key, v.record.status.terminal = false) ∧
    total Run.holding key s.runs = 0) ⟨fun h => ⟨h.1, h.2⟩, fun h => ⟨h.1, h.2⟩⟩

/-- The condition on a step: whoever writes a status of the job without holding it finds the
job unclaimed, and a late write of `request_cancel` finds the status it has read or writes. -/
def Orderly (backend : Backend World) (key : JobKey) (s : System World) (label : Label) : Prop :=
  match label.action with
  | .run index event => ∀ run ∈ s.runs[index]?, run.key = key → run.pc.writesUnclaimed = true →
      event.advances = true → Unclaimed backend key s
  | .scan index _ => ∀ call ∈ s.scans[index]?, call.pc.failingKey = some key →
      Unclaimed backend key s
  | .cancelWrite index => ∀ pending ∈ s.cancels[index]?, pending.1 = key →
      ∀ v ∈ backend.view s.world key, v.record.status = pending.2 ∨
        v.record.status = JobRecord.cancelStatus pending.2
  | _ => True

instance (key : JobKey) (s : System World) : ∀ label, Decidable (Orderly backend key s label)
  | ⟨.run index event, _⟩ => inferInstanceAs (Decidable (∀ run ∈ s.runs[index]?, run.key = key →
      run.pc.writesUnclaimed = true → event.advances = true → Unclaimed backend key s))
  | ⟨.scan index _, _⟩ => inferInstanceAs (Decidable (∀ call ∈ s.scans[index]?,
      call.pc.failingKey = some key → Unclaimed backend key s))
  | ⟨.cancelWrite index, _⟩ => inferInstanceAs (Decidable (∀ pending ∈ s.cancels[index]?,
      pending.1 = key → ∀ v ∈ backend.view s.world key, v.record.status = pending.2 ∨
        v.record.status = JobRecord.cancelStatus pending.2))
  | ⟨.scanRequest .., _⟩ | ⟨.deliver .., _⟩ | ⟨.requestCancel _, _⟩ | ⟨.cancelRead _, _⟩ =>
    isTrue trivial

/-- A claim is held by at most one run, and only while the job is running. -/
structure Exclusive (backend : Backend World) (key : JobKey) (s : System World) : Prop where
  single : total Run.holding key s.runs ≤ 1
  running : ∀ v, backend.view s.world key = some v → 0 < total Run.holding key s.runs →
    v.record.status = .running

/-- What stays of a finished job: its status and its status events. -/
structure Settled (backend : Backend World) (key : JobKey) (status : JobStatus) (log : List JobEvent)
    (s : System World) : Prop where
  terminal : status.terminal = true
  stored : ∃ v, backend.view s.world key = some v ∧ v.record.status = status ∧
    statusEvents v.log = log

end System

/-- A run holds its claim or it does not. -/
theorem Run.holding_le_one (run : Run) : run.holding ≤ 1 := by
  unfold Run.holding
  split <;> omega

/-- A run at a position that holds the claim. -/
theorem Run.holding_eq_one (run : Run) (h : run.pc.holds = true) : run.holding = 1 := by
  rw [Run.holding, if_pos h]

/-- What the move of a run means for the status of its job and for its claim on it. -/
inductive Run.Move.Effect (run run' : Run) (event : RunEvent) (v v' : JobView) : Prop
  | keeps (hstatus : v'.record.status = v.record.status)
      (hlog : statusEvents v'.log = statusEvents v.log) (hholding : run'.holding ≤ run.holding)
  | claims (hqueued : v.record.status = .queued) (hrunning : v'.record.status = .running)
  | claimsAgain (hheld : run.holding = 1) (hwas : v.record.status = .running)
      (hrunning : v'.record.status = .running)
  | finishes (hheld : run.holding = 1) (hended : run'.holding = 0)
  | writesUnclaimed (hpc : run.pc.writesUnclaimed = true) (hevent : event = .advance)
      (hended : run'.holding = 0)

/-- A worker's own events are no status events. -/
theorem statusEvents_append {v : JobView} {kind : String} (hkind : kind ∈ workerKinds)
    (payload : Document) (now : Instant) :
    statusEvents (v.append kind payload now).log = statusEvents v.log := by
  have hne : kind ≠ "status" := by
    rintro rfl
    exact absurd hkind (by decide)
  simp [statusEvents, hne]

/-- Every move has one of these effects. -/
theorem Run.Move.effect {now : Instant} {run run' : Run} {event : RunEvent} {v v' : JobView}
    (h : run.Move now event v v' run') : Effect run run' event v v' := by
  cases h with
  | crash | skip | abort | accept | reject | stopAtTop | refuse | findTerminal | abandonRetry
  | loseRetry =>
    exact .keeps rfl rfl (by simp [Run.holding, Run.goto, Run.admitted, Pc.holds])
  | cancelAtTop hpc | proceed hpc =>
    exact .keeps rfl rfl (by simp [Run.holding, Run.goto, hpc, Pc.holds])
  | failUnknown message hpc hevent => exact .writesUnclaimed (by rw [hpc]; rfl) hevent rfl
  | @cancel attempt hpc hevent =>
    by_cases hfirst : attempt = 1
    · exact .writesUnclaimed (by simp [hpc, Pc.writesUnclaimed, hfirst]) hevent rfl
    · exact .finishes (run.holding_eq_one (by simp [hpc, Pc.holds, hfirst])) rfl
  | @claim attempt payload hpc hclaimable =>
    have hstatus := (Bool.and_eq_true_iff.mp hclaimable).1
    by_cases hfirst : attempt = 1
    · exact .claims (by simpa [hfirst] using hstatus) rfl
    · exact .claimsAgain (run.holding_eq_one (by simp [hpc, Pc.holds, hfirst]))
        (by simpa [hfirst] using hstatus) rfl
  | work stage' hpc hlog =>
    have hheld := run.holding_eq_one (by rw [hpc]; rfl)
    rcases hlog with rfl | ⟨kind, hkind, payload, rfl⟩
    · exact .keeps rfl rfl (by rw [hheld]; exact Run.holding_le_one _)
    · exact .keeps rfl (statusEvents_append hkind payload now)
        (by rw [hheld]; exact Run.holding_le_one _)
  | finish _ _ _ _ _ hpc => exact .finishes (run.holding_eq_one (by rw [hpc]; rfl)) rfl
  | retry hpc =>
    have hheld := run.holding_eq_one (by rw [hpc]; rfl)
    exact .keeps rfl rfl (by rw [hheld]; exact Run.holding_le_one _)

namespace System

variable {World : Type} {backend : Backend World}

/-- No claim is held in a new system. -/
theorem exclusive_initial (key : JobKey) : Exclusive backend key (initial backend) := by
  constructor <;> simp [initial]

/-- A job that is not stored has no runs, so nobody holds it. -/
theorem WellFormed.total_missing {s : System World} (hs : WellFormed backend s) {key : JobKey}
    (hnone : backend.view s.world key = none) (count : Run → ℕ) : total count key s.runs = 0 := by
  apply total_eq_zero
  rintro run hrun rfl
  have hstored := hs.runs run hrun
  rw [hnone] at hstored
  cases hstored

/-- A write outside all runs keeps the claim exclusive if it leaves a held job running. -/
theorem Exclusive.write {key key' : JobKey} {s s' : System World} {v' : JobView}
    (hs : Exclusive backend key s) (hruns' : s'.runs = s.runs)
    (hview : backend.view s'.world = Function.update (backend.view s.world) key' (some v'))
    (hheld : key = key' → 0 < total Run.holding key s.runs → v'.record.status = .running) :
    Exclusive backend key s' := by
  refine ⟨hruns' ▸ hs.single, ?_⟩
  intro u hu hholding
  rw [hruns'] at hholding
  by_cases hkey : key = key'
  · rw [hview, hkey, Function.update_self, Option.some.injEq] at hu
    rw [← hu]
    exact hheld hkey hholding
  · rw [hview, Function.update_of_ne hkey] at hu
    exact hs.running u hu hholding

/-- An orderly step of a run keeps the claim exclusive. -/
theorem Exclusive.run {key : JobKey} {s s' : System World} {event : RunEvent} {run run' : Run}
    {before after : List Run} {v v' : JobView} (hs : Exclusive backend key s)
    (hruns : s.runs = before ++ run :: after) (hruns' : s'.runs = before ++ run' :: after)
    (hsame : run'.key = run.key) (hv : backend.view s.world run.key = some v)
    (hview : backend.view s'.world = Function.update (backend.view s.world) run.key (some v'))
    (heffect : Run.Move.Effect run run' event v v')
    (hguard : run.key = key → run.pc.writesUnclaimed = true → event = .advance →
      Unclaimed backend key s) : Exclusive backend key s' := by
  have htotal := total_step Run.holding key hsame hruns hruns'
  have hsingle := hs.single
  have hle := run'.holding_le_one
  by_cases hkey : run.key = key
  · subst hkey
    rw [if_pos rfl, if_pos rfl] at htotal
    have hrunning := hs.running v hv
    have hnew : ∀ u, backend.view s'.world run.key = some u → v' = u := by
      intro u hu
      rwa [hview, Function.update_self, Option.some.injEq] at hu
    cases heffect with
    | keeps hstatus hlog hholding =>
      refine ⟨by omega, fun u hu hheld => ?_⟩
      rw [← hnew u hu, hstatus]
      exact hrunning (by omega)
    | claims hqueued hrunning' =>
      have hzero : total Run.holding run.key s.runs = 0 := by
        by_contra hne
        have := hrunning (by omega)
        simp_all
      exact ⟨by omega, fun u hu _ => hnew u hu ▸ hrunning'⟩
    | claimsAgain hheld hwas hrunning' => exact ⟨by omega, fun u hu _ => hnew u hu ▸ hrunning'⟩
    | finishes hheld hended =>
      refine ⟨by omega, fun u hu hholding => ?_⟩
      omega
    | writesUnclaimed hpc hevent hended =>
      have hidle := (hguard rfl hpc hevent).idle
      refine ⟨by omega, fun u hu hholding => ?_⟩
      omega
  · rw [if_neg hkey, if_neg hkey] at htotal
    refine ⟨by omega, fun u hu hholding => ?_⟩
    rw [hview, Function.update_of_ne (Ne.symm hkey)] at hu
    exact hs.running u hu (by omega)

/-- The guard of a step, read for the run that takes it. -/
theorem Orderly.run {key : JobKey} {s : System World} {label : Label} {index : ℕ}
    {event : RunEvent} {before after : List Run} {run : Run} (hguard : Orderly backend key s label)
    (haction : label.action = .run index event) (hruns : s.runs = before ++ run :: after)
    (hindex : before.length = index) :
    run.key = key → run.pc.writesUnclaimed = true → event = .advance → Unclaimed backend key s := by
  rintro hkey hpc rfl
  rw [Orderly, haction] at hguard
  exact hguard run (getElem?_of_split hruns hindex) hkey hpc rfl

/-- An orderly step keeps the claim on a job exclusive. -/
theorem Exclusive.move {key : JobKey} {s s' : System World} {label : Label}
    (hs : Exclusive backend key s) (hformed : WellFormed backend s)
    (hguard : Orderly backend key s label) (h : Move backend s label s') :
    Exclusive backend key s' := by
  cases h with
  | run haction hruns hindex hruns' hv hview hmove =>
    exact hs.run hruns hruns' hmove.arguments.1 hv hview hmove.effect
      (hguard.run haction hruns hindex)
  | @deliver executor key' haction hstored hruns' hview =>
    have htotal : total Run.holding key s'.runs = total Run.holding key s.runs := by
      rw [hruns', total_append]
      simp [Run.holding, Run.fresh, Pc.holds]
    exact ⟨by rw [htotal]; exact hs.single, by rw [htotal, hview]; exact hs.running⟩
  | create hnone hview hruns' =>
    refine hs.write hruns' hview fun hkey hheld => ?_
    rw [hkey, hformed.total_missing hnone] at hheld
    cases hheld
  | recordDispatch hv hview hruns' =>
    refine hs.write hruns' hview fun hkey hheld => ?_
    subst hkey
    have hrunning := hs.running _ hv hheld
    exact hrunning
  | failDispatch haction hcall hpc hv hview hruns' =>
    refine hs.write hruns' hview fun hkey hheld => ?_
    rw [Orderly, haction] at hguard
    have hidle := (hguard _ hcall (by rw [hpc, hkey]; rfl)).idle
    omega
  | cancel haction hv hview hruns' =>
    refine hs.write hruns' hview fun hkey hheld => ?_
    have hrunning := hs.running _ (hkey ▸ hv) hheld
    simp [JobView.requestCancel, JobView.writeCancel, JobRecord.flagCancel, JobRecord.cancelStatus,
      hrunning, JobStatus.terminal]
  | @writeCancel index key' current v haction hpending hv hview hruns' =>
    refine hs.write hruns' hview fun hkey hheld => ?_
    subst hkey
    have hrunning := hs.running _ hv hheld
    rw [Orderly, haction] at hguard
    rcases hguard _ hpending rfl _ hv with hcurrent | hcurrent
    · change JobRecord.cancelStatus current = _
      change v.record.status = current at hcurrent
      rw [← hcurrent, hrunning]
      rfl
    · exact hcurrent.symm.trans hrunning
  | quiet hview hruns' => exact ⟨hruns' ▸ hs.single, by rw [hview, hruns']; exact hs.running⟩

/-- A terminal status is neither queued nor running. -/
theorem ne_of_terminal {status : JobStatus} (h : status.terminal = true) :
    status ≠ .queued ∧ status ≠ .running := by
  cases status <;> simp_all [JobStatus.terminal]

/-- A write outside all runs keeps a job settled if it keeps status and status events. -/
theorem Settled.write {key key' : JobKey} {status : JobStatus} {log : List JobEvent}
    {s s' : System World} {v v' : JobView} (hs : Settled backend key status log s)
    (hv : backend.view s.world key' = some v)
    (hview : backend.view s'.world = Function.update (backend.view s.world) key' (some v'))
    (hkeep : key = key' → v.record.status.terminal = true →
      v'.record.status = v.record.status ∧ statusEvents v'.log = statusEvents v.log) :
    Settled backend key status log s' := by
  obtain ⟨hterminal, u, hu, hstatus, hlog⟩ := hs
  refine ⟨hterminal, ?_⟩
  by_cases hkey : key = key'
  · subst hkey
    rw [hv, Option.some.injEq] at hu
    subst hu
    obtain ⟨hstatus', hlog'⟩ := hkeep rfl (hstatus ▸ hterminal)
    exact ⟨v', by rw [hview, Function.update_self], hstatus'.trans hstatus, hlog'.trans hlog⟩
  · exact ⟨u, by rw [hview, Function.update_of_ne hkey, hu], hstatus, hlog⟩

/-- An orderly step of an exclusive system leaves a settled job settled. -/
theorem Settled.move {key : JobKey} {status : JobStatus} {log : List JobEvent}
    {s s' : System World} {label : Label} (hs : Settled backend key status log s)
    (hexclusive : Exclusive backend key s) (hguard : Orderly backend key s label)
    (h : Move backend s label s') : Settled backend key status log s' := by
  cases h with
  | @run index event before run run' after v v' haction hruns hindex hruns' hv hview hmove =>
    refine hs.write hv hview fun hkey hterminal => ?_
    subst hkey
    obtain ⟨hqueued, hrunning⟩ := ne_of_terminal hterminal
    cases hmove.effect with
    | keeps hstatus hlog hholding => exact ⟨hstatus, hlog⟩
    | claims hwas => exact absurd hwas hqueued
    | claimsAgain hheld hwas => exact absurd hwas hrunning
    | finishes hheld hended =>
      have hmem : run ∈ s.runs := by simp [hruns]
      have hle := le_total Run.holding hmem rfl
      exact absurd (hexclusive.running v hv (by omega)) hrunning
    | writesUnclaimed hpc hevent hended =>
      have hactive := (hguard.run haction hruns hindex rfl hpc hevent).active v hv
      rw [hactive] at hterminal
      cases hterminal
  | deliver haction hstored hruns' hview => exact ⟨hs.terminal, by rw [hview]; exact hs.stored⟩
  | create hnone hview hruns' =>
    obtain ⟨hterminal, u, hu, hstatus, hlog⟩ := hs
    refine ⟨hterminal, u, ?_, hstatus, hlog⟩
    rw [hview, Function.update_of_ne, hu]
    rintro rfl
    rw [hnone] at hu
    cases hu
  | recordDispatch hv hview hruns' => exact hs.write hv hview fun _ _ => ⟨rfl, rfl⟩
  | failDispatch haction hcall hpc hv hview hruns' =>
    refine hs.write hv hview fun hkey hterminal => ?_
    subst hkey
    rw [Orderly, haction] at hguard
    have hactive := (hguard _ hcall (by rw [hpc]; rfl)).active _ hv
    rw [hactive] at hterminal
    cases hterminal
  | cancel haction hv hview hruns' =>
    refine hs.write hv hview fun hkey hterminal => ?_
    rw [JobView.requestCancel, if_pos hterminal]
    exact ⟨rfl, rfl⟩
  | @writeCancel index key' current v haction hpending hv hview hruns' =>
    refine hs.write hv hview fun hkey hterminal => ⟨?_, by simp [JobView.writeCancel, statusEvents]⟩
    subst hkey
    rw [Orderly, haction] at hguard
    rcases hguard _ hpending rfl _ hv with hcurrent | hcurrent
    · change JobRecord.cancelStatus current = _
      change v.record.status = current at hcurrent
      rw [← hcurrent, JobRecord.cancelStatus, if_neg (ne_of_terminal hterminal).1]
    · exact hcurrent.symm
  | quiet hview hruns' => exact ⟨hs.terminal, by rw [hview]; exact hs.stored⟩

end System

/-- In every orderly run of the system, a job that has reached a terminal status keeps it and
gets no further status event. -/
theorem terminal_absorbing {World : Type} (backend : Backend World) (products : List FindingSource)
    {first rest : List Label} {s s' : System World} {key : JobKey} {v : JobView}
    (hguard : GuardedAlong (System.step backend products) (System.Orderly backend key)
      (System.initial backend) (first ++ rest))
    (hfirst : runSteps (System.step backend products) (System.initial backend) first = some s)
    (hrest : runSteps (System.step backend products) s rest = some s')
    (hv : backend.view s.world key = some v) (hterminal : v.record.status.terminal = true) :
    ∃ v', backend.view s'.world key = some v' ∧ v'.record.status = v.record.status ∧
      statusEvents v'.log = statusEvents v.log := by
  have hstep : ∀ t label t', System.WellFormed backend t ∧ System.Exclusive backend key t →
      System.Orderly backend key t label → System.step backend products t label = some t' →
      System.WellFormed backend t' ∧ System.Exclusive backend key t' := by
    rintro t label t' ⟨hformed, hexclusive⟩ horderly hstep
    exact ⟨System.step_wellFormed hformed hstep,
      hexclusive.move hformed horderly (System.step_move hformed hstep)⟩
  have hs := runSteps_guarded_invariant _ hstep
    ⟨System.wellFormed_initial, System.exclusive_initial key⟩ hguard.of_append hfirst
  have hsettled := runSteps_guarded_invariant (fun t => (System.WellFormed backend t ∧
      System.Exclusive backend key t) ∧
      System.Settled backend key v.record.status (statusEvents v.log) t)
    (fun t label t' ht horderly htstep => ⟨hstep t label t' ht.1 horderly htstep,
      ht.2.move ht.1.2 horderly (System.step_move ht.1.1 htstep)⟩)
    ⟨hs, hterminal, v, hv, rfl, rfl⟩ (hguard.after hfirst) hrest
  exact hsettled.2.stored

/-- A job that its only run brings to success. -/
def scannedOnce : List Label :=
  let m : Moment := ⟨0, "1"⟩
  publishScan 0 "tenant-a" .soc (.obj []) m ++
    [⟨.deliver ⟨[.soc], [], 2, JobExecutor.twice⟩ ⟨"tenant-a", "job_1"⟩, m⟩] ++
    runLabels 0 m [.advance, .advance, .advance, .scanSettles (.findings []), .advance, .advance,
      .advance]

/-- A late cancellation and a second delivery of the finished job. -/
def disturbedLater : List Label :=
  [⟨.requestCancel ⟨"tenant-a", "job_1"⟩, ⟨1, "2"⟩⟩,
    ⟨.deliver ⟨[], [], 2, JobExecutor.twice⟩ ⟨"tenant-a", "job_1"⟩, ⟨1, "2"⟩⟩] ++
    runLabels 1 ⟨1, "2"⟩ [.advance]

set_option maxRecDepth 4000 in
/-- The theorem applies to that job. -/
theorem terminal_absorbing_scannedOnce :
    ∃ s s' v v', runSteps (System.step FindingDict.backend [.soc])
        (System.initial FindingDict.backend) scannedOnce = some s ∧
      runSteps (System.step FindingDict.backend [.soc]) s disturbedLater = some s' ∧
      FindingDict.backend.view s.world ⟨"tenant-a", "job_1"⟩ = some v ∧
      v.record.status.terminal = true ∧
      FindingDict.backend.view s'.world ⟨"tenant-a", "job_1"⟩ = some v' ∧
      v'.record.status = v.record.status ∧ statusEvents v'.log = statusEvents v.log := by
  have hguard : GuardedAlong (System.step FindingDict.backend [.soc])
      (System.Orderly FindingDict.backend ⟨"tenant-a", "job_1"⟩)
      (System.initial FindingDict.backend) (scannedOnce ++ disturbedLater) := by decide
  have hreach : (runSteps (System.step FindingDict.backend [.soc])
      (System.initial FindingDict.backend) scannedOnce).any (fun s =>
        (runSteps (System.step FindingDict.backend [.soc]) s disturbedLater).isSome &&
        (FindingDict.backend.view s.world ⟨"tenant-a", "job_1"⟩).any fun v =>
          v.record.status.terminal) = true := by decide
  obtain ⟨s, hs, h⟩ := (Option.any_eq_true _ _).mp hreach
  rw [Bool.and_eq_true] at h
  obtain ⟨s', hs'⟩ := Option.isSome_iff_exists.mp h.1
  obtain ⟨v, hv, hterminal⟩ := (Option.any_eq_true _ _).mp h.2
  obtain ⟨v', hv', hsame⟩ :=
    terminal_absorbing FindingDict.backend [.soc] hguard hs hs' hv hterminal
  exact ⟨s, s', v, v', hs, hs', hv, hterminal, hv', hsame⟩

/-- Worker 0 claims a job and scans; worker 1, holding a second delivery, has read the running
job before a cancellation is requested and writes it after worker 0 polled for the last time. -/
def cancelledByDuplicate : List Label :=
  let m : Moment := ⟨0, "1"⟩
  let executor : JobExecutor := ⟨[.soc], [], 2, JobExecutor.twice⟩
  let key : JobKey := ⟨"tenant-a", "job_1"⟩
  publishScan 0 "tenant-a" .soc (.obj []) m ++
    [⟨.deliver executor key, m⟩, ⟨.deliver executor key, m⟩] ++
    runLabels 0 m [.advance, .advance, .advance] ++ runLabels 1 m [.advance] ++
    runLabels 0 m [.scanSettles (.findings []), .advance] ++ [⟨.requestCancel key, m⟩] ++
    runLabels 1 m [.advance, .advance]

set_option maxRecDepth 4000 in
/-- Worker 0 then stores its results and overwrites the terminal status. -/
theorem terminal_overwritten :
    ∃ s s', runSteps (System.step FindingDict.backend [.soc]) (System.initial FindingDict.backend)
        cancelledByDuplicate = some s ∧
      runSteps (System.step FindingDict.backend [.soc]) s
        (runLabels 0 ⟨1, "2"⟩ [.advance, .advance]) = some s' ∧
      (FindingDict.backend.get s.world ⟨"tenant-a", "job_1"⟩).map JobRecord.status =
        some .cancelled ∧
      (FindingDict.backend.get s'.world ⟨"tenant-a", "job_1"⟩).map JobRecord.status =
        some .succeeded := by
  have hboth : (runSteps (System.step FindingDict.backend [.soc])
      (System.initial FindingDict.backend) cancelledByDuplicate).any (fun s =>
        (FindingDict.backend.get s.world ⟨"tenant-a", "job_1"⟩).map JobRecord.status =
          some .cancelled &&
        (runSteps (System.step FindingDict.backend [.soc]) s
          (runLabels 0 ⟨1, "2"⟩ [.advance, .advance])).any fun s' =>
            (FindingDict.backend.get s'.world ⟨"tenant-a", "job_1"⟩).map JobRecord.status =
              some .succeeded) = true := by decide
  obtain ⟨s, hs, h⟩ := (Option.any_eq_true _ _).mp hboth
  rw [Bool.and_eq_true, decide_eq_true_eq] at h
  obtain ⟨s', hs', h'⟩ := (Option.any_eq_true _ _).mp h.2
  exact ⟨s, s', hs, hs', h.1, of_decide_eq_true h'⟩

end SharedIntegration

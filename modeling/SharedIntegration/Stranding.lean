import SharedIntegration.Terminal

/-!
# When no job is stranded

A run that has claimed its job ends by writing a terminal status, except at two places. The
back-off before a retry is awaited inside an exception handler, where nothing catches a
cancellation of the task or the failure of the retry event. And between the last look at the
job and the claim of a further attempt a cancellation makes that claim fail, after which the
run returns. A run of the system that avoids both strands nothing.
-/

namespace SharedIntegration

open Transition

/-- The event ends the run while it prepares a retry. -/
def Pc.losesRetry : Pc → RunEvent → Bool
  | .trying _ .sleeping, .taskCancelled => true
  | .trying _ (.retrying _), .appendConflict => true
  | _, _ => false

/-- The run is about to claim its job for a further attempt. -/
def Pc.reclaims : Pc → Bool
  | .claiming attempt _ => attempt ≠ 1
  | _ => false

/-- A move never undoes a terminal status and never requests a cancellation. -/
theorem Run.Move.keeps {now : Instant} {run run' : Run} {event : RunEvent} {v v' : JobView}
    (h : run.Move now event v v' run') :
    (v.record.status.terminal = true → v'.record.status.terminal = true) ∧
      v'.record.cancelRequested = v.record.cancelRequested := by
  cases h with
  | claim hpc hclaimable =>
    refine ⟨fun hterminal => ?_, rfl⟩
    have hstatus := (Bool.and_eq_true_iff.mp hclaimable).1
    rw [decide_eq_true_eq] at hstatus
    rw [hstatus] at hterminal
    split at hterminal <;> cases hterminal
  | work stage' hpc hlog =>
    rcases hlog with rfl | ⟨kind, -, payload, rfl⟩ <;> exact ⟨id, rfl⟩
  | finish status _ _ _ _ _ hstatus _ => exact ⟨fun _ => hstatus, rfl⟩
  | failUnknown | cancel => exact ⟨fun _ => rfl, rfl⟩
  | _ => exact ⟨id, rfl⟩

/-- A run that has claimed its job has not started anew. -/
theorem Run.Counted.unclaimed {run : Run} (hrun : run.Counted) (hpc : run.pc.claims = some 0) :
    run.queuedClaims = 0 := by
  have hclaims := hrun.position 0 hpc
  have hqueued := hrun.queued
  rwa [if_pos hclaims] at hqueued

namespace System

variable {World : Type} {backend : Backend World}

/-- Some run is about to claim the unfinished job for a further attempt. -/
def Reclaiming (backend : Backend World) (key : JobKey) (s : System World) : Prop :=
  (∃ run ∈ s.runs, run.key = key ∧ run.pc.reclaims = true) ∧
    ∀ v ∈ backend.view s.world key, v.record.status.terminal = false

/-- The condition on a step: no retry is lost, no cancellation is written just before a further
claim, and a late write of `request_cancel` finds the status it has read or writes. -/
def Attended (backend : Backend World) (key : JobKey) (s : System World) (label : Label) : Prop :=
  match label.action with
  | .run index event => ∀ run ∈ s.runs[index]?, run.key = key → run.pc.losesRetry event = false
  | .requestCancel key' => key' = key → ¬ Reclaiming backend key s
  | .cancelWrite index => ∀ pending ∈ s.cancels[index]?, pending.1 = key →
      ¬ Reclaiming backend key s ∧ ∀ v ∈ backend.view s.world key,
        v.record.status = pending.2 ∨ v.record.status = JobRecord.cancelStatus pending.2
  | _ => True

instance (key : JobKey) (s : System World) : Decidable (Reclaiming backend key s) :=
  inferInstanceAs (Decidable ((∃ run ∈ s.runs, run.key = key ∧ run.pc.reclaims = true) ∧
    ∀ v ∈ backend.view s.world key, v.record.status.terminal = false))

instance (key : JobKey) (s : System World) : ∀ label, Decidable (Attended backend key s label)
  | ⟨.run index event, _⟩ => inferInstanceAs (Decidable (∀ run ∈ s.runs[index]?, run.key = key →
      run.pc.losesRetry event = false))
  | ⟨.requestCancel key', _⟩ => inferInstanceAs (Decidable (key' = key → ¬ Reclaiming backend key s))
  | ⟨.cancelWrite index, _⟩ => inferInstanceAs (Decidable (∀ pending ∈ s.cancels[index]?,
      pending.1 = key → ¬ Reclaiming backend key s ∧ ∀ v ∈ backend.view s.world key,
        v.record.status = pending.2 ∨ v.record.status = JobRecord.cancelStatus pending.2))
  | ⟨.scanRequest .., _⟩ | ⟨.scan .., _⟩ | ⟨.deliver .., _⟩ | ⟨.cancelRead _, _⟩ => isTrue trivial

/-- What a run owes its job: when it has ended after a claim the job is finished, and when it
is about to claim again a requested cancellation has been carried out. -/
structure Owes (run : Run) (v : JobView) : Prop where
  ended : 0 < run.queuedClaims → ∀ ending, run.pc = .done ending → v.record.status.terminal = true
  reclaim : run.pc.reclaims = true → v.record.cancelRequested = true →
    v.record.status.terminal = true

/-- Every run of the job does what it owes. -/
def Followed (backend : Backend World) (key : JobKey) (s : System World) : Prop :=
  ∀ v, backend.view s.world key = some v → ∀ run ∈ s.runs, run.key = key → Owes run v

/-- A write that leaves a finished job finished and requests no cancellation changes nothing
about what is owed. -/
theorem Owes.keep {run : Run} {v v' : JobView} (h : Owes run v)
    (hterminal : v.record.status.terminal = true → v'.record.status.terminal = true)
    (hcancel : v'.record.cancelRequested = true → v.record.cancelRequested = true) : Owes run v' :=
  ⟨fun hclaimed ending hpc => hterminal (h.ended hclaimed ending hpc),
    fun hpc hrequested => hterminal (h.reclaim hpc (hcancel hrequested))⟩

/-- Nothing is owed to a finished job. -/
theorem Owes.of_terminal {run : Run} {v : JobView} (h : v.record.status.terminal = true) :
    Owes run v := ⟨fun _ _ _ => h, fun _ _ => h⟩

/-- A run that is alive and not about to claim again owes nothing yet. -/
theorem Owes.of_pc {run : Run} {v : JobView} (hdone : ∀ ending, run.pc ≠ .done ending)
    (hreclaim : run.pc.reclaims = false) : Owes run v where
  ended _ ending hpc := absurd hpc (hdone ending)
  reclaim hpc := by
    rw [hreclaim] at hpc
    cases hpc

/-- A run that has not claimed its job and is not about to do so again owes nothing. -/
theorem Owes.of_unclaimed {run : Run} {v : JobView} (hclaims : run.queuedClaims = 0)
    (hreclaim : run.pc.reclaims = false) : Owes run v where
  ended hclaimed := by omega
  reclaim hpc := by
    rw [hreclaim] at hpc
    cases hpc

/-- The run that takes a step does what it owes, unless the step loses a retry. -/
theorem Owes.move {now : Instant} {run run' : Run} {event : RunEvent} {v v' : JobView}
    (h : Owes run v) (hcounted : run.Counted)
    (hqueued : 0 < run.queuedClaims → v.record.status ≠ .queued)
    (hguard : run.pc.losesRetry event = false) (hmove : run.Move now event v v' run') :
    Owes run' v' := by
  cases hmove with
  | crash | accept | reject | cancelAtTop | work | retry | claim =>
    refine .of_pc (fun ending hpc => ?_) rfl
    cases hpc
  | skip hpc hterminal | findTerminal hpc hterminal => exact .of_terminal hterminal
  | abort hpc => exact .of_unclaimed (hcounted.unclaimed (by rw [hpc]; rfl)) rfl
  | failUnknown | cancel => exact .of_terminal rfl
  | stopAtTop hpc hstatus => exact .of_terminal (by rw [hstatus]; rfl)
  | proceed hpc hstatus hrequested =>
    refine ⟨fun hclaimed ending hpc' => ?_, fun _ hrequested' => ?_⟩
    · cases hpc'
    · rw [hrequested] at hrequested'
      cases hrequested'
  | @refuse attempt payload hpc hclaimable =>
    by_cases hfirst : attempt = 1
    · exact .of_unclaimed (hcounted.unclaimed (by simp [hpc, hfirst, Pc.claims])) rfl
    · -- the job is not queued; if it is running, the claim failed for a requested cancellation
      refine ⟨fun hclaimed ending _ => ?_, fun hpc' => by cases hpc'⟩
      have hreclaim := h.reclaim (by simp [hpc, hfirst, Pc.reclaims])
      have hnotQueued := hqueued hclaimed
      simp only [JobView.claimable, hfirst, decide_false, Bool.false_eq_true, if_false] at hclaimable
      cases hstatus : v.record.status <;> simp_all [JobStatus.terminal]
  | finish _ _ _ _ _ _ hstatus _ => exact .of_terminal hstatus
  | abandonRetry hpc hevent | loseRetry hpc hevent =>
    rw [hpc, hevent] at hguard
    cases hguard

/-- A write outside all runs is harmless when what the runs owe carries over. -/
theorem Followed.write {key key' : JobKey} {s s' : System World} {v v' : JobView}
    (hs : Followed backend key s) (hv : backend.view s.world key' = some v)
    (hruns' : s'.runs = s.runs)
    (hview : backend.view s'.world = Function.update (backend.view s.world) key' (some v'))
    (hkeep : key = key' → ∀ run ∈ s.runs, run.key = key → Owes run v → Owes run v') :
    Followed backend key s' := by
  intro u hu run hrun hkey
  rw [hruns'] at hrun
  by_cases hother : key = key'
  · rw [hview, hother, Function.update_self, Option.some.injEq] at hu
    subst hu
    exact hkeep hother run hrun hkey (hs v (hother ▸ hv) run hrun hkey)
  · rw [hview, Function.update_of_ne hother] at hu
    exact hs u hu run hrun hkey

/-- A written cancellation leaves a finished job finished, and is owed by nobody who is not
about to claim again. -/
theorem Owes.cancelled {run : Run} {v v' : JobView} (h : Owes run v)
    (hterminal : v.record.status.terminal = true → v'.record.status.terminal = true)
    (hreclaim : run.pc.reclaims = true → v.record.status.terminal = true) : Owes run v' :=
  ⟨fun hclaimed ending hpc => hterminal (h.ended hclaimed ending hpc),
    fun hpc _ => hterminal (hreclaim hpc)⟩

/-- When nobody is about to claim the unfinished job again, whoever claims again finds it
finished. -/
theorem terminal_of_not_reclaiming {key : JobKey} {s : System World} {v : JobView}
    (h : ¬ Reclaiming backend key s) (hv : backend.view s.world key = some v) {run : Run}
    (hrun : run ∈ s.runs) (hkey : run.key = key) (hpc : run.pc.reclaims = true) :
    v.record.status.terminal = true := by
  by_contra hactive
  refine h ⟨⟨run, hrun, hkey, hpc⟩, ?_⟩
  intro u hu
  rw [Option.mem_def, hv, Option.some.injEq] at hu
  rw [← hu]
  exact Bool.not_eq_true _ ▸ hactive

/-- An attended step of a run keeps every run of the job doing what it owes. -/
theorem Followed.run {key : JobKey} {s s' : System World} {now : Instant} {event : RunEvent}
    {run run' : Run} {before after : List Run} {v v' : JobView} (hs : Followed backend key s)
    (hcounted : Counted backend s) (hruns : s.runs = before ++ run :: after)
    (hruns' : s'.runs = before ++ run' :: after) (hv : backend.view s.world run.key = some v)
    (hview : backend.view s'.world = Function.update (backend.view s.world) run.key (some v'))
    (hmove : run.Move now event v v' run')
    (hguard : run.key = key → run.pc.losesRetry event = false) : Followed backend key s' := by
  intro u hu other hother hkey
  by_cases hsame : run.key = key
  · subst hsame
    rw [hview, Function.update_self, Option.some.injEq] at hu
    subst hu
    obtain ⟨hterminal, hcancel⟩ := hmove.keeps
    have hkeep : ∀ r ∈ s.runs, r.key = run.key → Owes r v' := fun r hr hrkey =>
      (hs v hv r hr hrkey).keep hterminal fun hrequested => hcancel ▸ hrequested
    rw [hruns'] at hother
    rcases List.mem_append.mp hother with hbefore | hother
    · exact hkeep other (by simp [hruns, hbefore]) hkey
    · rcases List.mem_cons.mp hother with rfl | hafter
      · have hmem : run ∈ s.runs := by simp [hruns]
        have hrun := hcounted.runs run hmem
        refine (hs v hv run hmem rfl).move hrun ?_ (hguard rfl) hmove
        intro hclaimed hqueued
        have hzero := hcounted.queued run.key v hv hqueued
        have hle := le_total Run.claims hmem rfl
        have hqueuedClaims := hrun.queued
        rw [if_pos (by omega)] at hqueuedClaims
        omega
      · exact hkeep other (by simp [hruns, hafter]) hkey
  · rw [hview, Function.update_of_ne (Ne.symm hsame)] at hu
    rw [hruns'] at hother
    rcases List.mem_append.mp hother with hbefore | hother
    · exact hs u hu other (by simp [hruns, hbefore]) hkey
    · rcases List.mem_cons.mp hother with rfl | hafter
      · exact absurd (hmove.arguments.1.symm.trans hkey) hsame
      · exact hs u hu other (by simp [hruns, hafter]) hkey

/-- An attended step keeps every run of the job doing what it owes. -/
theorem Followed.move {key : JobKey} {s s' : System World} {label : Label}
    (hs : Followed backend key s) (hformed : WellFormed backend s) (hcounted : Counted backend s)
    (hguard : Attended backend key s label) (h : Move backend s label s') :
    Followed backend key s' := by
  cases h with
  | @run index event before run run' after v v' haction hruns hindex hruns' hv hview hmove =>
    rw [Attended, haction] at hguard
    exact hs.run hcounted hruns hruns' hv hview hmove (hguard run (getElem?_of_split hruns hindex))
  | @deliver executor key' haction hstored hruns' hview =>
    intro u hu run hrun hkey
    rw [hview] at hu
    rw [hruns'] at hrun
    rcases List.mem_append.mp hrun with hold | hnew
    · exact hs u hu run hold hkey
    · rw [List.mem_singleton.mp hnew]
      exact .of_unclaimed rfl rfl
  | create hnone hview hruns' =>
    intro u hu run hrun hkey
    rw [hruns'] at hrun
    have hstored := hformed.runs run hrun
    rw [hview, Function.update_of_ne] at hu
    · exact hs u hu run hrun hkey
    · rintro rfl
      rw [hkey, hnone] at hstored
      cases hstored
  | recordDispatch hv hview hruns' =>
    exact hs.write hv hruns' hview fun _ _ _ _ h => h.keep id id
  | failDispatch haction hcall hpc hv hview hruns' =>
    exact hs.write hv hruns' hview fun _ _ _ _ h => h.keep (fun _ => rfl) id
  | @cancel key' v haction hv hview hruns' =>
    refine hs.write hv hruns' hview fun hkey run hrun hrunKey h => ?_
    subst hkey
    rw [Attended, haction] at hguard
    refine h.cancelled (fun hterminal => ?_)
      (terminal_of_not_reclaiming (hguard rfl) hv hrun hrunKey)
    rwa [JobView.requestCancel, if_pos hterminal]
  | @writeCancel index key' current v haction hpending hv hview hruns' =>
    refine hs.write hv hruns' hview fun hkey run hrun hrunKey h => ?_
    subst hkey
    rw [Attended, haction] at hguard
    obtain ⟨hreclaiming, hcurrent⟩ := hguard _ hpending rfl
    refine h.cancelled (fun hterminal => ?_)
      (terminal_of_not_reclaiming hreclaiming hv hrun hrunKey)
    change (JobRecord.cancelStatus current).terminal = true
    rcases hcurrent v hv with hstatus | hstatus
    · change v.record.status = current at hstatus
      rwa [← hstatus, JobRecord.cancelStatus, if_neg (ne_of_terminal hterminal).1]
    · rwa [← show v.record.status = JobRecord.cancelStatus current from hstatus]
  | quiet hview hruns' =>
    intro u hu run hrun hkey
    rw [hview] at hu
    rw [hruns'] at hrun
    exact hs u hu run hrun hkey

end System

/-- In every attended run of the system, each run of `execute` that has claimed its job from the
queue and has ended leaves a terminal status behind. -/
theorem claimed_job_ends {World : Type} (backend : Backend World) (products : List FindingSource)
    {schedule : List Label} {s : System World} {run : Run} {ending : Ending}
    (hguard : GuardedAlong (System.step backend products) (System.Attended backend run.key)
      (System.initial backend) schedule)
    (hrun : runSteps (System.step backend products) (System.initial backend) schedule = some s)
    (hmem : run ∈ s.runs) (hclaimed : 0 < run.queuedClaims) (hended : run.pc = .done ending) :
    ∃ record, backend.get s.world run.key = some record ∧ record.status.terminal = true := by
  have hinvariant := runSteps_guarded_invariant (fun s => System.WellFormed backend s ∧
      System.Counted backend s ∧ System.Followed backend run.key s)
    (by
      rintro t label t' ⟨hformed, hcounted, hfollowed⟩ hattended hstep
      have hmove := System.step_move hformed hstep
      exact ⟨System.step_wellFormed hformed hstep, hcounted.move hmove,
        hfollowed.move hformed hcounted hattended hmove⟩)
    ⟨System.wellFormed_initial, System.counted_initial, by simp [System.Followed, System.initial]⟩
    hguard hrun
  obtain ⟨hformed, -, hfollowed⟩ := hinvariant
  obtain ⟨v, hv⟩ := Option.isSome_iff_exists.mp (hformed.runs run hmem)
  exact ⟨v.record, get_of_view hv, (hfollowed v hv run hmem rfl).ended hclaimed ending hended⟩

/-- A run that claims a job and whose scan times out, up to the back-off before its retry. -/
def timedOutOnce : List Label :=
  let m : Moment := ⟨0, "1"⟩
  publishScan 0 "tenant-a" .soc (.obj []) m ++
    [⟨.deliver ⟨[.soc], [], 2, JobExecutor.twice⟩ ⟨"tenant-a", "job_1"⟩, m⟩] ++
    runLabels 0 m [.advance, .advance, .advance,
      .scanSettles (.productError ⟨"ADAPTER_TIMEOUT", true, true, "slow"⟩), .advance, .advance]

/-- The run wakes up, claims the job again and is cancelled while it waits for the scan. -/
def retriedAndCancelled : List Label :=
  timedOutOnce ++ runLabels 0 ⟨1, "2"⟩ [.advance, .advance, .advance, .pollTimeout] ++
    [⟨.requestCancel ⟨"tenant-a", "job_1"⟩, ⟨1, "2"⟩⟩] ++
    runLabels 0 ⟨1, "2"⟩ [.advance, .scanStops .cancelled, .advance]

set_option maxRecDepth 4000 in
/-- The theorem applies to that run. -/
theorem claimed_job_ends_retriedAndCancelled :
    ∃ s run, runSteps (System.step FindingDict.backend [.soc]) (System.initial FindingDict.backend)
        retriedAndCancelled = some s ∧ run ∈ s.runs ∧ run.claims = 2 ∧
      ∃ record, FindingDict.backend.get s.world run.key = some record ∧
        record.status.terminal = true := by
  have hguard : GuardedAlong (System.step FindingDict.backend [.soc])
      (System.Attended FindingDict.backend ⟨"tenant-a", "job_1"⟩)
      (System.initial FindingDict.backend) retriedAndCancelled := by decide
  refine ⟨_, _, rfl, List.mem_singleton.mpr rfl, rfl, ?_⟩
  exact claimed_job_ends FindingDict.backend [.soc] hguard rfl (List.mem_singleton.mpr rfl)
    Nat.one_pos rfl

set_option maxRecDepth 4000 in
/-- A cancellation of the task in the back-off ends the run by `CancelledError`, and a request
just before the second claim ends it normally; both leave the job running. -/
theorem claimed_job_stranded :
    (∃ s run, runSteps (System.step FindingDict.backend [.soc])
        (System.initial FindingDict.backend) (timedOutOnce ++ runLabels 0 ⟨1, "2"⟩ [.taskCancelled]) =
          some s ∧
      s.runs = [run] ∧ run.queuedClaims = 1 ∧ run.pc = .done .cancelledError ∧
      (FindingDict.backend.get s.world run.key).map JobRecord.status = some .running) ∧
    (∃ s run, runSteps (System.step FindingDict.backend [.soc])
        (System.initial FindingDict.backend) (timedOutOnce ++ runLabels 0 ⟨1, "2"⟩ [.advance, .advance] ++
          [⟨.requestCancel ⟨"tenant-a", "job_1"⟩, ⟨1, "2"⟩⟩] ++ runLabels 0 ⟨1, "2"⟩ [.advance]) =
          some s ∧
      s.runs = [run] ∧ run.queuedClaims = 1 ∧ run.pc = .done .returned ∧
      (FindingDict.backend.get s.world run.key).map JobRecord.status = some .running) := by
  refine ⟨⟨_, _, rfl, rfl, rfl, rfl, ?_⟩, ⟨_, _, rfl, rfl, rfl, rfl, ?_⟩⟩
  · decide
  · decide

end SharedIntegration

import SharedIntegration.Stranding

/-!
# What a redelivered message recovers

A message is acknowledged only after its run, so the broker delivers it again when the worker
dies. The new run is an ordinary run of `execute`: it claims a job that is still queued,
leaves a finished one alone, and carries out a requested cancellation or a missing adapter.
A job that the dead worker had already claimed is neither queued nor finished, and the new
run turns away from it as from a job that another worker is executing.
-/

namespace SharedIntegration

open Transition

/-- The run meets no cancellation of its task, no crash and no lost sequence number. -/
def RunEvent.undisturbed : RunEvent → Bool
  | .taskCancelled | .crash | .appendConflict => false
  | _ => true

namespace JobRecord

/-- The job is under a claim, no cancellation is requested and its adapter is registered. -/
def Abandoned (products : List FindingSource) (record : JobRecord) : Prop :=
  record.status = .running ∧ record.cancelRequested = false ∧ record.source ∈ products

instance (products : List FindingSource) (record : JobRecord) : Decidable (record.Abandoned products) :=
  inferInstanceAs (Decidable (record.status = .running ∧ record.cancelRequested = false ∧
    record.source ∈ products))

/-- A finished job is not abandoned. -/
theorem not_abandoned_of_terminal {products : List FindingSource} {record : JobRecord}
    (h : record.status.terminal = true) : ¬ record.Abandoned products := by
  rintro ⟨hrunning, -⟩
  exact (System.ne_of_terminal h).2 hrunning

end JobRecord

/-- The run has found an unfinished job with a registered adapter and not yet written to it. -/
structure Untouched (found : JobRecord) (products : List FindingSource) (v : JobView) : Prop where
  same : v.record = found
  active : found.status.terminal = false
  source : found.source ∈ products

/-- The run holds a claim on a job that was not abandoned when it was found. -/
structure Recovered (found : JobRecord) (products : List FindingSource) (v : JobView) : Prop where
  found : ¬ found.Abandoned products
  running : v.record.status = .running
  requested : v.record.cancelRequested = false

/-- What is known about a job at each position of an undisturbed run that found it as `found`. -/
def Recovers (found : JobRecord) (products : List FindingSource) (v : JobView) : Pc → Prop
  | .start => v.record = found
  | .unknownSource _ | .cancelling _ => ¬ found.Abandoned products
  | .loopTop attempt =>
    if attempt = 1 then Untouched found products v else Recovered found products v
  | .claiming attempt _ =>
    if attempt = 1 then Untouched found products v ∧ v.record.cancelRequested = false
    else Recovered found products v
  | .trying _ _ => Recovered found products v
  | .done _ => v.record.status.terminal = true ↔ ¬ found.Abandoned products
  | .dead => False

/-- The end of a run that wrote or found a terminal status. -/
theorem recovers_done {found : JobRecord} {products : List FindingSource} {v : JobView}
    (hterminal : v.record.status.terminal = true) (hfound : ¬ found.Abandoned products)
    (ending : Ending) : Recovers found products v (.done ending) :=
  ⟨fun _ => hfound, fun _ => hterminal⟩

/-- A job under a live claim of this run is not finished. -/
theorem Recovered.active {found : JobRecord} {products : List FindingSource} {v : JobView}
    (h : Recovered found products v) : v.record.status.terminal = false := by
  rw [h.running]
  rfl

/-- A job that the run has neither finished nor given up is not finished at the top of its loop. -/
theorem Recovers.active_atTop {found : JobRecord} {products : List FindingSource} {v : JobView}
    {attempt : ℕ} (h : Recovers found products v (.loopTop attempt)) :
    v.record.status.terminal = false := by
  change if attempt = 1 then _ else _ at h
  split at h
  · rw [h.same]
    exact h.active
  · exact h.active

/-- The first claim succeeds on a queued job; any other job it turns away is abandoned. -/
theorem Untouched.abandoned_of_refused {found : JobRecord} {products : List FindingSource}
    {v : JobView} (h : Untouched found products v) (hrequested : v.record.cancelRequested = false)
    (hrefused : JobView.claimable true v.record = false) : found.Abandoned products := by
  have hactive := h.active
  rw [h.same] at hrefused hrequested
  rw [JobView.claimable, if_pos rfl, hrequested, Bool.not_false, Bool.and_true,
    decide_eq_false_iff_not] at hrefused
  refine ⟨?_, hrequested, h.source⟩
  cases hstatus : found.status with
  | running => rfl
  | queued => exact absurd hstatus hrefused
  | succeeded | failed | cancelled | timedOut =>
    rw [hstatus] at hactive
    cases hactive

/-- Every step of an undisturbed run leads to the next position with what is known there. -/
theorem Recovers.move {found : JobRecord} {now : Instant} {run run' : Run} {event : RunEvent}
    {v v' : JobView} (hs : Recovers found run.executor.products v run.pc) (hcounted : run.Counted)
    (hevent : event.undisturbed = true) (h : run.Move now event v v' run') :
    Recovers found run.executor.products v' run'.pc := by
  cases h with
  | crash hdisturbed | abort _ hdisturbed | abandonRetry _ hdisturbed | loseRetry _ hdisturbed =>
    rw [hdisturbed] at hevent
    cases hevent
  | skip hpc hterminal =>
    rw [hpc] at hs
    have hsame : v.record = found := hs
    exact recovers_done hterminal (hsame ▸ JobRecord.not_abandoned_of_terminal hterminal) _
  | accept hpc hactive hsource =>
    rw [hpc] at hs
    have hsame : v.record = found := hs
    exact ⟨hsame, hsame ▸ hactive, hsame ▸ hsource⟩
  | reject hpc hactive hsource =>
    rw [hpc] at hs
    have hsame : v.record = found := hs
    exact fun habandoned => hsource (hsame ▸ habandoned.2.2)
  | failUnknown _ hpc | cancel hpc =>
    rw [hpc] at hs
    exact recovers_done rfl hs _
  | @stopAtTop attempt hpc hstatus =>
    rw [hpc] at hs
    have hactive := Recovers.active_atTop hs
    rw [hstatus] at hactive
    cases hactive
  | @cancelAtTop attempt hpc hstatus hrequested =>
    rw [hpc] at hs
    change if attempt = 1 then _ else _ at hs
    split at hs
    · -- the request was already there when the job was found
      rintro ⟨-, hnotRequested, -⟩
      rw [← hs.same, hrequested] at hnotRequested
      cases hnotRequested
    · exact hs.found
  | @proceed attempt hpc hstatus hrequested =>
    rw [hpc] at hs
    change if attempt = 1 then _ else _ at hs
    change if attempt = 1 then _ else _
    split at hs
    · next hfirst =>
      rw [if_pos hfirst]
      exact ⟨hs, hrequested⟩
    · next hagain =>
      rw [if_neg hagain]
      exact hs
  | @claim attempt payload hpc hclaimable =>
    rw [hpc] at hs
    change if attempt = 1 then _ else _ at hs
    split at hs
    · next hfirst =>
      rw [JobView.claimable, decide_eq_true hfirst, if_pos rfl, Bool.and_eq_true, decide_eq_true_eq]
        at hclaimable
      refine ⟨?_, rfl, hs.2⟩
      rintro ⟨hrunning, -⟩
      rw [← hs.1.same, hclaimable.1] at hrunning
      cases hrunning
    · exact ⟨hs.found, rfl, hs.requested⟩
  | @refuse attempt payload hpc hclaimable =>
    rw [hpc] at hs
    change if attempt = 1 then _ else _ at hs
    split at hs
    · next hfirst =>
      rw [decide_eq_true hfirst] at hclaimable
      have habandoned := hs.1.abandoned_of_refused hs.2 hclaimable
      have hactive := hs.1.active
      rw [← hs.1.same] at hactive
      refine ⟨fun hterminal => ?_, fun hnot => absurd habandoned hnot⟩
      rw [hactive] at hterminal
      cases hterminal
    · next hagain =>
      rw [JobView.claimable, decide_eq_false hagain, hs.running, hs.requested] at hclaimable
      cases hclaimable
  | work stage' hpc hlog =>
    rw [hpc] at hs
    rcases hlog with rfl | ⟨kind, -, payload, rfl⟩
    · exact hs
    · exact ⟨hs.found, hs.running, hs.requested⟩
  | finish _ _ _ _ _ hpc hstatus _ =>
    rw [hpc] at hs
    exact recovers_done hstatus hs.found _
  | findTerminal hpc hterminal =>
    rw [hpc] at hs
    rw [Recovered.active hs] at hterminal
    cases hterminal
  | @retry attempt hpc =>
    have hattempt := (hcounted.attempt attempt (by rw [hpc]; rfl)).1
    rw [hpc] at hs
    change if attempt + 1 = 1 then _ else _
    rw [if_neg (by omega)]
    exact hs

namespace System

variable {World : Type} {backend : Backend World}

/-- The label is an undisturbed step of the run at this place. -/
def Undisturbed (index : ℕ) (label : Label) : Prop :=
  ∃ event, label.action = .run index event ∧ event.undisturbed = true

/-- The run at this place of the system, with what is known about its job. -/
def Recovering (backend : Backend World) (executor : JobExecutor) (key : JobKey) (found : JobRecord)
    (index : ℕ) (s : System World) : Prop :=
  ∃ run v, s.runs[index]? = some run ∧ run.key = key ∧ run.executor = executor ∧ run.Counted ∧
    backend.view s.world key = some v ∧ Recovers found executor.products v run.pc

/-- An undisturbed step of the redelivered run keeps what is known. -/
theorem Recovering.step {executor : JobExecutor} {key : JobKey} {found : JobRecord} {index : ℕ}
    {products : List FindingSource} {s s' : System World} {label : Label}
    (hs : Recovering backend executor key found index s) (hlabel : Undisturbed index label)
    (h : s.step backend products label = some s') :
    Recovering backend executor key found index s' := by
  obtain ⟨run, v, hrun, rfl, rfl, hcounted, hv, hrecovers⟩ := hs
  obtain ⟨event, haction, hevent⟩ := hlabel
  rw [System.step, haction] at h
  obtain ⟨mine, hmine, h⟩ := Option.bind_eq_some_iff.mp h
  obtain ⟨⟨w, run'⟩, hstep, h⟩ := Option.bind_eq_some_iff.mp h
  cases h
  rw [hrun, Option.some.injEq] at hmine
  subst hmine
  obtain ⟨v', hview, hmove⟩ := Run.step_move hv hstep
  have hindex : index < s.runs.length := (List.getElem?_eq_some_iff.mp hrun).1
  refine ⟨run', v', ?_, hmove.arguments.1, hmove.arguments.2, hcounted.move hmove, ?_,
    hrecovers.move hcounted hevent hmove⟩
  · exact List.getElem?_set_self hindex
  · rw [hview, Function.update_self]

/-- A delivered message starts a run that has found nothing yet. -/
theorem recovering_deliver {executor : JobExecutor} {key : JobKey} {products : List FindingSource}
    {m : Moment} {s s' : System World} (hs : WellFormed backend s)
    (h : s.step backend products ⟨.deliver executor key, m⟩ = some s') :
    ∃ found, backend.get s.world key = some found ∧
      Recovering backend executor key found s.runs.length s' := by
  unfold System.step at h
  dsimp only at h
  split at h
  · next hpublished =>
    cases h
    obtain ⟨v, hv⟩ := Option.isSome_iff_exists.mp (hs.published key hpublished)
    refine ⟨v.record, get_of_view hv, Run.fresh executor key, v, ?_, rfl, rfl,
      Run.counted_fresh executor key, hv, rfl⟩
    exact getElem?_of_split rfl rfl
  · cases h

end System

/-- A worker has died while it executed a job, and the broker delivers the message again. When
the new run reaches its end undisturbed, the job is finished exactly if the dead worker had not
left it abandoned. -/
theorem redelivery_recovers {World : Type} (backend : Backend World) (products : List FindingSource)
    {schedule labels : List Label} {s s' : System World} {dead run : Run} {executor : JobExecutor}
    {m : Moment} {ending : Ending}
    (hreach : runSteps (System.step backend products) (System.initial backend) schedule = some s)
    (_hmem : dead ∈ s.runs) (_hdead : dead.pc = .dead)
    (hrun : runSteps (System.step backend products) s (⟨.deliver executor dead.key, m⟩ :: labels) =
      some s')
    (hundisturbed : ∀ label ∈ labels, System.Undisturbed s.runs.length label)
    (hlast : s'.runs[s.runs.length]? = some run) (hended : run.pc = .done ending) :
    ∃ found, backend.get s.world dead.key = some found ∧
      ((∃ record, backend.get s'.world dead.key = some record ∧ record.status.terminal = true) ↔
        ¬ found.Abandoned executor.products) := by
  obtain ⟨t, hdeliver, hrest⟩ := runSteps_cons_eq_some.mp hrun
  have hformed := (System.reachable_counted hreach).1
  obtain ⟨found, hfound, hrecovering⟩ := System.recovering_deliver hformed hdeliver
  refine ⟨found, hfound, ?_⟩
  have hend := runSteps_guarded_invariant
    (System.Recovering backend executor dead.key found s.runs.length)
    (fun u label u' hu hlabel hstep => hu.step hlabel hstep) hrecovering
    (GuardedAlong.of_labels hundisturbed t) hrest
  obtain ⟨last, v, hlast', -, -, -, hv, hrecovers⟩ := hend
  rw [hlast, Option.some.injEq] at hlast'
  subst hlast'
  rw [hended] at hrecovers
  have hresult : v.record.status.terminal = true ↔ ¬ found.Abandoned executor.products := hrecovers
  simpa [get_of_view hv] using hresult

/-- A worker dies before it claims its job. -/
def diedBeforeClaim : List Label :=
  let m : Moment := ⟨0, "1"⟩
  publishScan 0 "tenant-a" .soc (.obj []) m ++
    [⟨.deliver ⟨[.soc], [], 2, JobExecutor.twice⟩ ⟨"tenant-a", "job_1"⟩, m⟩] ++
    runLabels 0 m [.advance, .advance, .crash]

/-- A run that claims its job and scans without findings. -/
def undisturbedScan : List RunEvent :=
  [.advance, .advance, .advance, .scanSettles (.findings []), .advance, .advance, .advance]

/-- The message is delivered again. -/
def redelivered : List Label :=
  ⟨.deliver ⟨[.soc], [], 2, JobExecutor.twice⟩ ⟨"tenant-a", "job_1"⟩, ⟨1, "2"⟩⟩ ::
    runLabels 1 ⟨1, "2"⟩ undisturbedScan

set_option maxRecDepth 4000 in
/-- The theorem applies to that death, after which the job is finished. -/
theorem redelivery_recovers_diedBeforeClaim :
    ∃ s ∈ runSteps (System.step FindingDict.backend [.soc]) (System.initial FindingDict.backend)
        diedBeforeClaim,
      ∃ s' ∈ runSteps (System.step FindingDict.backend [.soc]) s redelivered,
        ∃ record, FindingDict.backend.get s'.world ⟨"tenant-a", "job_1"⟩ = some record ∧
          record.status.terminal = true := by
  have hreach : ∃ s ∈ runSteps (System.step FindingDict.backend [.soc])
      (System.initial FindingDict.backend) diedBeforeClaim, s.runs.length = 1 ∧
        (∃ run ∈ s.runs[0]?, run.pc = .dead ∧ run.key = ⟨"tenant-a", "job_1"⟩) ∧
        (∀ found ∈ FindingDict.backend.get s.world ⟨"tenant-a", "job_1"⟩, ¬ found.Abandoned [.soc]) ∧
        ∃ s' ∈ runSteps (System.step FindingDict.backend [.soc]) s redelivered,
          ∃ run ∈ s'.runs[1]?, run.pc = .done .returned := by decide
  obtain ⟨s, hs, hone, ⟨dead, hmem, hdead, hkey⟩, hfound, s', hs', run, hlast, hended⟩ := hreach
  refine ⟨s, hs, s', hs', ?_⟩
  have hundisturbed : ∀ label ∈ runLabels 1 ⟨1, "2"⟩ undisturbedScan,
      System.Undisturbed s.runs.length label := by
    rw [hone]
    intro label hlabel
    obtain ⟨event, hevent, rfl⟩ := List.mem_map.mp hlabel
    have hall : ∀ event ∈ undisturbedScan, event.undisturbed = true := by decide
    exact ⟨event, rfl, hall event hevent⟩
  rw [redelivered, ← hkey] at hs'
  rw [← hkey] at hfound ⊢
  obtain ⟨found, hget, hiff⟩ := redelivery_recovers FindingDict.backend [.soc] hs
    (List.mem_of_getElem? hmem) hdead hs' hundisturbed (hone ▸ hlast) hended
  exact hiff.mpr (hfound found hget)

/-- A worker dies while it waits for the scan. -/
def diedAfterClaim : List Label :=
  let m : Moment := ⟨0, "1"⟩
  publishScan 0 "tenant-a" .soc (.obj []) m ++
    [⟨.deliver ⟨[.soc], [], 2, JobExecutor.twice⟩ ⟨"tenant-a", "job_1"⟩, m⟩] ++
    runLabels 0 m [.advance, .advance, .advance, .crash]

set_option maxRecDepth 4000 in
/-- The redelivered run ends without having claimed the job, which stays running. -/
theorem redelivery_abandons :
    ∃ s ∈ runSteps (System.step FindingDict.backend [.soc]) (System.initial FindingDict.backend)
        diedAfterClaim,
      (∃ dead ∈ s.runs[0]?, dead.pc = .dead) ∧
      ∃ s' ∈ runSteps (System.step FindingDict.backend [.soc]) s
        (⟨.deliver ⟨[.soc], [], 2, JobExecutor.twice⟩ ⟨"tenant-a", "job_1"⟩, ⟨1, "2"⟩⟩ ::
          runLabels 1 ⟨1, "2"⟩ [.advance, .advance, .advance]),
      (∃ run ∈ s'.runs[1]?, run.pc = .done .returned) ∧
      (FindingDict.backend.get s'.world ⟨"tenant-a", "job_1"⟩).map JobRecord.status =
        some .running := by
  decide

end SharedIntegration

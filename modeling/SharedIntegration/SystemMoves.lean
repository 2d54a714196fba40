import SharedIntegration.System

/-!
# What a step of the system does to jobs and runs

Seen from the jobs and the runs, a step of the system is one of eight moves: a run takes a
step, a message is delivered, a job is created, a dispatch is recorded or fails, a
cancellation is written with or without the lock, or nothing changes. Every step of a
reachable system is one of them, which is what the invariants of the system are proved from.
-/

namespace SharedIntegration

open Transition

variable {World : Type} {backend : Backend World}

/-- The job a call of `create_scan` has created and not yet answered for. -/
def ScanPc.job : ScanPc → Option JobRecord
  | .submitting job | .recordingDispatch job _ | .reloading job | .failing job _ => some job
  | .creating | .answered _ => none

/-- What one step of `create_scan` does: it stores or updates at most one job, and refers to
stored jobs only. -/
theorem ScanCall.step_cases {call : ScanCall} {w w' : World} {m : Moment} {event : ScanEvent}
    {pc' : ScanPc} {messages : List JobKey}
    (hjob : ∀ job ∈ call.pc.job, (backend.view w job.key).isSome)
    (h : call.step backend w m event = some (w', pc', messages)) :
    (∀ key ∈ messages, (backend.view w key).isSome) ∧
    (∀ job ∈ pc'.job, (backend.view w' job.key).isSome) ∧
    (backend.view w' = backend.view w ∨
      (∃ key source payload idempotencyKey, backend.view w key = none ∧
        backend.view w' = Function.update (backend.view w) key
          (some (.created key source payload idempotencyKey m.now))) ∨
      (∃ key v dispatchId, backend.view w key = some v ∧
        backend.view w' = Function.update (backend.view w) key
          (some (v.setDispatchId m.now dispatchId))) ∨
      (∃ job message v, event = .advance ∧ call.pc = .failing job message ∧
        backend.view w job.key = some v ∧
        backend.view w' = Function.update (backend.view w) job.key
          (some (v.transition m.now .failed none (some "DISPATCH_FAILED") (some message))))) := by
  unfold ScanCall.step at h
  split at h
  · split at h
    · split at h
      · next w₁ job hcreate =>
        cases h
        obtain ⟨hnew, -⟩ | ⟨-, -, hnone, -, hview⟩ := backend.create_ok hcreate
        · cases hnew
        · refine ⟨by simp, ?_, .inr (.inl ⟨_, _, _, _, hnone, hview⟩)⟩
          intro job' hjob'
          cases hjob'
          rw [hview, Function.update_self]
          rfl
      · next w₁ job hcreate =>
        cases h
        obtain ⟨-, rfl, -⟩ | ⟨hnew, -⟩ := backend.create_ok hcreate
        · exact ⟨by simp, by simp [ScanPc.job], .inl rfl⟩
        · cases hnew
      · cases h
        exact ⟨by simp, by simp [ScanPc.job], .inl rfl⟩
    · next job dispatchId hpc =>
      cases h
      obtain ⟨v, hv⟩ := Option.isSome_iff_exists.mp (hjob job (by simp [hpc, ScanPc.job]))
      have hview := backend.setDispatchId_view w m job.key dispatchId
      rw [hv, Option.map_some] at hview
      refine ⟨by simp, ?_, .inr (.inr (.inl ⟨_, v, _, hv, hview⟩))⟩
      intro job' hjob'
      cases hjob'
      rw [hview, Function.update_self]
      rfl
    · next job hpc =>
      have hstored := hjob job (by simp [hpc, ScanPc.job])
      split at h
      · cases h
        exact ⟨by simp, by simp [ScanPc.job], .inl rfl⟩
      · cases h
        refine ⟨by simp, ?_, .inl rfl⟩
        intro job' hjob'
        cases hjob'
        exact hstored
    · next job message hpc =>
      obtain ⟨v, hv⟩ := Option.isSome_iff_exists.mp (hjob job (by simp [hpc, ScanPc.job]))
      obtain ⟨w₁, htransition, hview⟩ := backend.transition_ok m .failed none
        (some "DISPATCH_FAILED") (some message) hv
      rw [htransition] at h
      cases h
      exact ⟨by simp, by simp [ScanPc.job],
        .inr (.inr (.inr ⟨job, message, v, rfl, hpc, hv, hview⟩))⟩
    · cases h
  · next published result =>
    split at h
    · next job hpc =>
      have hstored := hjob job (by simp [hpc, ScanPc.job])
      have hmessages : ∀ key ∈ (if published then [job.key] else []), (backend.view w key).isSome := by
        intro key hkey
        cases published with
        | true => rw [List.mem_singleton.mp hkey]; exact hstored
        | false => cases hkey
      cases result with
      | ok dispatchId =>
        cases h
        refine ⟨hmessages, ?_, .inl rfl⟩
        intro job' hjob'
        cases hjob'
        exact hstored
      | error message =>
        cases h
        refine ⟨hmessages, ?_, .inl rfl⟩
        intro job' hjob'
        cases hjob'
        exact hstored
    · cases h

namespace System

/-- Every job that a message, a run or a call refers to is stored. -/
structure WellFormed (backend : Backend World) (s : System World) : Prop where
  published : ∀ key ∈ s.published, (backend.view s.world key).isSome
  runs : ∀ run ∈ s.runs, (backend.view s.world run.key).isSome
  scans : ∀ call ∈ s.scans, ∀ job ∈ call.pc.job, (backend.view s.world job.key).isSome
  cancels : ∀ pending ∈ s.cancels, (backend.view s.world pending.1).isSome

/-- What one step of the system does to the views of jobs and to the runs. -/
inductive Move (backend : Backend World) (s : System World) (label : Label) (s' : System World) : Prop
  | run {index event before run run' after v v'} (haction : label.action = .run index event)
      (hruns : s.runs = before ++ run :: after) (hindex : before.length = index)
      (hruns' : s'.runs = before ++ run' :: after)
      (hv : backend.view s.world run.key = some v)
      (hview : backend.view s'.world = Function.update (backend.view s.world) run.key (some v'))
      (hmove : run.Move label.moment.now event v v' run')
  | deliver {executor key} (haction : label.action = .deliver executor key)
      (hstored : (backend.view s.world key).isSome)
      (hruns' : s'.runs = s.runs ++ [Run.fresh executor key])
      (hview : backend.view s'.world = backend.view s.world)
  | create {key source payload idempotencyKey} (hnone : backend.view s.world key = none)
      (hview : backend.view s'.world = Function.update (backend.view s.world) key
        (some (.created key source payload idempotencyKey label.moment.now)))
      (hruns' : s'.runs = s.runs)
  | recordDispatch {key v dispatchId} (hv : backend.view s.world key = some v)
      (hview : backend.view s'.world = Function.update (backend.view s.world) key
        (some (v.setDispatchId label.moment.now dispatchId)))
      (hruns' : s'.runs = s.runs)
  | failDispatch {index call job message v} (haction : label.action = .scan index .advance)
      (hcall : s.scans[index]? = some call) (hpc : call.pc = .failing job message)
      (hv : backend.view s.world job.key = some v)
      (hview : backend.view s'.world = Function.update (backend.view s.world) job.key
        (some (v.transition label.moment.now .failed none (some "DISPATCH_FAILED") (some message))))
      (hruns' : s'.runs = s.runs)
  | cancel {key v} (haction : label.action = .requestCancel key)
      (hv : backend.view s.world key = some v)
      (hview : backend.view s'.world = Function.update (backend.view s.world) key
        (some (v.requestCancel label.moment.now)))
      (hruns' : s'.runs = s.runs)
  | writeCancel {index key current v} (haction : label.action = .cancelWrite index)
      (hpending : s.cancels[index]? = some (key, current))
      (hv : backend.view s.world key = some v)
      (hview : backend.view s'.world = Function.update (backend.view s.world) key
        (some (v.writeCancel label.moment.now current)))
      (hruns' : s'.runs = s.runs)
  | quiet (hview : backend.view s'.world = backend.view s.world) (hruns' : s'.runs = s.runs)

/-- A job that is stored stays stored when any view is replaced. -/
private theorem isSome_update {view : JobKey → Option JobView} {key other : JobKey} {v : JobView}
    (h : (view other).isSome) : (Function.update view key (some v) other).isSome := by
  by_cases hother : other = key
  · rw [hother, Function.update_self]
    rfl
  · rw [Function.update_of_ne hother]
    exact h

/-- No move forgets a stored job. -/
theorem Move.stored {s s' : System World} {label : Label} (h : Move backend s label s')
    {key : JobKey} (hkey : (backend.view s.world key).isSome) :
    (backend.view s'.world key).isSome := by
  cases h with
  | run _ _ _ _ _ hview => rw [hview]; exact isSome_update hkey
  | deliver _ _ _ hview => rw [hview]; exact hkey
  | create _ hview => rw [hview]; exact isSome_update hkey
  | recordDispatch _ hview => rw [hview]; exact isSome_update hkey
  | failDispatch _ _ _ _ hview => rw [hview]; exact isSome_update hkey
  | cancel _ _ hview => rw [hview]; exact isSome_update hkey
  | writeCancel _ _ _ hview => rw [hview]; exact isSome_update hkey
  | quiet hview => rw [hview]; exact hkey

/-- Every step of a well-formed system is one of the moves. -/
theorem step_move {products : List FindingSource} {s s' : System World} {label : Label}
    (hs : WellFormed backend s) (h : s.step backend products label = some s') :
    Move backend s label s' := by
  unfold step at h
  split at h
  · cases h
    exact .quiet rfl rfl
  · next index event haction =>
    obtain ⟨call, hcall, h⟩ := Option.bind_eq_some_iff.mp h
    obtain ⟨⟨w, pc, messages⟩, hstep, h⟩ := Option.bind_eq_some_iff.mp h
    cases h
    have hjob := hs.scans call (List.mem_of_getElem? hcall)
    obtain ⟨-, -, hcases⟩ := ScanCall.step_cases hjob hstep
    rcases hcases with hview | ⟨key, source, payload, idempotencyKey, hnone, hview⟩ |
      ⟨key, v, dispatchId, hv, hview⟩ | ⟨job, message, v, rfl, hpc, hv, hview⟩
    · exact .quiet hview rfl
    · exact .create hnone hview rfl
    · exact .recordDispatch hv hview rfl
    · exact .failDispatch haction hcall hpc hv hview rfl
  · next executor key haction =>
    split at h
    · next hpublished =>
      cases h
      exact .deliver haction (hs.published key hpublished) rfl rfl
    · cases h
  · next index event haction =>
    obtain ⟨run, hrun, h⟩ := Option.bind_eq_some_iff.mp h
    obtain ⟨⟨w, run'⟩, hstep, h⟩ := Option.bind_eq_some_iff.mp h
    cases h
    obtain ⟨v, hv⟩ := Option.isSome_iff_exists.mp (hs.runs run (List.mem_of_getElem? hrun))
    obtain ⟨v', hview, hmove⟩ := Run.step_move hv hstep
    obtain ⟨before, after, hruns, hset, hindex⟩ := exists_split_of_getElem? hrun run'
    exact .run haction hruns hindex hset hv hview hmove
  · next key haction =>
    cases hv : backend.view s.world key with
    | some v =>
      obtain ⟨w, hcancel, hview⟩ := backend.requestCancel_ok label.moment hv
      rw [hcancel] at h
      cases h
      exact .cancel haction hv hview rfl
    | none =>
      rw [backend.requestCancel_missing label.moment hv] at h
      cases h
      exact .quiet rfl rfl
  · obtain ⟨write, -, h⟩ := Option.bind_eq_some_iff.mp h
    obtain ⟨current, -, h⟩ := Option.bind_eq_some_iff.mp h
    split at h <;> cases h
    · exact .quiet rfl rfl
    · exact .quiet rfl rfl
  · next index haction =>
    obtain ⟨write, hwrite, h⟩ := Option.bind_eq_some_iff.mp h
    obtain ⟨⟨key, current⟩, hpending, h⟩ := Option.bind_eq_some_iff.mp h
    cases h
    obtain ⟨v, hv⟩ := Option.isSome_iff_exists.mp
      (hs.cancels (key, current) (List.mem_of_getElem? hpending))
    have hview := backend.unlockedCancel_view hwrite s.world label.moment key current
    rw [hv, Option.map_some] at hview
    exact .writeCancel haction hpending hv hview rfl

/-- Every step keeps the system well formed. -/
theorem step_wellFormed {products : List FindingSource} {s s' : System World} {label : Label}
    (hs : WellFormed backend s) (h : s.step backend products label = some s') :
    WellFormed backend s' := by
  have hstored : ∀ {key}, (backend.view s.world key).isSome → (backend.view s'.world key).isSome :=
    (step_move hs h).stored
  unfold step at h
  split at h
  · cases h
    refine ⟨hs.published, hs.runs, ?_, hs.cancels⟩
    intro call hcall job hjob
    rcases List.mem_append.mp hcall with hold | hnew
    · exact hs.scans call hold job hjob
    · rw [List.mem_singleton.mp hnew] at hjob
      simp only [scanEntry] at hjob
      split at hjob
      · cases hjob
      · split at hjob <;> cases hjob
  · next index event haction =>
    obtain ⟨call, hcall, h⟩ := Option.bind_eq_some_iff.mp h
    obtain ⟨⟨w, pc, messages⟩, hstep, h⟩ := Option.bind_eq_some_iff.mp h
    cases h
    have hjob := hs.scans call (List.mem_of_getElem? hcall)
    obtain ⟨hmessages, hpc, -⟩ := ScanCall.step_cases hjob hstep
    refine ⟨?_, fun run hrun => hstored (hs.runs run hrun), ?_,
      fun pending hpending => hstored (hs.cancels pending hpending)⟩
    · intro key hkey
      rcases List.mem_append.mp hkey with hold | hnew
      · exact hstored (hs.published key hold)
      · exact hstored (hmessages key hnew)
    · intro call' hcall' job hjob'
      rcases List.mem_or_eq_of_mem_set hcall' with hold | rfl
      · exact hstored (hs.scans call' hold job hjob')
      · exact hpc job hjob'
  · next executor key haction =>
    split at h
    · next hpublished =>
      cases h
      refine ⟨hs.published, ?_, hs.scans, hs.cancels⟩
      intro run hrun
      rcases List.mem_append.mp hrun with hold | hnew
      · exact hs.runs run hold
      · rw [List.mem_singleton.mp hnew]
        exact hs.published key hpublished
    · cases h
  · next index event haction =>
    obtain ⟨run, hrun, h⟩ := Option.bind_eq_some_iff.mp h
    obtain ⟨⟨w, run'⟩, hstep, h⟩ := Option.bind_eq_some_iff.mp h
    cases h
    have hkey : run'.key = run.key := (Run.step_arguments hstep).1
    refine ⟨fun key hkey => hstored (hs.published key hkey), ?_,
      fun call hcall job hjob => hstored (hs.scans call hcall job hjob),
      fun pending hpending => hstored (hs.cancels pending hpending)⟩
    intro other hother
    rcases List.mem_or_eq_of_mem_set hother with hold | rfl
    · exact hstored (hs.runs other hold)
    · rw [hkey]
      exact hstored (hs.runs run (List.mem_of_getElem? hrun))
  · split at h <;> cases h
    · exact ⟨fun key hkey => hstored (hs.published key hkey),
        fun run hrun => hstored (hs.runs run hrun),
        fun call hcall job hjob => hstored (hs.scans call hcall job hjob),
        fun pending hpending => hstored (hs.cancels pending hpending)⟩
    · exact hs
  · next key haction =>
    obtain ⟨write, -, h⟩ := Option.bind_eq_some_iff.mp h
    obtain ⟨current, hget, h⟩ := Option.bind_eq_some_iff.mp h
    split at h <;> cases h
    · exact hs
    · refine ⟨hs.published, hs.runs, hs.scans, ?_⟩
      intro pending hpending
      rcases List.mem_append.mp hpending with hold | hnew
      · exact hs.cancels pending hold
      · rw [List.mem_singleton.mp hnew]
        rw [backend.get_eq] at hget
        obtain ⟨v, hv, -⟩ := Option.map_eq_some_iff.mp hget
        exact Option.isSome_iff_exists.mpr ⟨v, hv⟩
  · obtain ⟨write, -, h⟩ := Option.bind_eq_some_iff.mp h
    obtain ⟨pending, -, h⟩ := Option.bind_eq_some_iff.mp h
    cases h
    refine ⟨fun key hkey => hstored (hs.published key hkey), fun run hrun => hstored (hs.runs run hrun),
      fun call hcall job hjob => hstored (hs.scans call hcall job hjob), ?_⟩
    intro other hother
    exact hstored (hs.cancels other (List.mem_of_mem_eraseIdx hother))

end System

end SharedIntegration

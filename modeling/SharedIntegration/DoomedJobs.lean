import SharedIntegration.Results

/-!
# Jobs that will not succeed

A job becomes a success only when the run that claimed it reports one. Once that run has ended without, the job will
never be one.
-/

namespace SharedIntegration

open Transition

namespace System

variable {World : Type} {backend : Backend World}

/-- A job becomes a success only by the report of a run in its store loop. -/
theorem Move.success {s s' : System World} {label : Label} {key : JobKey} {v' : JobView}
    (h : Move backend s label s') (hpending : s.PendingActive) (hv' : backend.view s'.world key = some v')
    (hstatus : v'.record.status = .succeeded) :
    (∃ v, backend.view s.world key = some v ∧ v.record.status = .succeeded) ∨
      ∃ index event run, label.action = .run index event ∧ s.runs[index]? = some run ∧ run.key = key ∧
        run.pc.phase = .storing := by
  have hwrite : ∀ {key' : JobKey} {u u' : JobView}, backend.view s.world key' = some u →
      backend.view s'.world = Function.update (backend.view s.world) key' (some u') →
      (u'.record.status = .succeeded → u.record.status = .succeeded) →
      ∃ v, backend.view s.world key = some v ∧ v.record.status = .succeeded := by
    intro key' u u' hu hview hkeeps
    by_cases hkey : key = key'
    · subst hkey
      rw [hview, Function.update_self, Option.some.injEq] at hv'
      exact ⟨u, hu, hkeeps (hv' ▸ hstatus)⟩
    · rw [hview, Function.update_of_ne hkey] at hv'
      exact ⟨v', hv', hstatus⟩
  cases h with
  | @run index event before run run' after u u' haction hruns hindex hruns' hu hview hmove =>
    by_cases hkey : key = run.key
    · subst hkey
      rw [hview, Function.update_self, Option.some.injEq] at hv'
      subst hv'
      by_cases hbefore : u.record.status = .succeeded
      · exact Or.inl ⟨u, hu, hbefore⟩
      · obtain ⟨⟨attempt, count, hpc⟩, -⟩ := hmove.success hbefore hstatus
        exact Or.inr ⟨index, event, run, haction, getElem?_of_split hruns hindex, rfl, by rw [hpc]; rfl⟩
    · rw [hview, Function.update_of_ne hkey] at hv'
      exact Or.inl ⟨v', hv', hstatus⟩
  | deliver _ _ _ hview => exact Or.inl ⟨v', hview ▸ hv', hstatus⟩
  | quiet hview => exact Or.inl ⟨v', hview ▸ hv', hstatus⟩
  | @create key' source payload idempotencyKey hnone hview =>
    by_cases hkey : key = key'
    · subst hkey
      rw [hview, Function.update_self, Option.some.injEq] at hv'
      rw [← hv'] at hstatus
      cases hstatus
    · rw [hview, Function.update_of_ne hkey] at hv'
      exact Or.inl ⟨v', hv', hstatus⟩
  | recordDispatch hv hview => exact Or.inl (hwrite hv hview id)
  | failDispatch _ _ _ hv hview => exact Or.inl (hwrite hv hview nofun)
  | cancel _ hv hview =>
    refine Or.inl (hwrite hv hview fun hsucceeded => ?_)
    unfold JobView.requestCancel at hsucceeded
    split at hsucceeded
    · exact hsucceeded
    · next hactive =>
      refine absurd hsucceeded (cancelStatus_ne_succeeded fun hbefore => hactive ?_)
      rw [hbefore]
      rfl
  | @writeCancel index key' current u haction hcancel hv hview =>
    have hactive := hpending _ (List.mem_of_getElem? hcancel)
    refine Or.inl (hwrite hv hview fun hsucceeded => ?_)
    refine absurd hsucceeded (cancelStatus_ne_succeeded ?_)
    rintro rfl
    cases hactive

/-- The run that claimed the job has ended, and the job is no success. -/
structure Doomed (backend : Backend World) (key : JobKey) (s : System World) : Prop where
  ended : ∃ run ∈ s.runs, run.key = key ∧ 0 < run.queuedClaims ∧ run.pc.phase = .over
  status : ∀ v, backend.view s.world key = some v → v.record.status ≠ .succeeded

/-- A run that has claimed its job and ended does not go on. -/
theorem RunStep.ended {s s' : System World} {label : Label} {event : RunEvent} {before after : List Run}
    {run run' : Run} {v v' : JobView} {appended : List Document}
    (h : RunStep backend s label s' event before run run' after v v' appended) {key : JobKey}
    (hended : ∃ run ∈ s.runs, run.key = key ∧ 0 < run.queuedClaims ∧ run.pc.phase = .over) :
    ∃ run ∈ s'.runs, run.key = key ∧ 0 < run.queuedClaims ∧ run.pc.phase = .over := by
  obtain ⟨done, hdone, hkey, hclaims, hphase⟩ := hended
  rw [h.runs] at hdone
  rw [h.runs']
  rcases List.mem_append.mp hdone with hbefore | hdone
  · exact ⟨done, List.mem_append_left _ hbefore, hkey, hclaims, hphase⟩
  · rcases List.mem_cons.mp hdone with rfl | hafter
    · refine ⟨run', List.mem_append_right _ List.mem_cons_self, h.move.arguments.1.trans hkey, ?_,
        (h.filing.over hphase).1⟩
      rcases h.move.claim_or_same with ⟨attempt, payload, hpc, -⟩ | ⟨-, hsame, -⟩
      · rw [hpc] at hphase
        cases hphase
      · omega
    · exact ⟨done, List.mem_append_right _ (List.mem_cons_of_mem _ hafter), hkey, hclaims, hphase⟩

/-- A step that names no run leaves all runs where they are. -/
theorem Move.runs_kept {s s' : System World} {label : Label} (h : Move backend s label s')
    (hother : ∀ index event, label.action ≠ .run index event) : ∀ run ∈ s.runs, run ∈ s'.runs := by
  intro run hrun
  cases h with
  | run haction => exact absurd haction (hother _ _)
  | deliver _ _ hruns' =>
    rw [hruns']
    exact List.mem_append_left _ hrun
  | create _ _ hruns' | recordDispatch _ _ hruns' | failDispatch _ _ _ _ _ hruns' | cancel _ _ _ hruns'
  | writeCancel _ _ _ _ hruns' | quiet _ hruns' =>
    rw [hruns']
    exact hrun

/-- A job that will not succeed stays so. -/
theorem Doomed.step {products : List FindingSource} {key : JobKey} {s s' : System World} {label : Label}
    (hs : Doomed backend key s) (hformed : WellFormed backend s) (hcounted : Counted backend s)
    (hpending : s.PendingActive) (h : s.step backend products label = some s') : Doomed backend key s' where
  ended := by
    by_cases hrun : ∃ index event, label.action = .run index event
    · obtain ⟨index, event, haction⟩ := hrun
      obtain ⟨before, run, run', after, v, v', appended, hsplit⟩ := step_run hformed h haction
      exact hsplit.ended hs.ended
    · obtain ⟨run, hmem, hended⟩ := hs.ended
      have hkept := (step_move hformed h).runs_kept fun index event haction => hrun ⟨index, event, haction⟩
      exact ⟨run, hkept run hmem, hended⟩
  status v' hv' hstatus := by
    rcases (step_move hformed h).success hpending hv' hstatus with
      ⟨v, hv, hbefore⟩ | ⟨index, event, run, haction, hrun, hkey, hphase⟩
    · exact hs.status v hv hbefore
    · -- the run that reports would have claimed the job a second time
      obtain ⟨done, hmem, hdoneKey, hclaims, hdone⟩ := hs.ended
      obtain ⟨i, hi⟩ := List.mem_iff_getElem?.mp hmem
      have hclaims' : 0 < run.queuedClaims := by
        have hrunCounted := hcounted.runs run (List.mem_of_getElem? hrun)
        cases hpc : run.pc with
        | trying attempt stage => exact hrunCounted.queuedClaims_pos hpc
        | _ =>
          rw [hpc] at hphase
          cases hphase
      have hindex := total_unique Run.queuedClaims (hcounted.once key) hi hrun hdoneKey hkey hclaims hclaims'
      rw [hindex, hrun, Option.some.injEq] at hi
      rw [hi, hdone] at hphase
      cases hphase

end System

end SharedIntegration

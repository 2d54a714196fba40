import Mathlib.Algebra.GroupWithZero.Nat
import Mathlib.Data.List.Permutation
import SharedIntegration.SerialAdds

/-!
# Concurrent adds are serializable

Whatever the interleaving of their statements, concurrent calls of `add_for_job` all return, and they leave
what they leave one after another in some order, as long as each call that has lost the race for its
fingerprint finds a row that loses nothing by the second transaction.
-/

namespace SharedIntegration

open Relational Transition FindingLifecycle Isolation

namespace ConcurrentAdds

/-- If the next statement is the read of a second transaction, it finds a row that loses nothing. -/
def System.Covered (core : CoreLibrary) (text : TextLibrary) (s : System) (index : ℕ) : Prop :=
  ∀ call ∈ s.calls[index]?, call.Covered core text s.db

instance (core : CoreLibrary) (text : TextLibrary) (s : System) (index : ℕ) : Decidable (s.Covered core text index) :=
  inferInstanceAs (Decidable (∀ call ∈ s.calls[index]?, call.Covered core text s.db))

variable {core : CoreLibrary} {text : TextLibrary} {db₀ : Database} {adds : List FindingAdd} {s s' : System}

/-- What holds of the whole system: its calls are sound and do not meet, and those that have returned leave
what their adds leave one after another. -/
structure System.Sound (core : CoreLibrary) (text : TextLibrary) (db₀ : Database) (adds : List FindingAdd)
    (s : System) : Prop where
  calls : ∀ call ∈ s.calls, call.Sound core text db₀ s.db
  compatible : s.calls.Pairwise Call.Compatible
  served : ∀ tenantId, SqlJobs.Serves s.db.tenants tenantId → SqlJobs.Serves db₀.tenants tenantId
  adds : s.calls.map Call.add = adds
  serial : ∃ order, order.Perm s.done ∧ SameFindings (addAll core text db₀ order) s.db

/-- A call makes its next move beside the uncommitted rows and the locks of the others. -/
theorem step_eq_some {index : ℕ} (h : s.step core text index = some s') :
    ∃ before call after db' pc', s.calls = before ++ call :: after ∧ s.calls[index]? = some call ∧
      call.Move core text s.db ((before ++ after).filterMap fun other => other.pc.uncommittedTenant)
        ((before ++ after).filterMap fun other => other.pc.uncommittedFinding)
        ((before ++ after).filterMap fun other => other.pc.lock) db' pc' ∧
      s' = ⟨db', before ++ call.goto pc' :: after⟩ := by
  simp only [System.step, Option.bind_eq_bind, Option.bind_eq_some_iff, pure, Option.some.injEq, Prod.exists] at h
  obtain ⟨call, hcall, db', pc', hadvance, rfl⟩ := h
  obtain ⟨before, after, hsplit, hset, hindex⟩ := exists_split_of_getElem? hcall (call.goto pc')
  rw [eraseIdx_of_split hsplit hindex] at hadvance
  exact ⟨before, call, after, db', pc', hsplit, hcall, advance_move hadvance, by rw [hset]⟩

/-- A call that moves has not returned. -/
theorem Call.Move.uncompleted {db db' : Database} {tenants : List TenantRow} {findings : List FindingRow}
    {locks : List ℕ} {call : Call} {pc' : Pc} (h : call.Move core text db tenants findings locks db' pc') :
    call.completed = none := by
  cases h <;> simp_all [completed]

/-- Before any call has begun the system is sound. -/
theorem sound_initial (core : CoreLibrary) (text : TextLibrary) (db₀ : Database) (adds : List FindingAdd) :
    (System.initial db₀ adds).Sound core text db₀ adds := by
  have hreading : ∀ call ∈ (System.initial db₀ adds).calls, call.pc = .readingTenant := by
    intro call hcall
    obtain ⟨add, -, rfl⟩ := List.mem_map.mp hcall
    rfl
  refine ⟨fun call hcall => ?_, ?_, fun _ h => h, ?_, [], ?_, rfl⟩
  · have hpc := hreading call hcall
    exact ⟨by simp [hpc, Pc.uncommittedTenant], by simp [hpc, Pc.uncommittedFinding], by simp [Call.Placed, hpc]⟩
  · refine List.Pairwise.imp_of_mem (fun {a b} ha _ _ => ?_) (List.pairwise_of_forall fun _ _ => trivial)
    have hpc := hreading a ha
    exact ⟨by simp [hpc, Pc.uncommittedTenant], by simp [hpc, Pc.uncommittedFinding], by simp [hpc, Pc.lock]⟩
  · exact (List.map_map ..).trans (List.map_id _)
  · have hnone : (System.initial db₀ adds).done = [] := by
      refine List.filterMap_eq_nil_iff.mpr fun call hcall => ?_
      rw [Call.completed, hreading call hcall]
    rw [hnone]

/-- The adds that have returned are those before and after a call, and its own if it has. -/
theorem done_split (db : Database) (before after : List Call) (call : Call) :
    (System.mk db (before ++ call :: after)).done =
      before.filterMap Call.completed ++ (call.completed.toList ++ after.filterMap Call.completed) := by
  rw [System.done, List.filterMap_append, List.filterMap_cons]
  cases call.completed <;> rfl

/-- The next statement of a call leaves what its add leaves last if it is the commit, and nothing else. -/
theorem System.Sound.serial_step {before after : List Call} {call : Call} {db' : Database}
    {tenants : List TenantRow} {findings : List FindingRow} {locks : List ℕ} {pc' : Pc} (hnumbered : Numbered db₀)
    (h : s.Sound core text db₀ adds) (hsplit : s.calls = before ++ call :: after)
    (hmove : call.Move core text s.db tenants findings locks db' pc') :
    ∃ order, order.Perm (System.mk db' (before ++ call.goto pc' :: after)).done ∧
      SameFindings (addAll core text db₀ order) db' := by
  obtain ⟨order, hperm, hsame⟩ := h.serial
  have hdone : s.done = before.filterMap Call.completed ++ after.filterMap Call.completed := by
    have hs : s = ⟨s.db, before ++ call :: after⟩ := by rw [← hsplit]
    rw [hs, done_split, hmove.uncompleted, Option.toList_none, List.nil_append]
  rw [hdone] at hperm
  rw [done_split]
  obtain ⟨-, hfindings, hcompleted⟩ | ⟨tenant, write, hpc, hcommit, rfl⟩ := hmove.effect
  · refine ⟨order, ?_, ?_⟩
    · rwa [hcompleted, Option.toList_none, List.nil_append]
    · unfold SameFindings
      rw [hfindings]
      exact hsame
  · have hready : Ready db₀ (addAll core text db₀ order) := Ready.addAll ⟨hnumbered, fun _ hserves => hserves⟩ order
    have hsound : call.Sound core text db₀ s.db := h.calls call (by simp [hsplit])
    refine ⟨order ++ [call.add], ?_, ?_⟩
    · exact (List.perm_append_singleton _ _).trans ((hperm.cons call.add).trans List.perm_middle.symm)
    · rw [addAll_append]
      cases write with
      | insert row => exact sameFindings_insert hpc hsound hready hsame hcommit
      | update version => exact sameFindings_update hpc hsound hready hsame hcommit

/-- Every statement of a call keeps the system sound, unless the call raises. -/
theorem System.Sound.step {index : ℕ} (hnumbered : Numbered db₀) (h : s.Sound core text db₀ adds)
    (hcovered : s.Covered core text index) (hstep : s.step core text index = some s') :
    s'.Sound core text db₀ adds := by
  obtain ⟨before, call, after, db', pc', hsplit, hcall, hmove, rfl⟩ := step_eq_some hstep
  have hmem : call ∈ s.calls := List.mem_of_getElem? hcall
  have hsound := h.calls call hmem
  have hothers := pairwise_others Call.Compatible.symm hsplit h.compatible
  have hbeside : ∀ c ∈ before ++ after, c ∈ s.calls := by
    intro c hc
    rw [hsplit]
    rcases List.mem_append.mp hc with hc | hc <;> simp [hc]
  refine ⟨?_, ?_, ?_, ?_, ?_⟩
  · intro c hc
    rcases List.mem_append.mp hc with hbefore | hc
    · have hc := List.mem_append_left after hbefore
      exact hmove.others (hothers c hc) (h.calls c (hbeside c hc))
    · rcases List.mem_cons.mp hc with rfl | hafter
      · exact hmove.sound h.served (hcovered call hcall) hsound
      · have hc := List.mem_append_right before hafter
        exact hmove.others (hothers c hc) (h.calls c (hbeside c hc))
  · refine pairwise_of_split Call.Compatible.symm hsplit rfl h.compatible fun c hc => ?_
    apply hmove.compatible (hothers c hc)
    · exact fun row hrow => List.mem_filterMap.mpr ⟨c, hc, hrow⟩
    · exact fun row hrow => List.mem_filterMap.mpr ⟨c, hc, hrow⟩
    · exact fun rowId hrowId => List.mem_filterMap.mpr ⟨c, hc, hrowId⟩
  · intro tenantId hserves
    obtain ⟨htenants, -⟩ | ⟨tenant, write, hpc, hcommit, -⟩ := hmove.effect
    · exact h.served tenantId (htenants ▸ hserves)
    · have htenant : ∀ row ∈ tenant.toList, row = call.tenantRow ∧
          ∀ old ∈ s.db.tenants.rows, ¬ TenantRow.Conflict old row := by
        intro row hrow
        exact hsound.tenant row (by rw [hpc]; exact Option.mem_toList.mp hrow)
      refine h.served tenantId (hserves.of_append (commit_eq_some hcommit).1 (fun row hrow => ?_)
        fun row hrow => (htenant row hrow).2)
      rw [(htenant row hrow).1]
      rfl
  · rw [← h.adds, hsplit, List.map_append, List.map_append]
    rfl
  · exact h.serial_step hnumbered hsplit hmove

/-! ### Every call comes to its end -/

/-- How many statements a call has before it at most. -/
def Pc.remaining : Pc → ℕ
  | .readingTenant => 7
  | .insertingTenant => 6
  | .selecting _ => 5
  | .inserting _ => 4
  | .recovering => 3
  | .updating _ _ | .rewriting _ => 2
  | .committing _ _ => 1
  | .raised | .returned _ => 0

/-- How many statements all calls have before them at most. -/
def System.remaining (s : System) : ℕ := (s.calls.map fun call => call.pc.remaining).sum

/-- Every statement brings its call nearer to its end. -/
theorem Call.Move.remaining_lt {db db' : Database} {tenants : List TenantRow} {findings : List FindingRow}
    {locks : List ℕ} {call : Call} {pc' : Pc} (h : call.Move core text db tenants findings locks db' pc') :
    pc'.remaining < call.pc.remaining := by
  cases h <;> simp_all [Pc.remaining]

/-- Every statement of a call brings the system nearer to its end. -/
theorem step_remaining {index : ℕ} (h : s.step core text index = some s') : s'.remaining < s.remaining := by
  obtain ⟨before, call, after, db', pc', hsplit, -, hmove, rfl⟩ := step_eq_some h
  have hlt := hmove.remaining_lt
  simp only [System.remaining, hsplit, List.map_append, List.map_cons, List.sum_append, List.sum_cons, Call.goto_pc]
  omega

/-- A call with an uncommitted tenant row is past the insert of it and has not ended. -/
theorem Pc.remaining_of_tenant {pc : Pc} {row : TenantRow} (h : row ∈ pc.uncommittedTenant) :
    0 < pc.remaining ∧ pc.remaining < 6 := by
  cases pc <;> simp_all [uncommittedTenant, remaining]

/-- A call with an uncommitted finding row is about to commit. -/
theorem Pc.remaining_of_finding {pc : Pc} {row : FindingRow} (h : row ∈ pc.uncommittedFinding) :
    pc.remaining = 1 := by
  cases pc <;> simp_all [uncommittedFinding, remaining]

/-- A call that has locked a row is about to write it or to commit. -/
theorem Pc.remaining_of_lock {pc : Pc} {rowId : ℕ} (h : rowId ∈ pc.lock) : 0 < pc.remaining ∧ pc.remaining < 3 := by
  cases pc <;> simp_all [lock, remaining]

/-- What a statement can wait for: an uncommitted row that an insert meets, or a lock. -/
theorem Call.Sound.waits {db : Database} {tenants : List TenantRow} {findings : List FindingRow} {locks : List ℕ}
    {call : Call} (hsound : call.Sound core text db₀ db) (hopen : call.pc.remaining ≠ 0)
    (hwaits : call.advance core text db tenants findings locks = none) :
    (call.pc.remaining = 6 ∧ ∃ row, row ∈ tenants) ∨ (call.pc.remaining = 4 ∧ ∃ row, row ∈ findings) ∨
      (3 ≤ call.pc.remaining ∧ ∃ rowId, rowId ∈ locks) := by
  unfold Call.advance at hwaits
  split at hwaits
  · split at hwaits <;> cases hwaits
  · next hpc =>
    split at hwaits
    · next hblocked =>
      obtain ⟨row, hrow, -⟩ := Table.tryInsert_eq_waits hblocked
      exact .inl ⟨by rw [hpc]; rfl, row, hrow⟩
    · cases hwaits
    · cases hwaits
  · next tenant hpc =>
    split at hwaits
    · cases hwaits
    · next row hrow =>
      split at hwaits
      · next hlock => exact .inr (.inr ⟨by simp [hpc, Pc.remaining], row.rowId, hlock⟩)
      · cases hwaits
  · next tenant hpc =>
    dsimp only at hwaits
    split at hwaits
    · next hblocked =>
      obtain ⟨row, hrow, -⟩ := Table.tryInsert_eq_waits hblocked
      exact .inr (.inl ⟨by rw [hpc]; rfl, row, hrow⟩)
    · cases hwaits
    · cases hwaits
  · cases hwaits
  · next tenant write hpc =>
    -- a commit is held up by nobody, since what it inserts is free
    have hsome : (Call.commit db tenant write).isSome := by
      apply commit_isSome
      · exact fun row hrow => (hsound.tenant row (by rwa [hpc])).2
      · rintro row rfl
        exact (hsound.finding row (by rw [hpc]; rfl)).2
    rw [Option.map_eq_none_iff] at hwaits
    rw [hwaits] at hsome
    cases hsome
  · next hpc =>
    split at hwaits
    · cases hwaits
    · next row hrow =>
      split at hwaits
      · next hlock => exact .inr (.inr ⟨by simp [hpc, Pc.remaining], row.rowId, hlock⟩)
      · cases hwaits
  · cases hwaits
  · next hpc => exact absurd (by rw [hpc]; rfl) hopen
  · next hpc => exact absurd (by rw [hpc]; rfl) hopen

/-- A call that waits does so for one that is nearer to its end. -/
theorem System.Sound.waits_for (h : s.Sound core text db₀ adds) {index : ℕ} {call : Call}
    (hcall : s.calls[index]? = some call) (hopen : call.pc.remaining ≠ 0) (hwaits : s.step core text index = none) :
    ∃ other ∈ s.calls, other.pc.remaining ≠ 0 ∧ other.pc.remaining < call.pc.remaining := by
  have hadvance : call.advance core text s.db
      ((s.calls.eraseIdx index).filterMap fun other => other.pc.uncommittedTenant)
      ((s.calls.eraseIdx index).filterMap fun other => other.pc.uncommittedFinding)
      ((s.calls.eraseIdx index).filterMap fun other => other.pc.lock) = none := by
    rw [Option.eq_none_iff_forall_ne_some]
    rintro ⟨db', pc'⟩ hadvance
    simp [System.step, hcall, hadvance] at hwaits
  have hbeside : ∀ other ∈ s.calls.eraseIdx index, other ∈ s.calls := fun other hother =>
    (List.eraseIdx_sublist _ _).mem hother
  obtain ⟨hpc, row, hrow⟩ | ⟨hpc, row, hrow⟩ | ⟨hpc, rowId, hrowId⟩ :=
    (h.calls call (List.mem_of_getElem? hcall)).waits hopen hadvance
  · obtain ⟨other, hother, hheld⟩ := List.mem_filterMap.mp hrow
    have hbetween := Pc.remaining_of_tenant hheld
    exact ⟨other, hbeside other hother, by omega, by omega⟩
  · obtain ⟨other, hother, hheld⟩ := List.mem_filterMap.mp hrow
    have hone := Pc.remaining_of_finding hheld
    exact ⟨other, hbeside other hother, by omega, by omega⟩
  · obtain ⟨other, hother, hheld⟩ := List.mem_filterMap.mp hrowId
    have hbetween := Pc.remaining_of_lock hheld
    exact ⟨other, hbeside other hother, by omega, by omega⟩

/-- No calls wait for each other: while one has not ended, one can take its next step. -/
theorem System.Sound.progress (h : s.Sound core text db₀ adds) (hopen : ∃ call ∈ s.calls, call.pc.remaining ≠ 0) :
    ∃ index, (s.step core text index).isSome := by
  obtain ⟨call, hcall, hremaining⟩ := hopen
  -- by induction on how near the call is to its end
  induction hn : call.pc.remaining using Nat.strong_induction_on generalizing call with
  | _ n ih =>
    obtain ⟨index, hindex⟩ := List.mem_iff_getElem?.mp hcall
    cases hstep : s.step core text index with
    | some s' => exact ⟨index, by rw [hstep]; rfl⟩
    | none =>
      obtain ⟨other, hother, hopen, hlt⟩ := h.waits_for hindex hremaining hstep
      exact ih other.pc.remaining (hn ▸ hlt) other hother hopen rfl

/-- A call that has ended has raised or returned. -/
theorem Pc.ended {pc : Pc} (h : pc.remaining = 0) : pc = .raised ∨ ∃ stored, pc = .returned stored := by
  cases pc with
  | raised => exact .inl rfl
  | returned stored => exact .inr ⟨stored, rfl⟩
  | _ => cases h

/-- If all calls have returned, so have all adds. -/
theorem done_eq_of_returned {calls : List Call} {db : Database}
    (h : ∀ call ∈ calls, ∃ stored, call.pc = .returned stored) : (System.mk db calls).done = calls.map Call.add := by
  rw [System.done, ← List.filterMap_eq_map]
  refine List.filterMap_congr fun call hcall => ?_
  obtain ⟨stored, hpc⟩ := h call hcall
  rw [Call.completed, hpc]
  rfl

end ConcurrentAdds

/-- Concurrent adds as they should be: no call raises; until all have returned one of them can go on, and
every statement brings them nearer to their end; the adds of those that have returned leave the findings
that they leave one after another in some order, and in the end these are all adds. -/
structure AddsSerialize (core : CoreLibrary) (text : TextLibrary) (db₀ : Database) (adds : List FindingAdd)
    (s : ConcurrentAdds.System) : Prop where
  normal : ∀ call ∈ s.calls, call.pc ≠ .raised
  progress : (∀ call ∈ s.calls, ∃ stored, call.pc = .returned stored) ∨ ∃ index, (s.step core text index).isSome
  ends : ∀ index s', s.step core text index = some s' → s'.remaining < s.remaining
  serial : ∃ order, order.Perm s.done ∧ SameFindings (addAll core text db₀ order) s.db
  complete : (∀ call ∈ s.calls, ∃ stored, call.pc = .returned stored) →
    ∃ order, order.Perm adds ∧ SameFindings (addAll core text db₀ order) s.db

/-- Concurrent adds are serializable in every run in which each second transaction finds a row that loses
nothing by it. -/
theorem concurrent_adds_serializable (core : CoreLibrary) (text : TextLibrary) (db₀ : Database)
    (hnumbered : Numbered db₀) (adds : List FindingAdd) (schedule : List ℕ) (s : ConcurrentAdds.System)
    (hcovered : GuardedAlong (ConcurrentAdds.System.step core text) (ConcurrentAdds.System.Covered core text)
      (.initial db₀ adds) schedule)
    (hrun : runSteps (ConcurrentAdds.System.step core text) (.initial db₀ adds) schedule = some s) :
    AddsSerialize core text db₀ adds s := by
  have hsound : s.Sound core text db₀ adds :=
    runSteps_guarded_invariant (ConcurrentAdds.System.Sound core text db₀ adds)
      (fun _ _ _ h hguard hstep => h.step hnumbered hguard hstep) (ConcurrentAdds.sound_initial core text db₀ adds)
      hcovered hrun
  have hnormal : ∀ call ∈ s.calls, call.pc ≠ .raised := by
    intro call hcall hpc
    have hplaced := (hsound.calls call hcall).placed
    simp only [ConcurrentAdds.Call.Placed, hpc] at hplaced
  refine ⟨hnormal, ?_, fun _ _ hstep => ConcurrentAdds.step_remaining hstep, hsound.serial, fun hreturned => ?_⟩
  · by_cases hopen : ∃ call ∈ s.calls, call.pc.remaining ≠ 0
    · exact .inr (hsound.progress hopen)
    · refine .inl fun call hcall => ?_
      have hended : call.pc.remaining = 0 := by
        by_contra hremaining
        exact hopen ⟨call, hcall, hremaining⟩
      exact (ConcurrentAdds.Pc.ended hended).resolve_left (hnormal call hcall)
  · obtain ⟨order, hperm, hsame⟩ := hsound.serial
    refine ⟨order, ?_, hsame⟩
    rw [← hsound.adds, ← ConcurrentAdds.done_eq_of_returned hreturned]
    exact hperm

namespace FindingDict

/-- Two calls for a new tenant; the second reads the tenants before the first has committed its row. -/
def race : List ℕ := [0, 1, 0, 0, 0, 0, 1, 1, 1, 1]

/-- The calls of some adds after some of their statements, from an empty store. -/
def interleaved (adds : List FindingAdd) (schedule : List ℕ) : Option ConcurrentAdds.System :=
  runSteps (ConcurrentAdds.System.step core text) (.initial Database.empty adds) schedule

/-- Two sights of a finding that differ in nothing but their time. -/
def alike : List FindingAdd :=
  [⟨"tenant-a", hostFinding "f1" "web-1" .low, none, ⟨0, "1"⟩⟩,
    ⟨"tenant-a", hostFinding "f2" "web-1" .low, none, ⟨1, "2"⟩⟩]

/-- Two sights of a finding that has become worse. -/
def worse : List FindingAdd :=
  [⟨"tenant-a", hostFinding "f1" "web-1" .low, none, ⟨0, "1"⟩⟩,
    ⟨"tenant-a", hostFinding "f2" "web-1" .critical, some "job_2", ⟨1, "2"⟩⟩]

/-- Two findings. -/
def distinct : List FindingAdd :=
  [⟨"tenant-a", hostFinding "f1" "web-1" .low, none, ⟨0, "1"⟩⟩,
    ⟨"tenant-a", hostFinding "f2" "web-2" .low, none, ⟨1, "2"⟩⟩]

set_option maxRecDepth 8000 in
/-- The theorem applies to a race between two sights that differ in nothing but their time. -/
theorem concurrent_adds_serializable_alike :
    ∃ s, interleaved alike race = some s ∧ AddsSerialize core text Database.empty alike s := by
  obtain ⟨s, hrun⟩ := Option.isSome_iff_exists.mp (show (interleaved alike race).isSome = true by decide +kernel)
  refine ⟨s, hrun, concurrent_adds_serializable core text Database.empty ?_ alike race s ?_ hrun⟩
  · exact fun row hrow => absurd hrow List.not_mem_nil
  · decide +kernel

set_option maxRecDepth 8000 in
/-- In the same race the critical severity of a finding that has become worse is lost, whichever call is
thought to be first, and with two findings the second call raises. -/
theorem concurrent_adds_not_serializable :
    (∃ s, interleaved worse race = some s ∧ s.done.length = worse.length ∧
      ∀ order, order.Perm worse → ¬ SameFindings (addAll core text Database.empty order) s.db) ∧
    ∃ s, interleaved distinct (race.take 8) = some s ∧ ∃ call ∈ s.calls, call.pc = .raised := by
  constructor
  · have hlow : ∃ s ∈ interleaved worse race,
        s.done.length = worse.length ∧ s.db.findings.rows.map FindingRow.severity = [.low] := by decide +kernel
    obtain ⟨s, hrun, hdone, hseverity⟩ := hlow
    refine ⟨s, hrun, hdone, fun order hperm hsame => ?_⟩
    have hserial : ∀ order ∈ worse.permutations',
        (addAll core text Database.empty order).findings.rows.map FindingRow.severity = [.critical] := by
      decide +kernel
    have hcritical := hserial order (List.mem_permutations'.mpr hperm)
    have hequal := congrArg (List.map FindingRow.severity) hsame
    rw [List.map_map, List.map_map] at hequal
    change (addAll core text Database.empty order).findings.rows.map FindingRow.severity =
      s.db.findings.rows.map FindingRow.severity at hequal
    rw [hcritical, hseverity] at hequal
    cases hequal
  · have hended : ∃ s ∈ interleaved distinct (race.take 8),
        ∃ call ∈ s.calls, call.pc.remaining = 0 ∧ call.completed.isNone := by decide +kernel
    obtain ⟨s, hrun, call, hcall, hremaining, hnone⟩ := hended
    refine ⟨s, hrun, call, hcall, (ConcurrentAdds.Pc.ended hremaining).resolve_right ?_⟩
    rintro ⟨stored, hpc⟩
    rw [ConcurrentAdds.Call.completed, hpc] at hnone
    cases hnone

end FindingDict

end SharedIntegration

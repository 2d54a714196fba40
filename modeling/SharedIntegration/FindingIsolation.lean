import SharedIntegration.JobIsolation
import Mathlib.Data.Nat.Count

/-!
# Tenants of the finding registry

Calls of the relational finding registry against two databases that agree off one tenant, whose
findings have other row ids in the second database. Row ids come from one sequence for all tenants,
so that leaving out the findings of a tenant moves those of the others up.
-/

namespace SharedIntegration

open Relational FindingLifecycle

namespace Isolation

/-- The same findings of every other tenant, under other row ids. -/
abbrev FindingsAgree (removed : String) (number : ℕ → ℕ) :
    Table FindingRow FindingRow.Conflict → Table FindingRow FindingRow.Conflict → Prop :=
  Table.Mirrors (fun row => decide (row.tenantId ≠ removed)) (FindingRow.renumber number)

/-- Findings of other tenants come before the same cursors. -/
def OrderKept (removed : String) (number : ℕ → ℕ) (findings : Table FindingRow FindingRow.Conflict) : Prop :=
  ∀ row ∈ findings.rows, row.tenantId ≠ removed → ∀ cursor, row.rowId < cursor ↔ number row.rowId < number cursor

/-- The row ids come from the sequence. -/
def Numbered (db : Database) : Prop := ∀ row ∈ db.findings.rows, row.rowId < db.findingSequence

variable {removed tenantId : String} {number : ℕ → ℕ} {core : CoreLibrary} {text : TextLibrary}
  {db db' : Database} {m : Moment}

/-- Rows of one tenant that meet a condition which does not read their ids. -/
theorem FindingsAgree.select_eq {findings findings' : Table FindingRow FindingRow.Conflict}
    (h : FindingsAgree removed number findings findings') (htenant : tenantId ≠ removed)
    {wanted wanted' : FindingRow → Bool} (hwanted : ∀ row, wanted row = true → row.tenantId = tenantId)
    (hwanted' : ∀ row, wanted' row = true → row.tenantId = tenantId)
    (hrename : ∀ row ∈ findings.rows, row.tenantId ≠ removed → wanted' (row.renumber number) = wanted row) :
    (findings.select wanted).map (FindingRow.renumber number) = findings'.select wanted' :=
  h.select (fun row hrow => decide_eq_true ((hwanted row hrow).trans_ne htenant))
    (fun row hrow => decide_eq_true ((hwanted' row hrow).trans_ne htenant))
    fun row hrow hkept => hrename row hrow (of_decide_eq_true hkept)

/-- The row of one tenant that meets a condition which does not read its id. -/
theorem FindingsAgree.find_eq {findings findings' : Table FindingRow FindingRow.Conflict}
    (h : FindingsAgree removed number findings findings') (htenant : tenantId ≠ removed)
    {wanted : FindingRow → Bool} (hwanted : ∀ row, wanted row = true → row.tenantId = tenantId)
    (hrename : ∀ row, wanted (row.renumber number) = wanted row) :
    (findings.find wanted).map (FindingRow.renumber number) = findings'.find wanted :=
  h.find (fun row hrow => decide_eq_true ((hwanted row hrow).trans_ne htenant))
    (fun row hrow => decide_eq_true ((hwanted row hrow).trans_ne htenant)) fun row _ _ => hrename row

/-- Renumbering does not change the finding of a row. -/
theorem map_finding_renumber (rows : List FindingRow) :
    (rows.map (FindingRow.renumber number)).map (FindingRow.finding core) = rows.map (FindingRow.finding core) := by
  rw [List.map_map]
  rfl

/-- The order of kept row ids is that of their new numbers. -/
theorem OrderKept.le_iff {findings : Table FindingRow FindingRow.Conflict} (h : OrderKept removed number findings)
    {a b : FindingRow} (hb : b ∈ findings.rows) (htenant : b.tenantId ≠ removed) :
    a.rowId ≤ b.rowId ↔ number a.rowId ≤ number b.rowId := by
  have hlt := h b hb htenant a.rowId
  omega

/-- Rows of one tenant stay in the order of their ids. -/
theorem OrderKept.map_orderBy {findings : Table FindingRow FindingRow.Conflict}
    (h : OrderKept removed number findings) (htenant : tenantId ≠ removed) {wanted : FindingRow → Bool}
    (hwanted : ∀ row, wanted row = true → row.tenantId = tenantId) :
    (orderBy FindingRow.rowId (findings.select wanted)).map (FindingRow.renumber number) =
      orderBy FindingRow.rowId ((findings.select wanted).map (FindingRow.renumber number)) := by
  apply Relational.map_orderBy
  intro a _ b hb
  obtain ⟨hmem, hrow⟩ := List.mem_filter.mp hb
  exact h.le_iff hmem ((hwanted b hrow).trans_ne htenant)

/-- `findings` for another tenant. -/
theorem findings_eq (h : FindingsAgree removed number db.findings db'.findings)
    (horder : OrderKept removed number db.findings) (htenant : tenantId ≠ removed) :
    findings core db tenantId = findings core db' tenantId := by
  have hwanted : ∀ row : FindingRow, decide (row.tenantId = tenantId) = true → row.tenantId = tenantId :=
    fun row hrow => of_decide_eq_true hrow
  have hselect := FindingsAgree.select_eq h htenant hwanted hwanted fun _ _ _ => rfl
  unfold findings
  rw [← hselect, ← horder.map_orderBy htenant hwanted, map_finding_renumber]

/-- `query` for another tenant. -/
theorem query_eq (h : FindingsAgree removed number db.findings db'.findings) (htenant : tenantId ≠ removed)
    (source : Option FindingSource) (severity : Option FindingSeverity) (host cve : Option String)
    (since : Option Instant) (limit : ℕ) :
    query core db tenantId source severity host cve since limit =
      query core db' tenantId source severity host cve since limit := by
  have hwanted : ∀ row : FindingRow, (decide (row.tenantId = tenantId) &&
      RowFilter.selects ⟨source, severity, host, cve, none, since⟩ row) = true → row.tenantId = tenantId := by
    intro row hrow
    rw [Bool.and_eq_true] at hrow
    exact of_decide_eq_true hrow.1
  have hselect := FindingsAgree.select_eq h htenant hwanted hwanted fun _ _ _ => rfl
  unfold query
  rw [← hselect]
  dsimp only
  rw [← List.map_insertionSort (fun a b : FindingRow => b.lastSeen ≤ a.lastSeen) _
    (FindingRow.renumber number) _ fun _ _ _ _ => Iff.rfl]
  rw [← List.map_take, map_finding_renumber]

/-- `list_page` for another tenant. -/
theorem listPage_eq (h : FindingsAgree removed number db.findings db'.findings)
    (horder : OrderKept removed number db.findings) (htenant : tenantId ≠ removed) (cursor : Option ℕ) (limit : ℕ)
    (source : Option FindingSource) (severity : Option FindingSeverity) (status : Option FindingStatus) :
    ((listPage core db tenantId cursor limit source severity status).1.map (·.renumber number),
      (listPage core db tenantId cursor limit source severity status).2.map number) =
      listPage core db' tenantId (cursor.map number) limit source severity status := by
  have hwanted : ∀ (cursor : Option ℕ) (row : FindingRow), (decide (row.tenantId = tenantId) &&
      (cursor.all fun before => decide (row.rowId < before)) &&
      RowFilter.selects ⟨source, severity, none, none, status, none⟩ row) = true → row.tenantId = tenantId := by
    intro cursor row hrow
    rw [Bool.and_eq_true, Bool.and_eq_true] at hrow
    exact of_decide_eq_true hrow.1.1
  have hselect := FindingsAgree.select_eq h htenant (hwanted cursor) (hwanted (cursor.map number)) (by
    intro row hrow hkept
    have hcursor : ((cursor.map number).all fun before => decide ((row.renumber number).rowId < before)) =
        cursor.all fun before => decide (row.rowId < before) := by
      cases cursor with
      | none => rfl
      | some before => exact decide_eq_decide.mpr (horder row hrow hkept before).symm
    rw [hcursor]
    rfl)
  have hsorted := horder.map_orderBy htenant (hwanted cursor)
  simp only [listPage]
  rw [← hselect, ← hsorted, ← List.map_reverse, ← List.map_take, ← List.map_take, List.length_map, List.map_map,
    List.map_map]
  refine Prod.ext rfl ?_
  simp only [List.getLast?_map, apply_ite (Option.map number), Option.map_map, Option.map_none]
  rfl

/-- `update_lifecycle` for another tenant. -/
theorem updateLifecycle_alike (h : FindingsAgree removed number db.findings db'.findings)
    (htenant : tenantId ≠ removed) (findingId : String) (status : Option FindingStatus)
    (assignedTo : Option (Option String)) (actor : String) :
    (updateLifecycle core db m tenantId findingId status assignedTo actor).2.map (·.renumber number) =
        (updateLifecycle core db' m tenantId findingId status assignedTo actor).2 ∧
      FindingsAgree removed number (updateLifecycle core db m tenantId findingId status assignedTo actor).1.findings
        (updateLifecycle core db' m tenantId findingId status assignedTo actor).1.findings := by
  have hwanted : ∀ row : FindingRow, decide (row.tenantId = tenantId ∧ row.findingId = findingId) = true →
      row.tenantId = tenantId := fun row hrow => (of_decide_eq_true hrow).1
  have hfind := FindingsAgree.find_eq h htenant hwanted fun _ => rfl
  unfold updateLifecycle
  cases hrow : db.findings.find fun row => row.tenantId = tenantId ∧ row.findingId = findingId with
  | none =>
    rw [hrow, Option.map_none] at hfind
    rw [← hfind]
    exact ⟨rfl, h⟩
  | some row =>
    rw [hrow, Option.map_some] at hfind
    rw [← hfind]
    refine ⟨rfl, ?_⟩
    exact h.update (FindingRow.triage_keeps status assignedTo m.now) (FindingRow.triage_keeps status assignedTo m.now)
      (fun _ _ => rfl) (fun _ _ => rfl) (fun _ => rfl) fun _ => rfl

/-- The findings after a row was inserted under the next row id. -/
theorem FindingsAgree.insertCreated {finding : Finding} {jobId : Option String}
    (h : FindingsAgree removed number db.findings db'.findings) (horder : OrderKept removed number db.findings)
    (hnumbered : Numbered db) (hnumbered' : Numbered db') (hsequence : db'.findingSequence = number db.findingSequence)
    (htenant : tenantId ≠ removed) :
    (db.findings.insert (.created core text db.findingSequence tenantId finding jobId m.now) = none ∧
      db'.findings.insert (.created core text db'.findingSequence tenantId finding jobId m.now) = none) ∨
    ∃ inserted inserted',
      db.findings.insert (.created core text db.findingSequence tenantId finding jobId m.now) = some inserted ∧
      db'.findings.insert (.created core text db'.findingSequence tenantId finding jobId m.now) = some inserted' ∧
      FindingsAgree removed number inserted inserted' := by
  have hfree : ∀ (old : FindingRow) (rowId : ℕ), old.rowId < rowId → decide (old.tenantId ≠ removed) = false →
      ¬ FindingRow.Conflict old (.created core text rowId tenantId finding jobId m.now) := by
    rintro old rowId hlt hkept (hid | ⟨hsame, -⟩)
    · exact absurd hid (Nat.ne_of_lt hlt)
    · exact of_decide_eq_false hkept fun hremoved => htenant (hsame.symm.trans hremoved)
  apply Table.Mirrors.insert h (decide_eq_true htenant) (decide_eq_true htenant)
  · rw [hsequence]
    rfl
  · exact fun old hold => hfree old _ (hnumbered old hold)
  · exact fun old hold => hfree old _ (hnumbered' old hold)
  · intro old hold hkept
    have hlt := hnumbered old hold
    have hlt' := (horder old hold (of_decide_eq_true hkept) _).mp hlt
    refine or_congr ?_ Iff.rfl
    rw [hsequence]
    exact ⟨fun hid => absurd hid (Nat.ne_of_lt hlt'), fun hid => absurd hid (Nat.ne_of_lt hlt)⟩

/-- Merging at a moment touches no key column. -/
theorem merge_keeps_at (core : CoreLibrary) (m : Moment) (finding : Finding) (jobId : Option String) :
    Relational.KeepsKeys FindingRow.Conflict (FindingRow.merge core finding jobId m.now) :=
  FindingRow.merge_keeps core finding jobId m.now

/-- The findings after a further occurrence was merged. -/
def mergedFindings (core : CoreLibrary) (text : TextLibrary) (db : Database) (m : Moment) (tenantId : String)
    (finding : Finding) (jobId : Option String) : Table FindingRow FindingRow.Conflict :=
  updateFingerprint db.findings tenantId (findingFingerprint core text finding)
    (.merge core finding jobId m.now) (merge_keeps_at core m finding jobId)

/-- The first transaction of `_store_finding` for a tenant that has a row. -/
theorem storeLocked_stored (hstored : Stored db tenantId) (finding : Finding) (jobId : Option String) :
    storeLocked core text db m tenantId finding jobId =
      match findFingerprint db.findings tenantId (findingFingerprint core text finding) with
      | none => (db.findings.insert (.created core text db.findingSequence tenantId finding jobId m.now)).map
          fun findings => { db with findings, findingSequence := db.findingSequence + 1 }
      | some _ => some { db with findings := mergedFindings core text db m tenantId finding jobId } := by
  unfold storeLocked
  dsimp only
  rw [ensureTenant_stored hstored]
  cases findFingerprint db.findings tenantId (findingFingerprint core text finding) with
  | none =>
    rw [Option.map_eq_bind]
    rfl
  | some row => rfl

/-- `add_for_job` for a tenant that has a row: a first occurrence is inserted, a further one merged. -/
theorem addForJob_stored (hstored : Stored db tenantId) (finding : Finding) (jobId : Option String) :
    addForJob core text db m tenantId finding jobId =
      match findFingerprint db.findings tenantId (findingFingerprint core text finding) with
      | none =>
        match db.findings.insert (.created core text db.findingSequence tenantId finding jobId m.now) with
        | some findings => ({ db with findings, findingSequence := db.findingSequence + 1 }, .ok ())
        | none => (db, .error RepositoryError.integrityError.message)
      | some _ => ({ db with findings := mergedFindings core text db m tenantId finding jobId }, .ok ()) := by
  unfold addForJob storeFinding
  rw [storeLocked_stored hstored]
  cases hfind : findFingerprint db.findings tenantId (findingFingerprint core text finding) with
  | none =>
    cases db.findings.insert (.created core text db.findingSequence tenantId finding jobId m.now) with
    | none => simp [storeLost, hfind]
    | some findings => simp
  | some row => simp

/-- `add_for_job` for another tenant; a row that it inserts moves both sequences on. -/
theorem addForJob_alike (h : FindingsAgree removed number db.findings db'.findings)
    (horder : OrderKept removed number db.findings) (hnumbered : Numbered db) (hnumbered' : Numbered db')
    (hsequence : db'.findingSequence = number db.findingSequence) (htenant : tenantId ≠ removed)
    (hstored : Stored db tenantId) (hstored' : Stored db' tenantId) (finding : Finding) (jobId : Option String)
    (hnext : (addForJob core text db m tenantId finding jobId).1.findingSequence ≠ db.findingSequence →
      number (db.findingSequence + 1) = number db.findingSequence + 1) :
    (addForJob core text db m tenantId finding jobId).2 = (addForJob core text db' m tenantId finding jobId).2 ∧
      FindingsAgree removed number (addForJob core text db m tenantId finding jobId).1.findings
        (addForJob core text db' m tenantId finding jobId).1.findings ∧
      (addForJob core text db' m tenantId finding jobId).1.findingSequence =
        number (addForJob core text db m tenantId finding jobId).1.findingSequence := by
  have hwanted : ∀ row : FindingRow, decide (row.tenantId = tenantId ∧
      row.fingerprint = findingFingerprint core text finding) = true → row.tenantId = tenantId :=
    fun row hrow => (of_decide_eq_true hrow).1
  have hfind := FindingsAgree.find_eq h htenant hwanted fun _ => rfl
  change (findFingerprint db.findings tenantId (findingFingerprint core text finding)).map _ =
    findFingerprint db'.findings tenantId (findingFingerprint core text finding) at hfind
  rw [addForJob_stored hstored] at hnext ⊢
  rw [addForJob_stored hstored']
  cases hrow : findFingerprint db.findings tenantId (findingFingerprint core text finding) with
  | none =>
    rw [hrow, Option.map_none] at hfind
    rw [hrow] at hnext
    rw [← hfind]
    obtain ⟨hnone, hnone'⟩ | ⟨inserted, inserted', hinsert, hinsert', hagree⟩ :=
      @FindingsAgree.insertCreated removed tenantId number core text db db' m finding jobId h horder
        hnumbered hnumbered' hsequence htenant
    · simp only [hnone, hnone']
      exact ⟨trivial, h, hsequence⟩
    · simp only [hinsert] at hnext
      simp only [hinsert, hinsert']
      refine ⟨trivial, hagree, ?_⟩
      rw [hnext (by omega), hsequence]
  | some row =>
    rw [hrow, Option.map_some] at hfind
    rw [← hfind]
    refine ⟨rfl, ?_, hsequence⟩
    have hchange : ∀ row : FindingRow, FindingRow.merge core finding jobId m.now (row.renumber number) =
        (FindingRow.merge core finding jobId m.now row).renumber number := fun _ => rfl
    exact h.update (FindingRow.merge_keeps core finding jobId m.now) (FindingRow.merge_keeps core finding jobId m.now)
      (fun _ _ => rfl) (fun _ _ => rfl) (fun _ => rfl) hchange

/-! ### What a call of the registry can change -/

/-- The rows of findings keep their ids and tenants; at most one is added, under the next row id. -/
structure RowsGrow (tenantId : String) (db db₁ : Database) : Prop where
  kept : ∀ row ∈ db.findings.rows, ∃ row' ∈ db₁.findings.rows, row'.rowId = row.rowId ∧ row'.tenantId = row.tenantId
  new : ∀ row' ∈ db₁.findings.rows, (∃ row ∈ db.findings.rows, row'.rowId = row.rowId) ∨
    row'.rowId = db.findingSequence ∧ db₁.findingSequence = db.findingSequence + 1
  sequence : db₁.findingSequence = db.findingSequence ∨ db₁.findingSequence = db.findingSequence + 1 ∧
    ∃ row ∈ db₁.findings.rows, row.rowId = db.findingSequence ∧ row.tenantId = tenantId

/-- Findings that did not change keep their rows. -/
theorem RowsGrow.of_eq {db₁ : Database} (hfindings : db₁.findings = db.findings)
    (hsequence : db₁.findingSequence = db.findingSequence) : RowsGrow tenantId db db₁ where
  kept row hrow := ⟨row, hfindings ▸ hrow, rfl, rfl⟩
  new row hrow := Or.inl ⟨row, hfindings ▸ hrow, rfl⟩
  sequence := Or.inl hsequence

/-- An update of other columns keeps the rows. -/
theorem RowsGrow.of_update {db₁ : Database} {selected : FindingRow → Bool} {change : FindingRow → FindingRow}
    (hrows : db₁.findings.rows = db.findings.rows.map fun row => if selected row then change row else row)
    (hsequence : db₁.findingSequence = db.findingSequence) (hid : ∀ row, (change row).rowId = row.rowId)
    (htenant : ∀ row, (change row).tenantId = row.tenantId) : RowsGrow tenantId db db₁ where
  kept row hrow := by
    refine ⟨_, hrows ▸ List.mem_map_of_mem hrow, ?_⟩
    split
    · exact ⟨hid row, htenant row⟩
    · exact ⟨rfl, rfl⟩
  new row' hrow' := by
    rw [hrows] at hrow'
    obtain ⟨row, hrow, rfl⟩ := List.mem_map.mp hrow'
    refine Or.inl ⟨row, hrow, ?_⟩
    split
    · exact hid row
    · rfl
  sequence := Or.inl hsequence

/-- What a call of the registry leaves alone, and what it may add. -/
structure RegistryFrame (m : Moment) (tenantId : String) (db db₁ : Database) : Prop where
  tenants : db₁.tenants = db.tenants
  jobTables : db₁.jobTables = db.jobTables
  rows : RowsGrow tenantId db db₁
  correlationIds : ∀ row ∈ db₁.correlations.rows, row ∈ db.correlations.rows ∨ row.id = "corr_" ++ m.uuid

/-- A read changes nothing. -/
theorem RegistryFrame.refl (m : Moment) (tenantId : String) (db : Database) : RegistryFrame m tenantId db db :=
  ⟨rfl, rfl, RowsGrow.of_eq rfl rfl, fun _ h => Or.inl h⟩

/-- `add_for_job` adds at most one finding of its tenant. -/
theorem addForJob_frame (hstored : Stored db tenantId) (finding : Finding) (jobId : Option String) :
    RegistryFrame m tenantId db (addForJob core text db m tenantId finding jobId).1 := by
  rw [addForJob_stored hstored]
  split
  · split
    · next hinsert =>
      have hrows := (Table.insert_eq_some hinsert).1
      refine ⟨rfl, rfl, ⟨?_, ?_, ?_⟩, fun _ h => Or.inl h⟩
      · intro row hrow
        exact ⟨row, hrows ▸ List.mem_append_left _ hrow, rfl, rfl⟩
      · intro row hrow
        rw [hrows] at hrow
        rcases List.mem_append.mp hrow with hold | hnew
        · exact Or.inl ⟨row, hold, rfl⟩
        · rw [List.mem_singleton.mp hnew]
          exact Or.inr ⟨rfl, rfl⟩
      · exact Or.inr ⟨rfl, _, hrows ▸ List.mem_append_right _ List.mem_cons_self, rfl, rfl⟩
    · exact RegistryFrame.refl m tenantId db
  · exact ⟨rfl, rfl, RowsGrow.of_update rfl rfl (fun _ => rfl) fun _ => rfl, fun _ h => Or.inl h⟩

/-- `add_for_job` for the tenant keeps the findings of the others. -/
theorem addForJob_outside {findings' : Table FindingRow FindingRow.Conflict}
    (h : FindingsAgree removed number db.findings findings') (hstored : Stored db removed) (finding : Finding)
    (jobId : Option String) :
    FindingsAgree removed number (addForJob core text db m removed finding jobId).1.findings findings' := by
  rw [addForJob_stored hstored]
  split
  · split
    · next hinsert => exact Table.Mirrors.insert_outside h (decide_eq_false fun hne => hne rfl) hinsert
    · exact h
  · apply h.update_outside (FindingRow.merge_keeps core finding jobId m.now)
    · exact fun row hrow => decide_eq_false fun hne => hne (of_decide_eq_true hrow).1
    · exact fun _ _ => rfl

/-- `update_lifecycle` changes other columns of at most one row. -/
theorem updateLifecycle_frame (findingId : String) (status : Option FindingStatus)
    (assignedTo : Option (Option String)) (actor : String) :
    RegistryFrame m tenantId db (updateLifecycle core db m tenantId findingId status assignedTo actor).1 := by
  unfold updateLifecycle
  split
  · exact RegistryFrame.refl m tenantId db
  · exact ⟨rfl, rfl, RowsGrow.of_update rfl rfl (fun _ => rfl) fun _ => rfl, fun _ h => Or.inl h⟩

/-- `update_lifecycle` for the tenant keeps the findings of the others. -/
theorem updateLifecycle_outside {findings' : Table FindingRow FindingRow.Conflict}
    (h : FindingsAgree removed number db.findings findings') (findingId : String) (status : Option FindingStatus)
    (assignedTo : Option (Option String)) (actor : String) :
    FindingsAgree removed number (updateLifecycle core db m removed findingId status assignedTo actor).1.findings
      findings' := by
  unfold updateLifecycle
  split
  · exact h
  · apply h.update_outside (FindingRow.triage_keeps status assignedTo m.now)
    · exact fun row hrow => decide_eq_false fun hne => hne (of_decide_eq_true hrow).1
    · exact fun _ _ => rfl

end Isolation

end SharedIntegration

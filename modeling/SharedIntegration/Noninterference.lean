import SharedIntegration.CallIsolation
import SharedIntegration.FindingColumns

/-!
# Tenants do not interfere

Deleting all calls for one tenant from a run of the relational stores changes no result of another
tenant, whatever ids of others a call names. Only row ids of findings move, because one sequence
numbers the findings of all tenants; page cursors are row ids and move with them.
-/

namespace SharedIntegration

open Relational FindingLifecycle

namespace Isolation

variable {removed tenantId : String} {core : CoreLibrary} {text : TextLibrary} {db db' : Database} {m : Moment}

/-- Before a run its tenants have rows, its identifiers are new, and row ids come from the sequence. -/
structure Ready (db : Database) (run : List (StoreCall × Moment)) : Prop where
  stored : ∀ entry ∈ run, Stored db entry.1.tenantId
  distinct : (run.map fun entry => entry.2.uuid).Nodup
  unused : ∀ entry ∈ run, Unused entry.2 db
  numbered : Numbered db

/-- Nothing is needed for a call that is left out. -/
theorem Ready.drop {entry : StoreCall × Moment} {rest : List (StoreCall × Moment)}
    (h : Ready db (entry :: rest)) : Ready db rest where
  stored other hother := h.stored other (List.mem_cons_of_mem entry hother)
  distinct := (List.nodup_cons.mp h.distinct).2
  unused other hother := h.unused other (List.mem_cons_of_mem entry hother)
  numbered := h.numbered

/-- Two texts with one prefix. -/
theorem append_ne {a b : String} (start : String) (h : a ≠ b) : start ++ a ≠ start ++ b := by
  intro heq
  apply h
  rw [← String.toList_inj, String.toList_append, String.toList_append, List.append_right_inj,
    String.toList_inj] at heq
  exact heq

/-- An identifier stays new when another one is used. -/
theorem Unused.step {m₁ : Moment} {db₁ : Database} (h : Unused m₁ db) (hframe : CallFrame m tenantId db db₁)
    (hne : m.uuid ≠ m₁.uuid) : Unused m₁ db₁ where
  jobs row hrow := by
    rcases hframe.jobIds row hrow with ⟨old, hold, hid⟩ | hid
    · rw [← hid]
      exact h.jobs old hold
    · rw [hid]
      exact append_ne "job_" hne
  correlations row hrow := by
    rcases hframe.correlationIds row hrow with hold | hid
    · exact h.correlations row hold
    · rw [hid]
      exact append_ne "corr_" hne

/-- Row ids still come from the sequence. -/
theorem Numbered.step {db₁ : Database} (h : Numbered db) (hrows : RowsGrow tenantId db db₁) : Numbered db₁ := by
  intro row hrow
  have hsequence : db.findingSequence ≤ db₁.findingSequence := by
    rcases hrows.sequence with hsame | ⟨hnext, -⟩ <;> omega
  rcases hrows.new row hrow with ⟨old, hold, hid⟩ | ⟨hid, hnext⟩
  · have hlt := h old hold
    omega
  · omega

/-- A call for the tenant of the first call leaves the rest ready. -/
theorem Ready.step {call other : StoreCall} {rest : List (StoreCall × Moment)} (h : Ready db ((call, m) :: rest))
    (hother : other.tenantId = call.tenantId) : Ready (other.perform core text db m).1 rest := by
  have hstored : Stored db other.tenantId := by
    rw [hother]
    exact h.stored (call, m) List.mem_cons_self
  have hframe := @call_frame core text db m other hstored
  have hdrop := h.drop
  refine ⟨fun entry hentry => ?_, hdrop.distinct, fun entry hentry => ?_, hdrop.numbered.step hframe.rows⟩
  · obtain ⟨row, hrow, hid⟩ := hdrop.stored entry hentry
    exact ⟨row, hframe.tenants ▸ hrow, hid⟩
  · apply (hdrop.unused entry hentry).step hframe
    intro heq
    apply (List.nodup_cons.mp h.distinct).1
    exact List.mem_map.mpr ⟨entry, hentry, heq.symm⟩

/-- Rows of findings stay through a run. -/
theorem rows_kept {run : List (StoreCall × Moment)} (h : Ready db run) {row : FindingRow}
    (hrow : row ∈ db.findings.rows) : ∃ row' ∈ (StoreCall.performAll core text db run).findings.rows,
      row'.rowId = row.rowId ∧ row'.tenantId = row.tenantId := by
  induction run generalizing db row with
  | nil => exact ⟨row, hrow, rfl, rfl⟩
  | cons entry rest ih =>
    obtain ⟨call, m⟩ := entry
    have hframe := @call_frame core text db m call (h.stored (call, m) List.mem_cons_self)
    obtain ⟨next, hnext, hid, htenant⟩ := hframe.rows.kept row hrow
    obtain ⟨row', hrow', hid', htenant'⟩ := ih (h.step rfl) hnext
    exact ⟨row', hrow', hid'.trans hid, htenant'.trans htenant⟩

/-! ### Row ids without the tenant -/

/-- The row id went to a finding of the tenant during the run that ended in the final database. -/
def Taken (removed : String) (start : ℕ) (final : Database) (rowId : ℕ) : Prop :=
  start ≤ rowId ∧ ∃ row ∈ final.findings.rows, row.rowId = rowId ∧ row.tenantId = removed

instance (removed : String) (start : ℕ) (final : Database) : DecidablePred (Taken removed start final) :=
  fun _ => inferInstanceAs (Decidable (_ ∧ _))

/-- The row ids of the run without the tenant: those it took are skipped. -/
def numberWithout (removed : String) (start : ℕ) (final : Database) (rowId : ℕ) : ℕ :=
  Nat.count (fun rowId => ¬ Taken removed start final rowId) rowId

variable {start : ℕ} {final : Database}

/-- Up to the start of the run nothing moves. -/
theorem numberWithout_start {rowId : ℕ} (h : rowId ≤ start) : numberWithout removed start final rowId = rowId := by
  apply Nat.count_of_forall
  intro earlier hearlier htaken
  exact absurd htaken.1 (by omega)

/-- A row id that another tenant has was not taken. -/
theorem not_taken {row : FindingRow} (hrow : row ∈ final.findings.rows) (htenant : row.tenantId ≠ removed) :
    ¬ Taken removed start final row.rowId := by
  rintro ⟨-, other, hother, hid, hremoved⟩
  have hsame : other = row := final.findings.eq_of_key (fun found => found.rowId = row.rowId)
    (fun a b ha hb => Or.inl ((of_decide_eq_true ha).trans (of_decide_eq_true hb).symm)) hother hrow
    (decide_eq_true hid) (decide_eq_true rfl)
  exact htenant (hsame ▸ hremoved)

/-- Skipping row ids keeps the order of those that stay. -/
theorem numberWithout_lt_iff {rowId cursor : ℕ} (h : ¬ Taken removed start final rowId) :
    rowId < cursor ↔ numberWithout removed start final rowId < numberWithout removed start final cursor :=
  ⟨Nat.count_strict_mono h, Nat.lt_of_count_lt_count⟩

/-- Rows that stay to the end are in the same order. -/
theorem orderKept_of_rows (h : ∀ row ∈ db.findings.rows, ∃ row' ∈ final.findings.rows,
    row'.rowId = row.rowId ∧ row'.tenantId = row.tenantId) :
    OrderKept removed (numberWithout removed start final) db.findings := by
  intro row hrow htenant cursor
  obtain ⟨row', hrow', hid, hsame⟩ := h row hrow
  apply numberWithout_lt_iff
  rw [← hid]
  exact not_taken hrow' (hsame.trans_ne htenant)

/-- The number that the sequence moves on to when a call draws a row id. -/
theorem numberWithout_succ {db₁ : Database} (hstart : start ≤ db.findingSequence) (hrows : RowsGrow tenantId db db₁)
    (hkept : ∀ row ∈ db₁.findings.rows, ∃ row' ∈ final.findings.rows,
      row'.rowId = row.rowId ∧ row'.tenantId = row.tenantId)
    (hne : db₁.findingSequence ≠ db.findingSequence) :
    db₁.findingSequence = db.findingSequence + 1 ∧
      numberWithout removed start final (db.findingSequence + 1) =
        numberWithout removed start final db.findingSequence + if tenantId = removed then 0 else 1 := by
  obtain ⟨hnext, row, hrow, hid, htenant⟩ := hrows.sequence.resolve_left hne
  obtain ⟨row', hrow', hid', htenant'⟩ := hkept row hrow
  refine ⟨hnext, (Nat.count_succ _ _).trans ?_⟩
  by_cases hremoved : tenantId = removed
  · have htaken : Taken removed start final db.findingSequence :=
      ⟨hstart, row', hrow', hid'.trans hid, htenant'.trans (htenant.trans hremoved)⟩
    rw [if_neg (not_not_intro htaken), if_pos hremoved]
    rfl
  · have hfree : ¬ Taken removed start final db.findingSequence := by
      rw [← hid, ← hid']
      apply not_taken hrow'
      rw [htenant', htenant]
      exact hremoved
    rw [if_pos hfree, if_neg hremoved]
    rfl

/-! ### Runs -/

/-- The run without the calls for the tenant; cursors are those of the renumbered rows. -/
def without (removed : String) (number : ℕ → ℕ) (run : List (StoreCall × Moment)) : List (StoreCall × Moment) :=
  (run.filter fun entry => entry.1.tenantId ≠ removed).map fun entry => (entry.1.renumber number, entry.2)

/-- From databases that agree, the run and the run without a tenant return the same to another tenant. -/
theorem resultsOf_alike {run : List (StoreCall × Moment)} {db db' : Database} (htenant : tenantId ≠ removed)
    (hagree : Agree removed (numberWithout removed start final) db db') (hready : Ready db run)
    (hready' : Ready db' run) (hstart : start ≤ db.findingSequence)
    (hfinal : StoreCall.performAll core text db run = final) :
    (StoreCall.resultsOf core text tenantId db run).map (StoreResult.renumber (numberWithout removed start final)) =
      StoreCall.resultsOf core text tenantId db' (without removed (numberWithout removed start final) run) := by
  induction run generalizing db db' with
  | nil => rfl
  | cons entry rest ih =>
    obtain ⟨call, m⟩ := entry
    have hstored := hready.stored (call, m) List.mem_cons_self
    have hframe := @call_frame core text db m call hstored
    have hnext : Ready (call.perform core text db m).1 rest := hready.step rfl
    have hkept : ∀ row ∈ (call.perform core text db m).1.findings.rows, ∃ row' ∈ final.findings.rows,
        row'.rowId = row.rowId ∧ row'.tenantId = row.tenantId := by
      intro row hrow
      obtain ⟨row', hrow', hsame⟩ := @rows_kept core text _ rest hnext row hrow
      exact ⟨row', hfinal ▸ hrow', hsame⟩
    have hstart' : start ≤ (call.perform core text db m).1.findingSequence := by
      rcases hframe.rows.sequence with hsame | ⟨hsucc, -⟩ <;> omega
    have hmoved := fun hne => @numberWithout_succ removed call.tenantId db start final _ hstart hframe.rows hkept hne
    by_cases hremoved : call.tenantId = removed
    · have hnumber : numberWithout removed start final (call.perform core text db m).1.findingSequence =
          numberWithout removed start final db.findingSequence := by
        by_cases hsame : (call.perform core text db m).1.findingSequence = db.findingSequence
        · rw [hsame]
        · obtain ⟨hsucc, hcount⟩ := hmoved hsame
          rw [hsucc, hcount, if_pos hremoved, Nat.add_zero]
      have hout : without removed (numberWithout removed start final) ((call, m) :: rest) =
          without removed (numberWithout removed start final) rest := by
        simp [without, hremoved]
      have hdiffers : call.tenantId ≠ tenantId := hremoved ▸ htenant.symm
      rw [hout, StoreCall.resultsOf]
      simp only [if_neg hdiffers]
      exact ih (hagree.outside call hremoved (hremoved ▸ hstored) hnumber) hnext hready'.drop hstart' hfinal
    · have hin : without removed (numberWithout removed start final) ((call, m) :: rest) =
          (call.renumber (numberWithout removed start final), m) ::
            without removed (numberWithout removed start final) rest := by
        simp [without, hremoved]
      have horder : OrderKept removed (numberWithout removed start final) db.findings := by
        apply orderKept_of_rows
        intro row hrow
        obtain ⟨row', hrow', hsame⟩ := @rows_kept core text db _ hready row hrow
        exact ⟨row', hfinal ▸ hrow', hsame⟩
      have hnumber : (call.perform core text db m).1.findingSequence ≠ db.findingSequence →
          numberWithout removed start final (db.findingSequence + 1) =
            numberWithout removed start final db.findingSequence + 1 := by
        intro hne
        rw [(hmoved hne).2, if_neg hremoved]
      obtain ⟨hresult, hafter⟩ := hagree.alike call hremoved hstored horder hready.numbered hready'.numbered
        (hready.unused (call, m) List.mem_cons_self) (hready'.unused (call, m) List.mem_cons_self) hnumber
      have hrest := ih hafter hnext (hready'.step (renumber_tenantId call)) hstart' hfinal
      rw [hin, StoreCall.resultsOf, StoreCall.resultsOf]
      simp only [renumber_tenantId]
      split
      · rw [List.map_cons, hresult, hrest]
      · exact hrest

/-- A database agrees with itself when nothing moved yet. -/
theorem Agree.refl (removed : String) (final : Database) (h : Numbered db) :
    Agree removed (numberWithout removed db.findingSequence final) db db where
  tenants := rfl
  jobs := ⟨List.map_id _, List.map_id _⟩
  findings := by
    apply (List.map_congr_left _).trans (List.map_id _)
    intro row hrow
    have hlt := h row (List.mem_filter.mp hrow).1
    have hsame := @numberWithout_start removed db.findingSequence final row.rowId (Nat.le_of_lt hlt)
    rw [FindingRow.renumber, hsame, id_eq]
  sequence := (numberWithout_start (Nat.le_refl _)).symm
  correlations := ⟨List.map_id _, List.map_id _⟩

/-- Tenants do not interfere: without the calls for a tenant `B`, a tenant `A` gets the same results, and the
row ids of its findings change in a way that keeps their order. -/
theorem noninterference (core : CoreLibrary) (text : TextLibrary) (db : Database) (run : List (StoreCall × Moment))
    (A B : String) (hAB : A ≠ B) (hready : Ready db run) :
    let final := StoreCall.performAll core text db run
    let number := numberWithout B db.findingSequence final
    (StoreCall.resultsOf core text A db run).map (StoreResult.renumber number) =
        StoreCall.resultsOf core text A db (without B number run) ∧
      ∀ row ∈ final.findings.rows, row.tenantId ≠ B → ∀ cursor,
        row.rowId < cursor ↔ number row.rowId < number cursor := by
  refine ⟨?_, fun row hrow htenant cursor => numberWithout_lt_iff (not_taken hrow htenant)⟩
  exact resultsOf_alike hAB (Agree.refl B _ hready.numbered) hready hready (Nat.le_refl _) rfl

/-- Two tenants with a job and a finding each. -/
def twoTenants : Database :=
  StoreCall.performAll FindingDict.core FindingDict.text Database.empty
    [(.jobs (.create "tenant-a" .soc .null (some "key")), ⟨0, "1"⟩),
      (.findings "tenant-a" (.addForJob (hostFinding "f1" "web-1" .low) none), ⟨1, "2"⟩),
      (.jobs (.create "tenant-b" .soc .null (some "key")), ⟨2, "3"⟩),
      (.findings "tenant-b" (.addForJob (hostFinding "f1" "web-1" .low) none), ⟨3, "4"⟩)]

/-- The second tenant names the job, the finding, the idempotency key and the cursor of the first. -/
def foreignIds : List (StoreCall × Moment) :=
  [(.findings "tenant-b" (.addForJob (hostFinding "f2" "web-2" .high) (some "job_1")), ⟨4, "5"⟩),
    (.jobs (.requestCancel ⟨"tenant-b", "job_1"⟩), ⟨5, "6"⟩),
    (.jobs (.create "tenant-b" .soc .null (some "key")), ⟨6, "7"⟩),
    (.findings "tenant-b" (.updateLifecycle "f1" (some .resolved) none "mallory"), ⟨7, "8"⟩),
    (.findings "tenant-b" (.listPage (some 2) 10 none none none), ⟨8, "9"⟩),
    (.findings "tenant-a" (.addForJob (hostFinding "f2" "web-2" .high) none), ⟨9, "10"⟩),
    (.findings "tenant-a" (.listPage none 1 none none none), ⟨10, "11"⟩),
    (.jobs (.get ⟨"tenant-a", "job_1"⟩), ⟨11, "12"⟩),
    (.findings "tenant-a" (.correlations .stored), ⟨12, "13"⟩)]

set_option maxRecDepth 8000 in
/-- All of its calls are ready to run. -/
theorem foreignIds_ready : Ready twoTenants foreignIds := by
  have hjobs : ∀ entry ∈ foreignIds, ∀ row ∈ twoTenants.jobTables.jobs.rows, row.id ≠ "job_" ++ entry.2.uuid := by
    decide +kernel
  have hcorrelations : ∀ entry ∈ foreignIds, ∀ row ∈ twoTenants.correlations.rows,
      row.id ≠ "corr_" ++ entry.2.uuid := by
    decide +kernel
  have hstored : ∀ entry ∈ foreignIds, ∃ row ∈ twoTenants.tenants.rows, row.id = entry.1.tenantId := by
    decide +kernel
  have hnumbered : ∀ row ∈ twoTenants.findings.rows, row.rowId < twoTenants.findingSequence := by
    decide +kernel
  exact ⟨hstored, by decide +kernel, fun entry hentry => ⟨hjobs entry hentry, hcorrelations entry hentry⟩, hnumbered⟩

/-- The first tenant gets the same results without these calls. -/
theorem noninterference_foreignIds :
    (StoreCall.resultsOf FindingDict.core FindingDict.text "tenant-a" twoTenants foreignIds).map
        (StoreResult.renumber (numberWithout "tenant-b" twoTenants.findingSequence
          (StoreCall.performAll FindingDict.core FindingDict.text twoTenants foreignIds))) =
      StoreCall.resultsOf FindingDict.core FindingDict.text "tenant-a" twoTenants
        (without "tenant-b" (numberWithout "tenant-b" twoTenants.findingSequence
          (StoreCall.performAll FindingDict.core FindingDict.text twoTenants foreignIds)) foreignIds) :=
  (noninterference FindingDict.core FindingDict.text twoTenants foreignIds "tenant-a" "tenant-b" (by decide)
    foreignIds_ready).1

end Isolation

end SharedIntegration

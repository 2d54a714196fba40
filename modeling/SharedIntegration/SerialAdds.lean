import SharedIntegration.ConcurrentAddMoves
import SharedIntegration.Storable

/-!
# Serial adds of findings

The commit of each transaction of `_store_finding` changes the findings as the whole call would at that
moment, row ids aside. So the calls that have returned leave what they leave one after another, in the
order of their commits.
-/

namespace SharedIntegration

open Relational Transition FindingLifecycle Isolation

/-- The same findings in the same order, whatever ids the sequence gave them. -/
def SameFindings (db db' : Database) : Prop :=
  db.findings.rows.map FindingRow.unnumbered = db'.findings.rows.map FindingRow.unnumbered

/-- A row has a counterpart with the same columns. -/
theorem SameFindings.exists_mem {db db' : Database} (h : SameFindings db db') {row : FindingRow}
    (hrow : row ∈ db.findings.rows) : ∃ row' ∈ db'.findings.rows, row'.unnumbered = row.unnumbered := by
  have hmem : row.unnumbered ∈ db.findings.rows.map FindingRow.unnumbered := List.mem_map_of_mem hrow
  rw [h] at hmem
  exact List.mem_map.mp hmem

/-- Counterparts have the same keys. -/
theorem keys_of_unnumbered {row row' : FindingRow} (h : row'.unnumbered = row.unnumbered) :
    row'.tenantId = row.tenantId ∧ row'.findingId = row.findingId ∧ row'.fingerprint = row.fingerprint := by
  have htenant : row'.unnumbered.tenantId = row.unnumbered.tenantId := by rw [h]
  have hid : row'.unnumbered.findingId = row.unnumbered.findingId := by rw [h]
  have hfingerprint : row'.unnumbered.fingerprint = row.unnumbered.fingerprint := by rw [h]
  exact ⟨htenant, hid, hfingerprint⟩

/-- Counterparts are covered alike. -/
theorem FindingRow.Covers.of_unnumbered {core : CoreLibrary} {row row' : FindingRow} {add : FindingAdd}
    (hsame : row'.unnumbered = row.unnumbered) (h : row.Covers core add) : row'.Covers core add := by
  have hcolumns : row'.unnumbered.Covers core add := by
    rw [hsame]
    exact ⟨h.severity, h.confidence, h.description, h.firstSeen, h.jobId⟩
  exact ⟨hcolumns.severity, hcolumns.confidence, hcolumns.description, hcolumns.firstSeen, hcolumns.jobId⟩

/-- What adds one after another keep: row ids come from the sequence, and tenants that could be served
still can. -/
structure Ready (db₀ db : Database) : Prop where
  numbered : Numbered db
  serves : ∀ tenantId, SqlJobs.Serves db₀.tenants tenantId → SqlJobs.Serves db.tenants tenantId

variable {core : CoreLibrary} {text : TextLibrary} {db db' db₀ : Database} {add : FindingAdd}

/-- An update of columns that are no keys keeps the row ids. -/
theorem numbered_updateFingerprint {tenantId fingerprint : String} {change : FindingRow → FindingRow}
    (hchange : KeepsKeys FindingRow.Conflict change) (hid : ∀ row, (change row).rowId = row.rowId) (h : Numbered db) :
    ∀ row ∈ (updateFingerprint db.findings tenantId fingerprint change hchange).rows,
      row.rowId < db.findingSequence := by
  intro row hrow
  obtain ⟨old, hold, rfl⟩ := List.mem_map.mp hrow
  split
  · exact (hid old).symm ▸ h old hold
  · exact h old hold

/-- An add keeps row ids and tenants in order. -/
theorem Ready.store (h : Ready db₀ db)
    (hstore : storeFinding core text db add.moment add.tenantId add.finding add.jobId = some db') :
    Ready db₀ db' := by
  rcases storeFinding_eq_some hstore with hlocked | ⟨-, hlost⟩
  · obtain ⟨tenants, hensure, hstored⟩ := storeLocked_cases hlocked
    have hserves : ∀ tenantId, SqlJobs.Serves db₀.tenants tenantId → SqlJobs.Serves tenants tenantId :=
      fun tenantId hserved => (h.serves tenantId hserved).ensureTenant hensure
    rcases hstored with ⟨-, findings, hinsert, rfl⟩ | ⟨row, -, rfl⟩
    · refine ⟨fun row hrow => ?_, hserves⟩
      change row ∈ findings.rows at hrow
      rw [(Table.insert_eq_some hinsert).1] at hrow
      rcases List.mem_append.mp hrow with hold | hnew
      · exact Nat.lt_succ_of_lt (h.numbered row hold)
      · rw [List.mem_singleton.mp hnew]
        exact Nat.lt_succ_self _
    · exact ⟨numbered_updateFingerprint (FindingRow.merge_keeps core add.finding add.jobId add.moment.now)
        (fun _ => rfl) h.numbered, hserves⟩
  · obtain ⟨row, -, rfl⟩ := storeLost_cases hlost
    exact ⟨numbered_updateFingerprint (FindingRow.mergeLost_keeps core add.finding add.moment.now)
      (fun _ => rfl) h.numbered, h.serves⟩

/-- Adds one after another keep row ids and tenants in order. -/
theorem Ready.addAll (h : Ready db₀ db) (adds : List FindingAdd) :
    Ready db₀ (FindingLifecycle.addAll core text db adds) := by
  induction adds generalizing db with
  | nil => exact h
  | cons add rest ih =>
    unfold FindingLifecycle.addAll addForJob
    cases hstore : storeFinding core text db add.moment add.tenantId add.finding add.jobId with
    | none => exact ih h
    | some db' => exact ih (h.store hstore)

/-- An add of a new fingerprint appends its row. -/
theorem addForJob_first (hserves : SqlJobs.Serves db.tenants add.tenantId)
    (hfree : ∀ old ∈ db.findings.rows, ¬ FindingRow.Conflict old
      (.created core text db.findingSequence add.tenantId add.finding add.jobId add.moment.now)) :
    (addForJob core text db add.moment add.tenantId add.finding add.jobId).1.findings.rows = db.findings.rows ++
      [.created core text db.findingSequence add.tenantId add.finding add.jobId add.moment.now] := by
  obtain ⟨tenants, hensure, -⟩ := SqlJobs.ensureTenant_serves hserves add.moment.now
  have hnone : findFingerprint db.findings add.tenantId (findingFingerprint core text add.finding) = none := by
    rw [findFingerprint, Table.find_eq_none_iff]
    intro old hold
    rw [decide_eq_false_iff_not]
    rintro ⟨htenant, hfingerprint⟩
    exact hfree old hold (.inr ⟨htenant, .inr hfingerprint⟩)
  have hlocked : storeLocked core text db add.moment add.tenantId add.finding add.jobId =
      some { db with tenants, findings := db.findings.push _ hfree, findingSequence := db.findingSequence + 1 } := by
    unfold storeLocked
    simp only [hensure, hnone, Table.insert_of_free hfree, Option.bind_eq_bind, Option.bind_some]
  unfold addForJob storeFinding
  rw [hlocked, Option.some_or]
  rfl

/-- An add of a known fingerprint merges into its row, by the second transaction as by the first one if the
row loses nothing. -/
theorem addForJob_further {row : FindingRow} (hrow : row ∈ db.findings.rows) (htenant : row.tenantId = add.tenantId)
    (hfingerprint : row.fingerprint = findingFingerprint core text add.finding)
    (hmerged : SqlJobs.Serves db.tenants add.tenantId ∨ row.Covers core add) :
    (addForJob core text db add.moment add.tenantId add.finding add.jobId).1.findings.rows =
      db.findings.rows.map fun old =>
        if old.tenantId = add.tenantId ∧ old.fingerprint = findingFingerprint core text add.finding then
          old.merge core add.finding add.jobId add.moment.now
        else old := by
  obtain ⟨found, hfound⟩ := exists_findFingerprint_iff.mpr ⟨row, hrow, htenant, hfingerprint⟩
  unfold addForJob storeFinding
  cases hensure : SqlJobs.ensureTenant db.tenants add.tenantId add.moment.now with
  | some tenants =>
    have hlocked : storeLocked core text db add.moment add.tenantId add.finding add.jobId = some { db with
        tenants, findings := updateFingerprint db.findings add.tenantId (findingFingerprint core text add.finding)
          (.merge core add.finding add.jobId add.moment.now)
          (FindingRow.merge_keeps core add.finding add.jobId add.moment.now) } := by
      unfold storeLocked
      simp only [hensure, hfound, Option.bind_eq_bind, Option.bind_some]
    rw [hlocked, Option.some_or]
    simp only [updateFingerprint, Table.rows_update, decide_eq_true_eq]
  | none =>
    have hcovers : row.Covers core add := hmerged.resolve_left fun hserves => by
      obtain ⟨tenants, hsome, -⟩ := SqlJobs.ensureTenant_serves hserves add.moment.now
      cases hensure.symm.trans hsome
    have hlocked : storeLocked core text db add.moment add.tenantId add.finding add.jobId = none := by
      unfold storeLocked
      rw [hensure]
      rfl
    have hlost : storeLost core text db add.moment add.tenantId add.finding = some { db with
        findings := updateFingerprint db.findings add.tenantId (findingFingerprint core text add.finding)
          (.mergeLost core add.finding add.moment.now)
          (FindingRow.mergeLost_keeps core add.finding add.moment.now) } := by
      unfold storeLost
      simp only [hfound]
    rw [hlocked, Option.none_or, hlost]
    simp only [updateFingerprint, Table.rows_update, decide_eq_true_eq]
    refine List.map_congr_left fun old hold => ?_
    split
    · next hkeys =>
      -- the only row of the fingerprint is the covered one
      obtain rfl : old = row :=
        row_unique db.findings hold hrow (hkeys.1.trans htenant.symm) (hkeys.2.trans hfingerprint.symm)
      exact FindingRow.mergeLost_eq_merge_iff.mpr hcovers
    · rfl

/-- Merging reads and writes no row id. -/
theorem sameFindings_merge {rows rows' : List FindingRow} (h : rows.map FindingRow.unnumbered =
    rows'.map FindingRow.unnumbered) (core : CoreLibrary) (add : FindingAdd) (fingerprint : String) :
    (rows.map fun old => if old.tenantId = add.tenantId ∧ old.fingerprint = fingerprint then
        old.merge core add.finding add.jobId add.moment.now else old).map FindingRow.unnumbered =
      (rows'.map fun old => if old.tenantId = add.tenantId ∧ old.fingerprint = fingerprint then
        old.merge core add.finding add.jobId add.moment.now else old).map FindingRow.unnumbered := by
  have hmerge : (FindingRow.unnumbered ∘ fun old : FindingRow =>
      if old.tenantId = add.tenantId ∧ old.fingerprint = fingerprint then
        old.merge core add.finding add.jobId add.moment.now else old) =
      (fun old : FindingRow => if old.tenantId = add.tenantId ∧ old.fingerprint = fingerprint then
        old.merge core add.finding add.jobId add.moment.now else old) ∘ FindingRow.unnumbered := by
    funext old
    exact apply_ite FindingRow.unnumbered _ _ _
  rw [List.map_map, List.map_map, hmerge, ← List.map_map, ← List.map_map, h]

namespace ConcurrentAdds

variable {serial : Database} {call : Call} {tenant : Option TenantRow}

/-- A commit of a new row leaves what the whole call leaves. -/
theorem sameFindings_insert {row : FindingRow} (hpc : call.pc = .committing tenant (.insert row))
    (hsound : call.Sound core text db₀ db) (hready : Ready db₀ serial) (hsame : SameFindings serial db)
    (hcommit : Call.commit db tenant (.insert row) = some db') :
    SameFindings (addForJob core text serial call.add.moment call.add.tenantId call.add.finding call.add.jobId).1
      db' := by
  obtain ⟨-, hwrite, -⟩ := commit_eq_some hcommit
  obtain ⟨⟨rowId, rfl⟩, hfree⟩ := hsound.finding row (by rw [hpc]; rfl)
  have hplaced := hsound.placed
  simp only [Call.Placed, hpc] at hplaced
  have hserialFree : ∀ old ∈ serial.findings.rows, ¬ FindingRow.Conflict old (.created core text
      serial.findingSequence call.add.tenantId call.add.finding call.add.jobId call.add.moment.now) := by
    intro old hold hconflict
    obtain ⟨old', hold', hcolumns⟩ := hsame.exists_mem hold
    obtain ⟨htenant, hid, hfingerprint⟩ := keys_of_unnumbered hcolumns
    rcases hconflict with hrowId | hkeys
    · exact absurd hrowId (Nat.ne_of_lt (hready.numbered old hold))
    · refine hfree old' hold' (.inr ?_)
      rw [htenant, hid, hfingerprint]
      exact hkeys
  unfold SameFindings
  rw [addForJob_first (hready.serves _ hplaced) hserialFree, (Table.insert_eq_some hwrite).1, List.map_append,
    List.map_append, hsame]
  rfl

/-- In the findings, the row with the id of a row of a fingerprint is the row with that fingerprint. -/
theorem overwrite_eq_merged {row old : FindingRow} (hrow : row ∈ db.findings.rows) (hold : old ∈ db.findings.rows)
    (hconcerns : call.Concerns core text row) :
    (if old.rowId = (call.merged core row).rowId then (call.merged core row).overwrite old else old) =
      if old.tenantId = call.add.tenantId ∧ old.fingerprint = findingFingerprint core text call.add.finding then
        call.merged core old
      else old := by
  by_cases hkeys : old.tenantId = call.add.tenantId ∧ old.fingerprint = findingFingerprint core text call.add.finding
  · obtain rfl : old = row := row_unique db.findings hold hrow (hkeys.1.trans hconcerns.1.symm)
      (hkeys.2.trans hconcerns.2.symm)
    rw [if_pos hkeys]
    exact if_pos rfl
  · rw [if_neg hkeys]
    refine if_neg fun hid => hkeys ?_
    obtain rfl : old = row := db.findings.eq_of_key (fun found => found.rowId = row.rowId)
      (fun a b ha hb => .inl ((of_decide_eq_true ha).trans (of_decide_eq_true hb).symm)) hold hrow
      (decide_eq_true hid) (decide_eq_true rfl)
    exact hconcerns

/-- A commit of a new version leaves what the whole call leaves. -/
theorem sameFindings_update {version : FindingRow} (hpc : call.pc = .committing tenant (.update version))
    (hsound : call.Sound core text db₀ db) (hready : Ready db₀ serial) (hsame : SameFindings serial db)
    (hcommit : Call.commit db tenant (.update version) = some db') :
    SameFindings (addForJob core text serial call.add.moment call.add.tenantId call.add.finding call.add.jobId).1
      db' := by
  obtain ⟨-, hwrite, -⟩ := commit_eq_some hcommit
  have hplaced := hsound.placed
  simp only [Call.Placed, hpc] at hplaced
  obtain ⟨row, hallowed, rfl, hrow, hconcerns⟩ := hplaced
  obtain ⟨row', hrow', hcolumns⟩ := SameFindings.exists_mem (Eq.symm hsame) hrow
  have hallowed' : SqlJobs.Serves serial.tenants call.add.tenantId ∨ row'.Covers core call.add :=
    hallowed.imp (hready.serves _) fun hcovers => hcovers.of_unnumbered hcolumns
  obtain ⟨htenant, -, hfingerprint⟩ := keys_of_unnumbered hcolumns
  unfold SameFindings
  rw [addForJob_further hrow' (htenant.trans hconcerns.1) (hfingerprint.trans hconcerns.2) hallowed',
    updated_rows hwrite, List.map_congr_left fun old hold => overwrite_eq_merged hrow hold hconcerns]
  exact sameFindings_merge hsame core call.add _

end ConcurrentAdds

end SharedIntegration

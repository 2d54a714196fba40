import SharedIntegration.ConcurrentAdds
import SharedIntegration.CreationSafety

/-!
# What the steps of concurrent adds do

Each statement of a call is one move. A call that has locked a row finds it unchanged when it writes it
back, and a row that a call has inserted stays free of conflicts until it is committed. A call raises only
if its second transaction finds no row.
-/

namespace SharedIntegration

open Relational Transition FindingLifecycle

namespace ConcurrentAdds

variable {core : CoreLibrary} {text : TextLibrary} {db db' : Database} {tenants : List TenantRow}
  {findings : List FindingRow} {locks : List ℕ} {call other : Call} {pc' : Pc}

/-- The row is of the tenant and the fingerprint of the call. -/
def Call.Concerns (core : CoreLibrary) (text : TextLibrary) (call : Call) (row : FindingRow) : Prop :=
  row.tenantId = call.add.tenantId ∧ row.fingerprint = findingFingerprint core text call.add.finding

/-- The row that a call finds is the only one of its fingerprint. -/
theorem existing_eq_some {row : FindingRow} (h : call.existing core text db = some row) :
    row ∈ db.findings.rows ∧ call.Concerns core text row :=
  fingerprint_of_find h

/-- What the next statement of a call does. -/
inductive Call.Move (core : CoreLibrary) (text : TextLibrary) (db : Database) (tenants : List TenantRow)
    (findings : List FindingRow) (locks : List ℕ) (call : Call) : Database → Pc → Prop
  | tenantFound (hpc : call.pc = .readingTenant) (row : TenantRow) (hrow : row ∈ db.tenants.rows)
    (hid : row.id = call.add.tenantId) : Move core text db tenants findings locks call db (.selecting none)
  | tenantMissed (hpc : call.pc = .readingTenant) :
    Move core text db tenants findings locks call db .insertingTenant
  | tenantRefused (hpc : call.pc = .insertingTenant) : Move core text db tenants findings locks call db .recovering
  | tenantInserted (hpc : call.pc = .insertingTenant)
    (hwaits : ∀ row ∈ tenants, ¬ TenantRow.Conflict row call.tenantRow)
    (hfree : ∀ row ∈ db.tenants.rows, ¬ TenantRow.Conflict row call.tenantRow) :
    Move core text db tenants findings locks call db (.selecting (some call.tenantRow))
  | missed (tenant : Option TenantRow) (hpc : call.pc = .selecting tenant)
    (hnone : call.existing core text db = none) :
    Move core text db tenants findings locks call db (.inserting tenant)
  | locked (tenant : Option TenantRow) (row : FindingRow) (hpc : call.pc = .selecting tenant)
    (hrow : call.existing core text db = some row) (hlock : row.rowId ∉ locks) :
    Move core text db tenants findings locks call db (.updating tenant row)
  | refused (tenant : Option TenantRow) (hpc : call.pc = .inserting tenant) :
    Move core text db tenants findings locks call { db with findingSequence := db.findingSequence + 1 } .recovering
  | inserted (tenant : Option TenantRow) (hpc : call.pc = .inserting tenant)
    (hwaits : ∀ row ∈ findings, ¬ FindingRow.Conflict row (call.newRow core text db))
    (hfree : ∀ row ∈ db.findings.rows, ¬ FindingRow.Conflict row (call.newRow core text db)) :
    Move core text db tenants findings locks call { db with findingSequence := db.findingSequence + 1 }
      (.committing tenant (.insert (call.newRow core text db)))
  | updated (tenant : Option TenantRow) (row : FindingRow) (hpc : call.pc = .updating tenant row) :
    Move core text db tenants findings locks call db
      (.committing tenant (.update (row.merge core call.add.finding call.add.jobId call.add.moment.now)))
  | committed (db' : Database) (tenant : Option TenantRow) (write : Write) (hpc : call.pc = .committing tenant write)
    (hcommit : Call.commit db tenant write = some db') :
    Move core text db tenants findings locks call db' (.returned (write.row.finding core))
  | recovered (row : FindingRow) (hpc : call.pc = .recovering) (hrow : call.existing core text db = some row)
    (hlock : row.rowId ∉ locks) : Move core text db tenants findings locks call db (.rewriting row)
  | lost (hpc : call.pc = .recovering) (hnone : call.existing core text db = none) :
    Move core text db tenants findings locks call db .raised
  | rewritten (row : FindingRow) (hpc : call.pc = .rewriting row) :
    Move core text db tenants findings locks call db
      (.committing none (.update (row.mergeLost core call.add.finding call.add.moment.now)))

/-- Every statement of a call is one of these moves. -/
theorem advance_move (h : call.advance core text db tenants findings locks = some (db', pc')) :
    call.Move core text db tenants findings locks db' pc' := by
  unfold Call.advance at h
  split at h
  · next hpc =>
    split at h
    · next row hrow =>
      cases h
      obtain ⟨hmem, hid⟩ := Table.find_eq_some hrow
      exact .tenantFound hpc row hmem (of_decide_eq_true hid)
    · cases h
      exact .tenantMissed hpc
  · next hpc =>
    split at h
    · cases h
    · cases h
      exact .tenantRefused hpc
    · next haccepted =>
      cases h
      obtain ⟨hwaits, hfree⟩ := (Table.tryInsert_eq_accepted _ _ _).mp haccepted
      exact .tenantInserted hpc hwaits hfree
  · next tenant hpc =>
    split at h
    · next hnone =>
      cases h
      exact .missed tenant hpc hnone
    · next row hrow =>
      split at h
      · cases h
      · next hlock =>
        cases h
        exact .locked tenant row hpc hrow hlock
  · next tenant hpc =>
    dsimp only at h
    split at h
    · cases h
    · cases h
      exact .refused tenant hpc
    · next haccepted =>
      cases h
      obtain ⟨hwaits, hfree⟩ := (Table.tryInsert_eq_accepted _ _ _).mp haccepted
      exact .inserted tenant hpc hwaits hfree
  · next tenant row hpc =>
    cases h
    exact .updated tenant row hpc
  · next tenant write hpc =>
    obtain ⟨db₁, hcommit, heq⟩ := Option.map_eq_some_iff.mp h
    cases heq
    exact .committed _ tenant write hpc hcommit
  · next hpc =>
    split at h
    · next hnone =>
      cases h
      exact .lost hpc hnone
    · next row hrow =>
      split at h
      · cases h
      · next hlock =>
        cases h
        exact .recovered row hpc hrow hlock
  · next row hpc =>
    cases h
    exact .rewritten row hpc
  · cases h
  · cases h

/-- A commit adds the inserted tenant and applies the write to the findings. -/
theorem commit_eq_some {tenant : Option TenantRow} {write : Write} (h : Call.commit db tenant write = some db') :
    db'.tenants.rows = db.tenants.rows ++ tenant.toList ∧ write.apply db.findings = some db'.findings ∧
      db'.findingSequence = db.findingSequence := by
  simp only [Call.commit, Option.bind_eq_bind, Option.bind_eq_some_iff, Option.some.injEq] at h
  obtain ⟨tenants, htenants, findings, hfindings, rfl⟩ := h
  refine ⟨?_, hfindings, rfl⟩
  change tenants.rows = _
  cases tenant with
  | none =>
    cases htenants
    exact (List.append_nil _).symm
  | some row => exact (Table.insert_eq_some htenants).1

/-- A new version replaces the row with its id. -/
theorem updated_rows {old new : Table FindingRow FindingRow.Conflict} {version : FindingRow}
    (h : (Write.update version).apply old = some new) :
    new.rows = old.rows.map fun row => if row.rowId = version.rowId then version.overwrite row else row := by
  cases h
  simp only [Table.rows_update, decide_eq_true_eq]

/-- A commit succeeds if the inserted rows are still free. -/
theorem commit_isSome {tenant : Option TenantRow} {write : Write}
    (htenant : ∀ row ∈ tenant, ∀ old ∈ db.tenants.rows, ¬ TenantRow.Conflict old row)
    (hfinding : ∀ row, write = .insert row → ∀ old ∈ db.findings.rows, ¬ FindingRow.Conflict old row) :
    (Call.commit db tenant write).isSome := by
  obtain ⟨findings, hfindings⟩ : ∃ findings, write.apply db.findings = some findings := by
    cases write with
    | insert row => exact ⟨_, Table.insert_of_free (hfinding row rfl)⟩
    | update version => exact ⟨_, rfl⟩
  cases tenant with
  | none => simp [Call.commit, Creation.Call.committedTenants, hfindings]
  | some row =>
    simp [Call.commit, Creation.Call.committedTenants, hfindings, Table.insert_of_free (htenant row rfl)]

/-! ### What holds of each call -/

/-- The second transaction of a call finds a row that loses nothing by it. -/
def Call.Covered (core : CoreLibrary) (text : TextLibrary) (db : Database) (call : Call) : Prop :=
  match call.pc with
  | .recovering => ∃ row ∈ call.existing core text db, row.Covers core call.add
  | _ => True

/-- The condition can be checked. -/
instance (core : CoreLibrary) (text : TextLibrary) (db : Database) (call : Call) :
    Decidable (call.Covered core text db) := by
  unfold Call.Covered
  split <;> infer_instance

/-- The version of a row that the first transaction writes. -/
def Call.merged (core : CoreLibrary) (call : Call) (row : FindingRow) : FindingRow :=
  row.merge core call.add.finding call.add.jobId call.add.moment.now

/-- What a call knows at its position. Past the tenant row the first transaction has a tenant that the
initial tenants allow; a locked row is the committed one; no call has raised. -/
def Call.Placed (core : CoreLibrary) (text : TextLibrary) (db₀ db : Database) (call : Call) : Prop :=
  match call.pc with
  | .selecting _ | .inserting _ | .committing _ (.insert _) => SqlJobs.Serves db₀.tenants call.add.tenantId
  | .updating _ row =>
    SqlJobs.Serves db₀.tenants call.add.tenantId ∧ row ∈ db.findings.rows ∧ call.Concerns core text row
  | .rewriting row => row.Covers core call.add ∧ row ∈ db.findings.rows ∧ call.Concerns core text row
  | .committing _ (.update version) =>
    ∃ row, (SqlJobs.Serves db₀.tenants call.add.tenantId ∨ row.Covers core call.add) ∧ version = call.merged core row ∧
      row ∈ db.findings.rows ∧ call.Concerns core text row
  | .raised => False
  | .readingTenant | .insertingTenant | .recovering | .returned _ => True

/-- What holds of a call beside the committed rows. -/
structure Call.Sound (core : CoreLibrary) (text : TextLibrary) (db₀ db : Database) (call : Call) : Prop where
  tenant : ∀ row ∈ call.pc.uncommittedTenant, row = call.tenantRow ∧
    ∀ old ∈ db.tenants.rows, ¬ TenantRow.Conflict old row
  finding : ∀ row ∈ call.pc.uncommittedFinding,
    (∃ rowId, row = .created core text rowId call.add.tenantId call.add.finding call.add.jobId call.add.moment.now) ∧
      ∀ old ∈ db.findings.rows, ¬ FindingRow.Conflict old row
  placed : call.Placed core text db₀ db

/-- The uncommitted rows of two calls do not conflict, and they have locked different rows. -/
structure Call.Compatible (a b : Call) : Prop where
  tenants : ∀ row ∈ a.pc.uncommittedTenant, ∀ row' ∈ b.pc.uncommittedTenant, ¬ TenantRow.Conflict row' row
  findings : ∀ row ∈ a.pc.uncommittedFinding, ∀ row' ∈ b.pc.uncommittedFinding, ¬ FindingRow.Conflict row' row
  locks : ∀ rowId ∈ a.pc.lock, rowId ∉ b.pc.lock

/-- Conflicts of findings are symmetric. -/
theorem findingConflict_symm {a b : FindingRow} (h : FindingRow.Conflict a b) : FindingRow.Conflict b a := by
  rcases h with hid | ⟨htenant, hkey⟩
  · exact .inl hid.symm
  · exact .inr ⟨htenant.symm, hkey.imp Eq.symm Eq.symm⟩

/-- Compatibility is symmetric. -/
theorem Call.Compatible.symm (a b : Call) (h : a.Compatible b) : b.Compatible a where
  tenants row hrow row' hrow' hconflict :=
    h.tenants row' hrow' row hrow (Creation.tenantConflict_symm hconflict)
  findings row hrow row' hrow' hconflict := h.findings row' hrow' row hrow (findingConflict_symm hconflict)
  locks rowId hrowId hrowId' := h.locks rowId hrowId' hrowId

/-- The row that a call knows is the one that it has locked. -/
theorem Call.Placed.of_kept {db₀ : Database} (h : call.Placed core text db₀ db)
    (hkept : ∀ row ∈ db.findings.rows, call.pc.lock = some row.rowId → row ∈ db'.findings.rows) :
    call.Placed core text db₀ db' := by
  cases hpc : call.pc with
  | updating tenant row =>
    simp only [Placed, Pc.lock, hpc] at h hkept ⊢
    exact ⟨h.1, hkept row h.2.1 rfl, h.2.2⟩
  | rewriting row =>
    simp only [Placed, Pc.lock, hpc] at h hkept ⊢
    exact ⟨h.1, hkept row h.2.1 rfl, h.2.2⟩
  | committing tenant write =>
    cases write with
    | insert row => simpa only [Placed, hpc] using h
    | update version =>
      simp only [Placed, Pc.lock, hpc] at h hkept ⊢
      obtain ⟨row, hwritten, rfl, hmem, hconcerns⟩ := h
      exact ⟨row, hwritten, rfl, hkept row hmem rfl, hconcerns⟩
  | selecting tenant => simpa only [Placed, hpc] using h
  | inserting tenant => simpa only [Placed, hpc] using h
  | raised => simp only [Placed, hpc] at h
  | _ => simp only [Placed, hpc]

/-- A call stays sound while the rows that are committed do not meet its own. -/
theorem Call.Sound.mono {db₀ : Database} (h : call.Sound core text db₀ db)
    (htenants : ∀ old ∈ db'.tenants.rows, old ∈ db.tenants.rows ∨
      ∀ row ∈ call.pc.uncommittedTenant, ¬ TenantRow.Conflict old row)
    (hfindings : ∀ old ∈ db'.findings.rows,
      (∃ prior ∈ db.findings.rows, ∀ row, FindingRow.Conflict old row → FindingRow.Conflict prior row) ∨
      ∀ row ∈ call.pc.uncommittedFinding, ¬ FindingRow.Conflict old row)
    (hkept : ∀ row ∈ db.findings.rows, call.pc.lock = some row.rowId → row ∈ db'.findings.rows) :
    call.Sound core text db₀ db' where
  tenant row hrow := by
    obtain ⟨hown, hfree⟩ := h.tenant row hrow
    refine ⟨hown, fun old hold => ?_⟩
    rcases htenants old hold with hbefore | hnew
    · exact hfree old hbefore
    · exact hnew row hrow
  finding row hrow := by
    obtain ⟨hown, hfree⟩ := h.finding row hrow
    refine ⟨hown, fun old hold => ?_⟩
    rcases hfindings old hold with ⟨prior, hprior, hkeys⟩ | hnew
    · exact fun hconflict => hfree prior hprior (hkeys row hconflict)
    · exact hnew row hrow
  placed := h.placed.of_kept hkept

/-- Only a commit changes the committed rows. -/
theorem Call.Move.effect (h : call.Move core text db tenants findings locks db' pc') :
    (db'.tenants = db.tenants ∧ db'.findings = db.findings ∧ (call.goto pc').completed = none) ∨
    ∃ tenant write, call.pc = .committing tenant write ∧ Call.commit db tenant write = some db' ∧
      pc' = .returned (write.row.finding core) := by
  cases h with
  | committed _ tenant write hpc hcommit => exact .inr ⟨tenant, write, hpc, hcommit, rfl⟩
  | _ => exact .inl ⟨rfl, rfl, rfl⟩

/-- The statement of one call leaves every other call sound. -/
theorem Call.Move.others {db₀ : Database} (h : call.Move core text db tenants findings locks db' pc')
    (hcompatible : call.Compatible other) (hother : other.Sound core text db₀ db) :
    other.Sound core text db₀ db' := by
  obtain ⟨htenants, hfindings, -⟩ | ⟨tenant, write, hpc, hcommit, -⟩ := h.effect
  · apply hother.mono
    · exact fun old hold => .inl (htenants ▸ hold)
    · exact fun old hold => .inl ⟨old, hfindings ▸ hold, fun _ hconflict => hconflict⟩
    · exact fun row hrow _ => hfindings ▸ hrow
  · obtain ⟨htenants, hwrite, -⟩ := commit_eq_some hcommit
    have hnewTenant : ∀ old ∈ db'.tenants.rows, old ∈ db.tenants.rows ∨
        ∀ row ∈ other.pc.uncommittedTenant, ¬ TenantRow.Conflict old row := by
      intro old hold
      rw [htenants] at hold
      rcases List.mem_append.mp hold with hbefore | hnew
      · exact .inl hbefore
      · refine .inr fun row hrow hconflict => ?_
        have hown : old ∈ call.pc.uncommittedTenant := by
          rw [hpc]
          exact Option.mem_toList.mp hnew
        exact hcompatible.tenants old hown row hrow (Creation.tenantConflict_symm hconflict)
    cases write with
    | insert new =>
      have hrows := (Table.insert_eq_some hwrite).1
      refine hother.mono hnewTenant (fun old hold => ?_) fun row hrow _ => ?_
      · rw [hrows] at hold
        rcases List.mem_append.mp hold with hbefore | hnew
        · exact .inl ⟨old, hbefore, fun _ hconflict => hconflict⟩
        · refine .inr fun row hrow hconflict => ?_
          have hown : old ∈ call.pc.uncommittedFinding := by
            rw [List.mem_singleton.mp hnew, hpc]
            rfl
          exact hcompatible.findings old hown row hrow (findingConflict_symm hconflict)
      · rw [hrows]
        exact List.mem_append_left _ hrow
    | update version =>
      have hrows := updated_rows hwrite
      have hlock : call.pc.lock = some version.rowId := by rw [hpc, Pc.lock]
      refine hother.mono hnewTenant (fun old hold => ?_) fun row hrow hlocked => ?_
      · rw [hrows] at hold
        obtain ⟨prior, hprior, rfl⟩ := List.mem_map.mp hold
        refine .inl ⟨prior, hprior, fun row hconflict => ?_⟩
        split at hconflict
        · exact version.overwrite_keeps.left _ _ hconflict
        · exact hconflict
      · have hother : row.rowId ≠ version.rowId := fun hid =>
          hcompatible.locks version.rowId hlock (hlocked.trans (congrArg some hid))
        rw [hrows]
        exact List.mem_map.mpr ⟨row, hrow, if_neg hother⟩

/-- A call keeps the tenant row that it has inserted until the commit. -/
theorem Call.Sound.goto {db₀ : Database} (h : call.Sound core text db₀ db) (htenants : db'.tenants = db.tenants)
    (htenant : ∀ row ∈ pc'.uncommittedTenant, row ∈ call.pc.uncommittedTenant)
    (hfinding : pc'.uncommittedFinding = none) (hplaced : (call.goto pc').Placed core text db₀ db') :
    (call.goto pc').Sound core text db₀ db' where
  tenant row hrow := htenants ▸ h.tenant row (htenant row hrow)
  finding row hrow := by
    rw [goto_pc, hfinding] at hrow
    cases hrow
  placed := hplaced

/-- A call is sound after each of its statements, unless it raises. -/
theorem Call.Move.sound {db₀ : Database} (h : call.Move core text db tenants findings locks db' pc')
    (hserved : ∀ tenantId, SqlJobs.Serves db.tenants tenantId → SqlJobs.Serves db₀.tenants tenantId)
    (hcovered : call.Covered core text db) (hsound : call.Sound core text db₀ db) :
    (call.goto pc').Sound core text db₀ db' := by
  have hplaced := hsound.placed
  cases h with
  | tenantFound hpc row hrow hid => exact hsound.goto rfl (by simp [Pc.uncommittedTenant]) rfl (hserved _ (.inl ⟨row, hrow, hid⟩))
  | tenantMissed hpc => exact hsound.goto rfl (by simp [Pc.uncommittedTenant]) rfl trivial
  | tenantRefused hpc => exact hsound.goto rfl (by simp [Pc.uncommittedTenant]) rfl trivial
  | tenantInserted hpc hwaits hfree =>
    refine ⟨fun row hrow => ?_, by simp [Pc.uncommittedFinding], ?_⟩
    · obtain rfl : call.tenantRow = row := Option.some.inj hrow
      exact ⟨rfl, hfree⟩
    · exact hserved _ (.inr fun row hrow hslug => hfree row hrow (.inr hslug))
  | missed tenant hpc hnone =>
    simp only [Placed, hpc] at hplaced
    exact hsound.goto rfl (fun row hrow => by rwa [hpc]) rfl hplaced
  | locked tenant row hpc hrow hlock =>
    simp only [Placed, hpc] at hplaced
    exact hsound.goto rfl (fun row hrow => by rwa [hpc]) rfl ⟨hplaced, existing_eq_some hrow⟩
  | refused tenant hpc => exact hsound.goto rfl (by simp [Pc.uncommittedTenant]) rfl trivial
  | inserted tenant hpc hwaits hfree =>
    simp only [Placed, hpc] at hplaced
    refine ⟨fun row hrow => hsound.tenant row (by rwa [hpc]), fun row hrow => ?_, hplaced⟩
    obtain rfl : call.newRow core text db = row := Option.some.inj hrow
    exact ⟨⟨db.findingSequence, rfl⟩, hfree⟩
  | updated tenant row hpc =>
    simp only [Placed, hpc] at hplaced
    obtain ⟨hserves, hlocked⟩ := hplaced
    exact hsound.goto rfl (fun row hrow => by rwa [hpc]) rfl ⟨row, .inl hserves, rfl, hlocked⟩
  | committed _ tenant write hpc hcommit => exact ⟨by simp [Pc.uncommittedTenant], by simp [Pc.uncommittedFinding], trivial⟩
  | recovered row hpc hrow hlock =>
    simp only [Covered, hpc] at hcovered
    obtain ⟨found, hfound, hcovers⟩ := hcovered
    cases Option.some.inj (hrow.symm.trans hfound)
    exact hsound.goto rfl (by simp [Pc.uncommittedTenant]) rfl ⟨hcovers, existing_eq_some hrow⟩
  | lost hpc hnone =>
    simp only [Covered, hpc] at hcovered
    obtain ⟨found, hfound, -⟩ := hcovered
    cases hnone.symm.trans hfound
  | rewritten row hpc =>
    simp only [Placed, hpc] at hplaced
    obtain ⟨hcovers, hlocked⟩ := hplaced
    exact hsound.goto rfl (by simp [Pc.uncommittedTenant]) rfl ⟨row, .inr hcovers, FindingRow.mergeLost_eq_merge_iff.mpr hcovers, hlocked⟩

/-- A call is compatible with others after it has moved beside their uncommitted rows and locks. -/
theorem Call.Move.compatible (h : call.Move core text db tenants findings locks db' pc')
    (hcompatible : call.Compatible other) (htenants : ∀ row ∈ other.pc.uncommittedTenant, row ∈ tenants)
    (hfindings : ∀ row ∈ other.pc.uncommittedFinding, row ∈ findings) (hlocks : ∀ rowId ∈ other.pc.lock, rowId ∈ locks) :
    (call.goto pc').Compatible other := by
  have hkept : ∀ tenant, call.pc.uncommittedTenant = tenant → ∀ row ∈ tenant, ∀ row' ∈ other.pc.uncommittedTenant,
      ¬ TenantRow.Conflict row' row := fun tenant htenant row hrow => hcompatible.tenants row (htenant ▸ hrow)
  have hlocked : ∀ row : FindingRow, row.rowId ∉ locks → ∀ rowId ∈ some row.rowId, rowId ∉ other.pc.lock := by
    intro row hlock rowId hrowId hother
    cases hrowId
    exact hlock (hlocks _ hother)
  cases h with
  | tenantInserted hpc hwaits hfree =>
    refine ⟨fun row hrow row' hrow' => ?_, by simp [Pc.uncommittedFinding], by simp [Pc.lock]⟩
    obtain rfl : call.tenantRow = row := Option.some.inj hrow
    exact hwaits row' (htenants row' hrow')
  | missed tenant hpc hnone =>
    exact ⟨hkept tenant (by rw [hpc, Pc.uncommittedTenant]), by simp [Pc.uncommittedFinding], by simp [Pc.lock]⟩
  | locked tenant row hpc hrow hlock =>
    exact ⟨hkept tenant (by rw [hpc, Pc.uncommittedTenant]), by simp [Pc.uncommittedFinding], hlocked row hlock⟩
  | inserted tenant hpc hwaits hfree =>
    refine ⟨hkept tenant (by rw [hpc, Pc.uncommittedTenant]), fun row hrow row' hrow' => ?_, by simp [Pc.lock]⟩
    obtain rfl : call.newRow core text db = row := Option.some.inj hrow
    exact hwaits row' (hfindings row' hrow')
  | updated tenant row hpc =>
    exact ⟨hkept tenant (by rw [hpc, Pc.uncommittedTenant]), by simp [Pc.uncommittedFinding], fun rowId hrowId =>
      hcompatible.locks rowId (by rwa [hpc])⟩
  | recovered row hpc hrow hlock => 
    exact ⟨by simp [Pc.uncommittedTenant], by simp [Pc.uncommittedFinding], hlocked row hlock⟩
  | rewritten row hpc =>
    exact ⟨by simp [Pc.uncommittedTenant], by simp [Pc.uncommittedFinding], fun rowId hrowId => hcompatible.locks rowId (by rwa [hpc])⟩
  | _ => exact ⟨by simp [Pc.uncommittedTenant], by simp [Pc.uncommittedFinding], by simp [Pc.lock]⟩

end ConcurrentAdds

end SharedIntegration

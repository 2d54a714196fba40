import SharedIntegration.ExchangeSafety
import SharedIntegration.LiveCalls
import SharedIntegration.Pagination

/-!
# Which findings can be stored

`add_for_job` inserts the default row of an unknown tenant, and a row for a finding whose fingerprint is new.
Both inserts can violate a unique constraint that the lookups before them do not read: the slug of a tenant, and
the id of a finding. The fallback transaction then finds nothing to merge into and raises the error again.
-/

namespace SharedIntegration

open Relational FindingLifecycle Isolation

variable {lib : SecretLibrary} {core : CoreLibrary} {text : TextLibrary} {db db' : Database}

/-! ### Grounded findings -/

/-- Findings have row ids from the sequence and belong to tenants that exist. -/
structure Grounded (db : Database) : Prop where
  numbered : ∀ row ∈ db.findings.rows, row.rowId < db.findingSequence
  stored : ∀ row ∈ db.findings.rows, Stored db row.tenantId

/-- There are no findings in a fresh database. -/
theorem grounded_empty : Grounded Database.empty :=
  ⟨fun _ hrow => absurd hrow List.not_mem_nil, fun _ hrow => absurd hrow List.not_mem_nil⟩

/-- A larger table of tenants keeps findings grounded. -/
theorem Grounded.withTenants (h : Grounded db) {tenants : Table TenantRow TenantRow.Conflict}
    (htenants : ∀ row ∈ db.tenants.rows, ∃ row' ∈ tenants.rows, row'.id = row.id) :
    Grounded { db with tenants } where
  numbered := h.numbered
  stored row hrow := by
    obtain ⟨tenant, htenant, hid⟩ := h.stored row hrow
    obtain ⟨tenant', htenant', hid'⟩ := htenants tenant htenant
    exact ⟨tenant', htenant', hid'.trans hid⟩

/-- Making sure of a tenant keeps findings grounded. -/
theorem Grounded.ensure (h : Grounded db) {tenants : Table TenantRow TenantRow.Conflict} {tenantId : String}
    {now : Instant} (hensure : tenants = db.tenants ∨ SqlJobs.ensureTenant db.tenants tenantId now = some tenants) :
    Grounded { db with tenants } := by
  apply h.withTenants
  intro row hrow
  rcases hensure with rfl | hensure
  · exact ⟨row, hrow, rfl⟩
  · exact ⟨row, (ensureTenant_eq_some hensure).1 row hrow, rfl⟩

/-- Other tables do not matter. -/
theorem Grounded.of_same (h : Grounded db) (htenants : db'.tenants = db.tenants)
    (hfindings : db'.findings = db.findings) (hsequence : db'.findingSequence = db.findingSequence) : Grounded db' where
  numbered row hrow := by
    rw [hfindings] at hrow
    rw [hsequence]
    exact h.numbered row hrow
  stored row hrow := by
    rw [hfindings] at hrow
    obtain ⟨tenant, htenant, hid⟩ := h.stored row hrow
    exact ⟨tenant, htenants ▸ htenant, hid⟩

/-- An update of other columns keeps findings grounded. -/
theorem Grounded.update (h : Grounded db) {selected : FindingRow → Bool} {change : FindingRow → FindingRow}
    (hchange : KeepsKeys FindingRow.Conflict change) (hid : ∀ row, (change row).rowId = row.rowId)
    (htenant : ∀ row, (change row).tenantId = row.tenantId) :
    Grounded { db with findings := db.findings.update selected change hchange } where
  numbered row' hrow' := by
    obtain ⟨row, hrow, rfl⟩ := List.mem_map.mp hrow'
    have hold := h.numbered row hrow
    split
    · exact hid row ▸ hold
    · exact hold
  stored row' hrow' := by
    obtain ⟨row, hrow, rfl⟩ := List.mem_map.mp hrow'
    have hold := h.stored row hrow
    split
    · exact htenant row ▸ hold
    · exact hold

/-- The next row of a tenant that exists keeps findings grounded. -/
theorem Grounded.insert (h : Grounded db) {row : FindingRow} {findings : Table FindingRow FindingRow.Conflict}
    (hinsert : db.findings.insert row = some findings) (hid : row.rowId = db.findingSequence)
    (hstored : Stored db row.tenantId) :
    Grounded { db with findings, findingSequence := db.findingSequence + 1 } where
  numbered row' hrow' := by
    change row' ∈ findings.rows at hrow'
    change row'.rowId < db.findingSequence + 1
    rw [(Table.insert_eq_some hinsert).1] at hrow'
    rcases List.mem_append.mp hrow' with hold | hnew
    · have hlt := h.numbered row' hold
      omega
    · rw [List.mem_singleton.mp hnew]
      omega
  stored row' hrow' := by
    change row' ∈ findings.rows at hrow'
    rw [(Table.insert_eq_some hinsert).1] at hrow'
    rcases List.mem_append.mp hrow' with hold | hnew
    · exact h.stored row' hold
    · rw [List.mem_singleton.mp hnew]
      exact hstored

/-- Storing a finding keeps findings grounded. -/
theorem Grounded.addForJob (h : Grounded db) (m : Moment) (tenantId : String) (finding : Finding)
    (jobId : Option String) : Grounded (FindingLifecycle.addForJob core text db m tenantId finding jobId).1 := by
  unfold FindingLifecycle.addForJob
  split
  · next db' hstore =>
    rcases storeFinding_eq_some hstore with hlocked | ⟨-, hlost⟩
    · obtain ⟨tenants, hensure, hstored⟩ := storeLocked_cases hlocked
      have hgrounded : Grounded { db with tenants } := h.ensure (Or.inr hensure)
      rcases hstored with ⟨-, findings, hinsert, rfl⟩ | ⟨row, -, rfl⟩
      · exact hgrounded.insert hinsert rfl (ensureTenant_eq_some hensure).2
      · exact hgrounded.update (FindingRow.merge_keeps core finding jobId m.now) (fun _ => rfl) fun _ => rfl
    · obtain ⟨row, -, rfl⟩ := storeLost_cases hlost
      exact h.update (FindingRow.mergeLost_keeps core finding m.now) (fun _ => rfl) fun _ => rfl
  · exact h

/-- A call of one of the stores keeps findings grounded. -/
theorem Grounded.store (h : Grounded db) (m : Moment) (call : StoreCall) :
    Grounded (call.perform core text db m).1 := by
  cases call with
  | jobs call =>
    obtain ⟨tenants, hensure, -, hsame⟩ := @perform_ensures core db m call
    exact (h.ensure hensure).of_same hsame.tenants hsame.findings hsame.findingSequence
  | findings tenantId call =>
    cases call with
    | addForJob finding jobId => exact h.addForJob m tenantId finding jobId
    | addCorrelation correlation =>
      change Grounded (addCorrelation db m tenantId correlation).1
      unfold addCorrelation
      split
      · next db' hinsert =>
        obtain ⟨tenants, correlations, links, hensure, -, -, rfl⟩ := insertCorrelation_eq_some hinsert
        exact (h.ensure (Or.inr hensure)).of_same rfl rfl rfl
      · exact h
    | updateLifecycle findingId status assignedTo actor =>
      change Grounded (updateLifecycle core db m tenantId findingId status assignedTo actor).1
      unfold updateLifecycle
      split
      · exact h
      · exact (h.update (FindingRow.triage_keeps status assignedTo m.now) (fun _ => rfl) fun _ => rfl).of_same rfl rfl
          rfl
    | _ => exact h

/-- Every call keeps findings grounded. -/
theorem Grounded.live {db : IdentityDatabase} (h : Grounded db.toDatabase) (call : LiveCall) :
    Grounded (call.perform lib core text db).toDatabase := by
  cases call with
  | store m call => exact h.store m call
  | identity draw call =>
    change Grounded (Identity.afterCall lib db (draw, call)).toDatabase
    unfold Identity.afterCall
    split
    · next db' result hperform =>
      have hsame := Identity.perform_sameStores hperform
      have hkept := (Identity.perform_tenants hperform).kept
      exact (h.withTenants hkept).of_same rfl hsame.findings hsame.findingSequence
    · exact h

/-! ### One call -/

/-- The call has returned normally, one row carries the fingerprint afterwards, and all other rows are as before. -/
structure StoredCleanly {Error : Type} (core : CoreLibrary) (text : TextLibrary) (db : Database) (tenantId : String)
    (finding : Finding) (after : Database × Except Error Unit) : Prop where
  returns : after.2 = .ok ()
  unique : ∃! row, row ∈ after.1.findings.rows ∧ row.tenantId = tenantId ∧
    row.fingerprint = findingFingerprint core text finding
  others : ∀ row : FindingRow, ¬ (row.tenantId = tenantId ∧ row.fingerprint = findingFingerprint core text finding) →
    (row ∈ after.1.findings.rows ↔ row ∈ db.findings.rows)

/-- The tenant exists or its id is nobody's slug, and the fingerprint is known to the tenant or the id is new to it. -/
structure Storable (core : CoreLibrary) (text : TextLibrary) (db : Database) (tenantId : String)
    (finding : Finding) : Prop where
  tenant : Stored db tenantId ∨ ∀ row ∈ db.tenants.rows, row.slug ≠ tenantId
  finding : (∃ row ∈ db.findings.rows, row.tenantId = tenantId ∧
      row.fingerprint = findingFingerprint core text finding) ∨
    ∀ row ∈ db.findings.rows, row.tenantId = tenantId → row.findingId ≠ finding.id

/-- A fingerprint is looked up among the rows of the tenant. -/
theorem exists_findFingerprint_iff {tenantId fingerprint : String} :
    (∃ row, findFingerprint db.findings tenantId fingerprint = some row) ↔
      ∃ row ∈ db.findings.rows, row.tenantId = tenantId ∧ row.fingerprint = fingerprint := by
  constructor
  · rintro ⟨row, hrow⟩
    exact ⟨row, fingerprint_of_find hrow⟩
  · rintro ⟨row, hrow, htenant, hfingerprint⟩
    rw [← Option.ne_none_iff_exists', findFingerprint, Ne, Table.find_eq_none_iff]
    intro hnone
    exact of_decide_eq_false (hnone row hrow) ⟨htenant, hfingerprint⟩

/-- When the row of a first occurrence can be inserted. -/
theorem exists_insertCreated_iff (hgrounded : Grounded db) {m : Moment} {tenantId : String} {finding : Finding}
    {jobId : Option String} (hnone : findFingerprint db.findings tenantId (findingFingerprint core text finding) = none) :
    (∃ findings, db.findings.insert (.created core text db.findingSequence tenantId finding jobId m.now) =
      some findings) ↔ ∀ row ∈ db.findings.rows, row.tenantId = tenantId → row.findingId ≠ finding.id := by
  constructor
  · rintro ⟨findings, hinsert⟩ row hrow htenant hid
    exact (Table.insert_eq_some hinsert).2 row hrow (Or.inr ⟨htenant, Or.inl hid⟩)
  · intro hfree
    rw [← Option.ne_none_iff_exists']
    intro hrefused
    obtain ⟨row, hrow, hid | ⟨htenant, hid | hfingerprint⟩⟩ := (Table.insert_eq_none_iff _ _).mp hrefused
    · exact absurd hid (Nat.ne_of_lt (hgrounded.numbered row hrow))
    · exact hfree row hrow htenant hid
    · exact of_decide_eq_false ((Table.find_eq_none_iff _ _).mp hnone row hrow) ⟨htenant, hfingerprint⟩

/-- The first transaction succeeds exactly on findings that can be stored. -/
theorem exists_storeLocked_iff (hgrounded : Grounded db) {m : Moment} {tenantId : String} {finding : Finding}
    {jobId : Option String} : (∃ db', storeLocked core text db m tenantId finding jobId = some db') ↔
      Storable core text db tenantId finding := by
  have htenant := @SqlJobs.exists_ensureTenant_iff db.tenants tenantId m.now
  have hknown := @exists_findFingerprint_iff db tenantId (findingFingerprint core text finding)
  cases hensure : SqlJobs.ensureTenant db.tenants tenantId m.now with
  | none =>
    have hrefused : ¬ ∃ tenants, SqlJobs.ensureTenant db.tenants tenantId m.now = some tenants := by
      rw [hensure]
      rintro ⟨_, h⟩
      cases h
    have hnone : storeLocked core text db m tenantId finding jobId = none := by
      unfold storeLocked
      rw [hensure]
      rfl
    rw [hnone]
    exact ⟨fun ⟨_, h⟩ => (by cases h), fun h => absurd (htenant.mpr h.tenant) hrefused⟩
  | some tenants =>
    have hmade := htenant.mp ⟨tenants, hensure⟩
    cases hfind : findFingerprint db.findings tenantId (findingFingerprint core text finding) with
    | some row =>
      refine ⟨fun _ => ⟨hmade, Or.inl (hknown.mp ⟨row, hfind⟩)⟩, fun _ => ?_⟩
      unfold storeLocked
      rw [hensure]
      simp only [Option.bind_eq_bind, Option.bind_some, hfind]
      exact ⟨_, rfl⟩
    | none =>
      have hinsert := @exists_insertCreated_iff core text db hgrounded m tenantId finding jobId hfind
      have hunknown : ¬ ∃ row ∈ db.findings.rows, row.tenantId = tenantId ∧
          row.fingerprint = findingFingerprint core text finding := by
        rw [← hknown, hfind]
        rintro ⟨_, h⟩
        cases h
      unfold storeLocked
      rw [hensure]
      simp only [Option.bind_eq_bind, Option.bind_some, hfind, Option.bind_eq_some_iff]
      constructor
      · rintro ⟨_, findings, hfindings, -⟩
        exact ⟨hmade, Or.inr (hinsert.mp ⟨findings, hfindings⟩)⟩
      · intro h
        obtain ⟨findings, hfindings⟩ := hinsert.mpr (h.finding.resolve_left hunknown)
        exact ⟨_, findings, hfindings, rfl⟩

/-- A finding that cannot be stored cannot be merged by the fallback either. -/
theorem storeLost_of_not_storable (hgrounded : Grounded db) {m : Moment} {tenantId : String} {finding : Finding}
    (h : ¬ Storable core text db tenantId finding) : storeLost core text db m tenantId finding = none := by
  have hunknown : findFingerprint db.findings tenantId (findingFingerprint core text finding) = none := by
    by_contra hfound
    obtain ⟨row, hrow, htenant, hfingerprint⟩ := exists_findFingerprint_iff.mp (Option.ne_none_iff_exists'.mp hfound)
    exact h ⟨Or.inl (htenant ▸ hgrounded.stored row hrow), Or.inl ⟨row, hrow, htenant, hfingerprint⟩⟩
  unfold storeLost
  dsimp only
  rw [hunknown]

/-- `add_for_job` stores a finding cleanly exactly if its tenant and its id can be inserted where they are new. -/
theorem storedCleanly_iff (hgrounded : Grounded db) (m : Moment) (tenantId : String) (finding : Finding)
    (jobId : Option String) :
    StoredCleanly core text db tenantId finding (addForJob core text db m tenantId finding jobId) ↔
      Storable core text db tenantId finding := by
  constructor
  · intro h
    by_contra hstorable
    have hlocked : storeLocked core text db m tenantId finding jobId = none := by
      by_contra hsome
      exact hstorable ((exists_storeLocked_iff hgrounded).mp (Option.ne_none_iff_exists'.mp hsome))
    have hreturns := h.returns
    unfold addForJob storeFinding at hreturns
    rw [hlocked, storeLost_of_not_storable hgrounded hstorable] at hreturns
    cases hreturns
  · intro h
    have hlocks : ∃ db', storeLocked core text db m tenantId finding jobId = some db' :=
      (exists_storeLocked_iff hgrounded).mpr h
    obtain ⟨db', hlocked⟩ := hlocks
    have hstore : storeFinding core text db m tenantId finding jobId = some db' := by
      rw [storeFinding, hlocked, Option.some_or]
    have hadd : addForJob core text db m tenantId finding jobId = (db', .ok ()) := by
      unfold addForJob
      rw [hstore]
    obtain ⟨hnone, hinsert⟩ | ⟨row, change, hchange, hfound, hfindings, hmerge⟩ := storeFinding_cases hstore
    · obtain ⟨hrows, -⟩ := Table.insert_eq_some hinsert
      have hold : ∀ row ∈ db.findings.rows, ¬ (row.tenantId = tenantId ∧
          row.fingerprint = findingFingerprint core text finding) := fun row hrow =>
        of_decide_eq_false ((Table.find_eq_none_iff _ _).mp hnone row hrow)
      refine ⟨by rw [hadd], ?_, fun row hother => ?_⟩
      · rw [hadd, hrows]
        refine ⟨_, ⟨List.mem_append_right _ List.mem_cons_self, rfl, rfl⟩, fun row hrow => ?_⟩
        rcases List.mem_append.mp hrow.1 with hbefore | hnew
        · exact absurd hrow.2 (hold row hbefore)
        · exact List.mem_singleton.mp hnew
      · rw [hadd, hrows, List.mem_append, List.mem_singleton]
        exact ⟨fun hrow => hrow.resolve_right fun hnew => hother (hnew ▸ ⟨rfl, rfl⟩), Or.inl⟩
    · obtain ⟨hmem, htenant, hfingerprint⟩ := fingerprint_of_find hfound
      have hkept : (change row).tenantId = tenantId ∧
          (change row).fingerprint = findingFingerprint core text finding := by
        rcases hmerge with rfl | rfl <;> exact ⟨htenant, hfingerprint⟩
      refine ⟨by rw [hadd], ?_, fun other hother => ?_⟩
      · rw [hadd, hfindings]
        refine ⟨change row, ⟨change_mem_updateFingerprint hchange hfound, hkept⟩, fun other hrow => ?_⟩
        rcases mem_updateFingerprint hchange hfound hrow.1 with hsame | ⟨-, hdiffer⟩
        · exact hsame
        · exact absurd hrow.2 hdiffer
      · rw [hadd, hfindings]
        constructor
        · intro hrow
          rcases mem_updateFingerprint hchange hfound hrow with hsame | ⟨hbefore, -⟩
          · exact absurd (hsame ▸ hkept) hother
          · exact hbefore
        · intro hrow
          exact List.mem_map.mpr ⟨other, hrow, if_neg (by simpa using hother)⟩

/-! ### Reachable databases -/

/-- Every database that calls of the repositories can lead to is grounded. -/
theorem grounded_performAll (lib : SecretLibrary) (core : CoreLibrary) (text : TextLibrary) (calls : List LiveCall) :
    Grounded (LiveCall.performAll lib core text .empty calls).toDatabase := by
  apply LiveCall.performAll_invariant (fun db => Grounded db.toDatabase)
  · intro db call h
    exact h.live call
  · exact grounded_empty

end SharedIntegration

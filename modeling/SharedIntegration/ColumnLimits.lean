import SharedIntegration.ColumnTypes
import SharedIntegration.Storable

/-!
# Findings that the columns take

`add_for_job` raises before its transactions if the identity of a finding cannot be written and encoded, and within
them if a column does not take a value. Neither is an integrity error, so no fallback is tried, and the database
stays as it was.
-/

namespace SharedIntegration

open Relational FindingLifecycle Isolation

/-- What `add_for_job` raises: on the text of an identity, on a value that a column does not take, or in the end of
its own transactions. -/
inductive AddError
  | identity
  | column
  | transaction (message : String)
deriving DecidableEq

section Columns

variable (columns : ColumnTypes) (spelling : Spelling)

/-- The columns take the default row of a tenant. -/
def TenantRow.taken (row : TenantRow) : Bool :=
  columns.string 128 (spelling.text row.id) && columns.string 128 (spelling.text row.slug) &&
    columns.string 255 (spelling.text row.name)

/-- The columns take the row of a first occurrence; the names of enumerations always have room. -/
def FindingRow.taken (row : FindingRow) : Bool :=
  columns.integer row.rowId && columns.string 128 (spelling.text row.tenantId) &&
    columns.string 128 (spelling.text row.findingId) && columns.string 64 (spelling.text row.fingerprint) &&
    (row.asset.all fun asset => columns.string 1024 (spelling.text asset)) &&
    (row.cve.all fun cve => columns.string 128 (spelling.text cve)) &&
    columns.string 1024 (spelling.text row.title) && columns.text (spelling.text row.description) &&
    columns.integer row.occurrences && (row.jobId.all fun jobId => columns.string 64 (spelling.text jobId)) &&
    columns.json (spelling.document row.payload)

/-- The columns take what a further occurrence assigns; a job id that was kept has been taken before. -/
def FindingRow.mergeTaken (jobId : Option String) (merged : FindingRow) : Bool :=
  columns.text (spelling.text merged.description) && columns.integer merged.occurrences &&
    ((nonEmpty jobId).all fun jobId => columns.string 64 (spelling.text jobId)) &&
    columns.json (spelling.document merged.payload)

/-- The row that `_store_finding` writes for the finding is taken: that of a first occurrence, or what a further one
assigns to the row that it finds. -/
def findingTaken (core : CoreLibrary) (text : TextLibrary) (db : Database) (m : Moment) (tenantId : String)
    (finding : Finding) (jobId : Option String) : Bool :=
  match findFingerprint db.findings tenantId (findingFingerprint core text finding) with
  | none => (FindingRow.created core text db.findingSequence tenantId finding jobId m.now).taken columns spelling
  | some row => (row.merge core finding jobId m.now).mergeTaken columns spelling jobId

/-- The row that `_ensure_tenant` inserts is taken, if it inserts one. -/
def tenantTaken (db : Database) (tenantId : String) (now : Instant) : Bool :=
  (db.tenants.rows.any fun row => row.id = tenantId) ||
    (⟨tenantId, tenantId, tenantId, "active", 90, now, now⟩ : TenantRow).taken columns spelling

/-- `add_for_job` on columns of these types: the fingerprint is computed first, the tenant is made sure of next, and
a row is written last. -/
def addForJobTyped (nesting : ℕ) (core : CoreLibrary) (text : TextLibrary) (db : Database) (m : Moment)
    (tenantId : String) (finding : Finding) (jobId : Option String) : Database × Except AddError Unit :=
  if (canonicalBytes core text spelling.toWriter nesting finding).isNone then (db, .error .identity)
  else if tenantTaken columns spelling db tenantId m.now = false then (db, .error .column)
  else if (SqlJobs.ensureTenant db.tenants tenantId m.now).isSome ∧
      findingTaken columns spelling core text db m tenantId finding jobId = false then (db, .error .column)
  else
    let (db', result) := addForJob core text db m tenantId finding jobId
    (db', result.mapError .transaction)

/-- The texts of the identity can be encoded, and the columns take what the call writes. -/
structure Taken (nesting : ℕ) (core : CoreLibrary) (text : TextLibrary) (db : Database) (m : Moment)
    (tenantId : String) (finding : Finding) (jobId : Option String) : Prop where
  writable : (findingIdentity core text finding).writable nesting = true
  encodable : (findingIdentity core text finding).allStrings spelling.toWriter.encodable = true
  tenant : tenantTaken columns spelling db tenantId m.now = true
  finding : findingTaken columns spelling core text db m tenantId finding jobId = true

end Columns

section

variable {columns : ColumnTypes} {spelling : Spelling} {nesting : ℕ} {core : CoreLibrary} {text : TextLibrary}
  {db : Database}

/-- A call whose values are taken does what it does without columns. -/
theorem Taken.addForJobTyped_eq {m : Moment} {tenantId : String} {finding : Finding} {jobId : Option String}
    (h : Taken columns spelling nesting core text db m tenantId finding jobId) :
    addForJobTyped columns spelling nesting core text db m tenantId finding jobId =
      ((addForJob core text db m tenantId finding jobId).1,
        (addForJob core text db m tenantId finding jobId).2.mapError .transaction) := by
  have hbytes : (canonicalBytes core text spelling.toWriter nesting finding).isSome = true :=
    (Json.isSome_encode_dumps_iff spelling.toWriter).mpr ⟨h.writable, h.encodable⟩
  unfold addForJobTyped
  rw [if_neg (by simp [← Option.not_isSome, hbytes]), if_neg (by simp [h.tenant]), if_neg (by simp [h.finding])]

/-- A call that returns had its values taken. -/
theorem taken_of_returns (hgrounded : Grounded db) {m : Moment} {tenantId : String} {finding : Finding}
    {jobId : Option String}
    (h : (addForJobTyped columns spelling nesting core text db m tenantId finding jobId).2 = .ok ()) :
    Taken columns spelling nesting core text db m tenantId finding jobId := by
  unfold addForJobTyped at h
  split_ifs at h with hidentity htenant hfinding
  have hbytes : (canonicalBytes core text spelling.toWriter nesting finding).isSome = true :=
    Option.isSome_iff_ne_none.mpr fun hnone => hidentity (Option.isNone_iff_eq_none.mpr hnone)
  obtain ⟨hwritable, hencodable⟩ := (Json.isSome_encode_dumps_iff spelling.toWriter).mp hbytes
  refine ⟨hwritable, hencodable, by simpa using htenant, ?_⟩
  by_contra hrefused
  -- the finding is not looked at only if its tenant is refused, which the fallback does not mend
  have hensure : SqlJobs.ensureTenant db.tenants tenantId m.now = none := by
    by_contra hsome
    exact hfinding ⟨Option.isSome_iff_ne_none.mpr hsome, by simpa using hrefused⟩
  have hlocked : storeLocked core text db m tenantId finding jobId = none := by
    unfold storeLocked
    rw [hensure]
    rfl
  have hstorable : ¬ Storable core text db tenantId finding := by
    intro hstorable
    obtain ⟨tenants, htenants⟩ := (@SqlJobs.exists_ensureTenant_iff db.tenants tenantId m.now).mpr hstorable.tenant
    rw [hensure] at htenants
    cases htenants
  unfold addForJob storeFinding at h
  rw [hlocked, storeLost_of_not_storable hgrounded hstorable] at h
  cases h

/-- `add_for_job` stores a finding cleanly exactly if its values are taken, and its tenant and its id can be inserted
where they are new. -/
theorem storedCleanly_typed_iff (hgrounded : Grounded db) (m : Moment) (tenantId : String) (finding : Finding)
    (jobId : Option String) :
    StoredCleanly core text db tenantId finding
        (addForJobTyped columns spelling nesting core text db m tenantId finding jobId) ↔
      Taken columns spelling nesting core text db m tenantId finding jobId ∧ Storable core text db tenantId finding := by
  have hsame : Taken columns spelling nesting core text db m tenantId finding jobId →
      (StoredCleanly core text db tenantId finding
          (addForJobTyped columns spelling nesting core text db m tenantId finding jobId) ↔
        StoredCleanly core text db tenantId finding (addForJob core text db m tenantId finding jobId)) := by
    intro htaken
    have hreturns : (addForJob core text db m tenantId finding jobId).2.mapError AddError.transaction = .ok () ↔
        (addForJob core text db m tenantId finding jobId).2 = .ok () := by
      cases (addForJob core text db m tenantId finding jobId).2 with
      | ok _ => exact ⟨fun _ => rfl, fun _ => rfl⟩
      | error _ => exact ⟨nofun, nofun⟩
    rw [htaken.addForJobTyped_eq]
    exact ⟨fun h => ⟨hreturns.mp h.returns, h.unique, h.others⟩, fun h => ⟨hreturns.mpr h.returns, h.unique, h.others⟩⟩
  constructor
  · intro h
    have htaken := taken_of_returns hgrounded h.returns
    exact ⟨htaken, (storedCleanly_iff hgrounded m tenantId finding jobId).mp ((hsame htaken).mp h)⟩
  · rintro ⟨htaken, hstorable⟩
    exact (hsame htaken).mpr ((storedCleanly_iff hgrounded m tenantId finding jobId).mpr hstorable)

end

/-- A tenant stores a finding, and an administrator names another tenant by the id of a third. -/
def storedAndNamed : Database :=
  (LiveCall.performAll Exchange.plainDigests FindingDict.core FindingDict.text .empty
    [.store ⟨0, "1"⟩ (.findings "tenant-a" (.addForJob (hostFinding "f1" "web-1" .low) none)),
      .identity (Exchange.letterDraw 1 "2" 'a')
        (.createTenant "acme" "tenant-b" "Acme" 90 "admin")]).toDatabase

/-- A call on this database. -/
def addToNamed (columns : ColumnTypes) (tenantId : String) (finding : Finding) : Database × Except AddError Unit :=
  addForJobTyped columns FindingDict.surrogateSpelling 1000 FindingDict.core FindingDict.text storedAndNamed ⟨2, "3"⟩
    tenantId finding (some "job_1")

end SharedIntegration

import SharedIntegration.FindingDict
import SharedIntegration.IdentityModels
import SharedIntegration.Library.PyString
import SharedIntegration.Library.Rerun

/-!
# The import of a legacy database

`LegacySQLiteMigrator` copies the tables of a legacy gateway database into the relational schema, in one
transaction that is rolled back when anything raises. Columns that the import decodes are given as what their
texts stand for, or as nothing where a decoder raises. Texts of statuses and severities stand for members of their
enumerations, as everywhere in the schema.
-/

namespace SharedIntegration

open Relational Rerun

/-- Lowercase hexadecimal digits. -/
def isLowerHex (c : Char) : Bool := c.isDigit || (97 ≤ c.toNat && c.toNat ≤ 102)

/-- The library functions that the import calls: the members of enumerations by their texts, `Finding.from_dict`,
`str` on a decoded value, `str.casefold` and hexadecimal SHA-256 digests of texts and of canonical JSON texts. -/
structure MigrationLibrary (core : CoreLibrary) where
  findingSource : String → Option FindingSource
  findingSource_value : ∀ source, findingSource (core.sourceValue source) = some source
  severity : String → FindingSeverity
  findingFromDict : Document → Option Finding
  str : Document → String
  casefold : String → String
  sha256 : String → String
  sha256_hex : ∀ value, 16 ≤ (sha256 value).length ∧ (sha256 value).toList.all isLowerHex = true
  sha256Json : Document → String

/-- A row of `scan_jobs`. -/
structure LegacyJob where
  jobId : String
  tenantId : String
  source : String
  payload : Option Document
  status : JobStatus
  createdAt : Option Timestamp
  updatedAt : Option Timestamp
  idempotencyKey : Option String
  dispatchId : Option String
  attempt : ℕ
  cancelRequested : ℤ
  resultCount : ℕ
  errorCode : Option String
  errorMessage : Option String

/-- A row of `scan_job_events`. -/
structure LegacyJobEvent where
  tenantId : String
  jobId : String
  sequence : ℕ
  kind : String
  payload : Option Document
  createdAt : Option Timestamp

/-- A row of the legacy `findings`. -/
structure LegacyFinding where
  tenantId : String
  payload : Option Document

/-- A row of the legacy `correlations`. -/
structure LegacyCorrelation where
  seq : ℕ
  tenantId : String
  payload : Option Document

/-- A source database: the rows of each legacy table that it has, in the order in which they are read. -/
structure LegacySource where
  path : String
  scanJobs : Option (List LegacyJob)
  scanJobEvents : Option (List LegacyJobEvent)
  findings : Option (List LegacyFinding)
  correlations : Option (List LegacyCorrelation)

/-- The relational schema, and the ids of the audit rows that imports have written. -/
structure MigrationTarget extends IdentityDatabase where
  migrationAudits : List String

/-- What an import raises. -/
inductive MigrationError
  | valueError (message : String)
  | jsonDecodeError
  | invalidIsoformat
  | notAFinding
  | keyError (key : String)
  | integrityError
deriving DecidableEq, Repr

/-- `MigrationCounts`. -/
structure MigrationCounts where
  tenants : ℕ
  jobs : ℕ
  jobEvents : ℕ
  findings : ℕ
  correlations : ℕ
deriving DecidableEq, Repr

/-- `MigrationReport`. -/
structure MigrationReport where
  dryRun : Bool
  source : MigrationCounts
  imported : MigrationCounts
  skipped : MigrationCounts
deriving DecidableEq, Repr

/-- No rows at all. -/
def MigrationCounts.zero : MigrationCounts := ⟨0, 0, 0, 0, 0⟩

/-- `asdict`. -/
def MigrationCounts.document (counts : MigrationCounts) : Document :=
  .obj [("tenants", .int counts.tenants), ("jobs", .int counts.jobs), ("job_events", .int counts.jobEvents),
    ("findings", .int counts.findings), ("correlations", .int counts.correlations)]

namespace LegacySource

variable (source : LegacySource)

/-- `_read_source` for `scan_jobs`. -/
def jobRows : List LegacyJob := source.scanJobs.getD []

/-- `_read_source` for `scan_job_events`. -/
def eventRows : List LegacyJobEvent := source.scanJobEvents.getD []

/-- `_read_source` for `findings`. -/
def findingRows : List LegacyFinding := source.findings.getD []

/-- `_read_source` for `correlations`. -/
def correlationRows : List LegacyCorrelation := source.correlations.getD []

/-- The tenant ids of all rows. -/
def rowTenants : List String :=
  source.jobRows.map LegacyJob.tenantId ++ source.eventRows.map LegacyJobEvent.tenantId ++
    source.findingRows.map LegacyFinding.tenantId ++ source.correlationRows.map LegacyCorrelation.tenantId

/-- `_tenant_ids`. -/
def tenantIds : List String := source.rowTenants.dedup.insertionSort (· ≤ ·)

/-- `_count_source`. -/
def count : MigrationCounts :=
  ⟨source.tenantIds.length, source.jobRows.length, source.eventRows.length, source.findingRows.length,
    source.correlationRows.length⟩

/-- One of the legacy tables exists. -/
def isLegacy : Bool :=
  source.scanJobs.isSome || source.scanJobEvents.isSome || source.findings.isSome || source.correlations.isSome

end LegacySource

namespace Migration

/-- `_json_object`. -/
def jsonObject (label : String) : Option Document → Except MigrationError Document
  | none => .error .jsonDecodeError
  | some (.obj entries) => .ok (.obj entries)
  | some _ => .error (.valueError (label ++ " must be a JSON object"))

/-- `_parse_datetime`. -/
def parseDatetime : Option Timestamp → Except MigrationError Instant
  | none => .error .invalidIsoformat
  | some value => .ok (asUtc value)

/-- `payload[key]`. -/
def item (payload : Document) (key : String) : Except MigrationError Document :=
  match payload.get? key with
  | none => .error (.keyError key)
  | some value => .ok value

variable {core : CoreLibrary} (lib : MigrationLibrary core) (text : TextLibrary)

/-- `_short_hash`. -/
def shortHash (value : String) : String := PyString.slice 12 (lib.sha256 value)

/-- A character that a slug keeps. -/
def isPlain (c : Char) : Bool := c.isLower || c.isDigit

/-- `re.sub` of every run of other characters by one dash. -/
def dashed : List Char → List Char
  | [] => []
  | c :: rest =>
    if isPlain c then c :: dashed rest
    else match rest with
      | d :: _ => if isPlain d then '-' :: dashed rest else dashed rest
      | [] => ['-']

/-- `strip("-")`. -/
def stripDashes (chars : List Char) : List Char := (chars.dropWhile (· = '-')).rdropWhile (· = '-')

/-- The middle part of a slug. -/
def slugBase (tenantId : String) : String :=
  let base := stripDashes (dashed (lib.casefold tenantId).toList)
  if base = [] then "tenant" else String.ofList base

/-- `_legacy_slug`. -/
def legacySlug (tenantId : String) : String :=
  "legacy-" ++ PyString.slice 96 (slugBase lib tenantId) ++ "-" ++ shortHash lib tenantId

/-- `_legacy_correlation_id`. -/
def legacyCorrelationId (tenantId : String) (sequence : ℕ) (payload : Document) : String :=
  "corr_legacy_" ++ PyString.slice 32 (lib.sha256Json
    (.obj [("tenant", .str tenantId), ("sequence", .int sequence), ("payload", payload)]))

/-- The row of a tenant that is imported. -/
def importedTenant (now : Instant) (tenantId : String) : TenantRow :=
  ⟨tenantId, legacySlug lib tenantId, "Imported tenant " ++ tenantId, "active", 90, now, now⟩

/-- Import one tenant. -/
def importTenant (now : Instant) (db : Database) (tenantId : String) : Except MigrationError (Database × Bool) :=
  match db.tenants.find fun row => row.id = tenantId with
  | some _ => .ok (db, false)
  | none =>
    match db.tenants.insert (importedTenant lib now tenantId) with
    | some tenants => .ok ({ db with tenants }, true)
    | none => .error .integrityError

/-- `FindingSource(value)`. -/
def parseSource (value : String) : Except MigrationError FindingSource :=
  match lib.findingSource value with
  | some source => .ok source
  | none => .error (.valueError ("'" ++ value ++ "' is not a valid FindingSource"))

/-- The columns of a job that is imported. -/
def importedJob (row : LegacyJob) (source : FindingSource) (payload : Document) (createdAt updatedAt : Instant) :
    JobRow where
  id := row.jobId
  tenantId := row.tenantId
  source := source
  payload := payload
  status := row.status
  createdAt := createdAt
  updatedAt := updatedAt
  idempotencyKey := row.idempotencyKey
  dispatchId := row.dispatchId
  attempt := row.attempt
  cancelRequested := row.cancelRequested ≠ 0
  resultCount := row.resultCount
  errorCode := row.errorCode
  errorMessage := row.errorMessage
  queue := SqlJobs.queues source

/-- `_import_jobs` for one row. -/
def importJob (db : Database) (row : LegacyJob) : Except MigrationError (Database × Bool) :=
  match db.jobTables.jobs.find fun old => old.id = row.jobId with
  | some existing =>
    if existing.tenantId = row.tenantId then .ok (db, false)
    else .error (.valueError ("job ID collision across tenants: " ++ row.jobId))
  | none => do
    let source ← parseSource lib row.source
    let payload ← jsonObject "job payload" row.payload
    let createdAt ← parseDatetime row.createdAt
    let updatedAt ← parseDatetime row.updatedAt
    match db.jobTables.insertRow (importedJob row source payload createdAt updatedAt) with
    | some jobTables => .ok ({ db with jobTables }, true)
    | none => .error .integrityError

end Migration

/-- `INSERT` of an event; its job must exist under the tenant of the event. -/
def JobTables.insertEvent {Row : Type} [JobColumns Row] (tables : JobTables Row) (event : JobEvent) :
    Option (JobTables Row) :=
  if hjob : ∃ row ∈ tables.jobs.rows, (JobColumns.record row).key = event.key then
    if hfree : ∀ old ∈ tables.events.rows, ¬ JobEvent.Conflict old event then
      some { tables with
        events := tables.events.push event hfree
        owned := by
          intro other hother
          rcases List.mem_append.mp hother with hold | hnew
          · exact tables.owned other hold
          · rw [List.mem_singleton.mp hnew]
            exact hjob }
    else none
  else none

namespace Migration

variable {core : CoreLibrary} (lib : MigrationLibrary core) (text : TextLibrary)

/-- The columns of an event that is imported. -/
def importedEvent (row : LegacyJobEvent) (payload : Document) (createdAt : Instant) : JobEvent :=
  ⟨row.sequence, row.jobId, row.tenantId, row.kind, payload, createdAt⟩

/-- `_import_job_events` for one row. -/
def importJobEvent (db : Database) (row : LegacyJobEvent) : Except MigrationError (Database × Bool) :=
  match db.jobTables.events.find fun old =>
    old.tenantId = row.tenantId ∧ old.jobId = row.jobId ∧ old.sequence = row.sequence with
  | some _ => .ok (db, false)
  | none =>
    match db.jobTables.jobs.find fun old => old.id = row.jobId with
    | none => .error (.valueError ("job event references missing job: " ++ row.jobId))
    | some _ => do
      let payload ← jsonObject "job event payload" row.payload
      let createdAt ← parseDatetime row.createdAt
      match db.jobTables.insertEvent (importedEvent row payload createdAt) with
      | some jobTables => .ok ({ db with jobTables }, true)
      | none => .error .integrityError

/-- The map from the finding ids of the source, with their tenants, to those of the target. -/
abbrev FindingIds := List ((String × String) × String)

/-- `Finding.from_dict` on a JSON object. -/
def legacyFinding (row : LegacyFinding) : Except MigrationError Finding := do
  let payload ← jsonObject "finding payload" row.payload
  match lib.findingFromDict payload with
  | some finding => .ok finding
  | none => .error .notAFinding

/-- `_import_findings` for one row. -/
def importFinding (now : Instant) (state : Database × FindingIds) (row : LegacyFinding) :
    Except MigrationError ((Database × FindingIds) × Bool) := do
  let (db, ids) := state
  let finding ← legacyFinding lib row
  match FindingLifecycle.findFingerprint db.findings row.tenantId (findingFingerprint core text finding) with
  | some existing => .ok ((db, Json.setEntry ids (row.tenantId, finding.id) existing.findingId), false)
  | none =>
    match db.findings.find fun old => old.tenantId = row.tenantId ∧ old.findingId = finding.id with
    | some _ =>
      .error (.valueError ("finding ID has a different fingerprint: " ++ row.tenantId ++ "/" ++ finding.id))
    | none =>
      match db.findings.insert
        (.created core text db.findingSequence row.tenantId finding none now) with
      | some findings =>
        let db := { db with findings, findingSequence := db.findingSequence + 1 }
        .ok ((db, Json.setEntry ids (row.tenantId, finding.id) finding.id), true)
      | none => .error .integrityError

/-- `payload.get("findings", [])`, as a list. -/
def legacyLinks (payload : Document) : Except MigrationError (List Document) :=
  match (payload.get? "findings").getD (.arr []) with
  | .arr items => .ok items
  | _ => .error (.valueError "correlation findings must be a list")

/-- The id under which the target knows a finding of the source. -/
def mappedId (ids : FindingIds) (tenantId findingId : String) : String :=
  (Json.getEntry ids (tenantId, findingId)).getD findingId

/-- Insert a correlation and its links. -/
def insertLinked (db : Database) (row : CorrelationRow) (findingIds : List String) : Option Database := do
  let correlations ← db.correlations.insert row
  let correlationFindings ← findingIds.foldlM
    (fun links findingId => links.insert ⟨row.tenantId, row.id, findingId⟩) db.correlationFindings
  some { db with correlations, correlationFindings }

/-- `_import_correlations` for one row. -/
def importCorrelation (ids : FindingIds) (now : Instant) (db : Database) (row : LegacyCorrelation) :
    Except MigrationError (Database × Bool) := do
  let payload ← jsonObject "correlation payload" row.payload
  let correlationId := legacyCorrelationId lib row.tenantId row.seq payload
  match db.correlations.find fun old => old.id = correlationId with
  | some _ => .ok (db, false)
  | none => do
    let sourceFindingIds ← legacyLinks payload
    let mappedIds := sourceFindingIds.map fun findingId => mappedId ids row.tenantId (lib.str findingId)
    let ruleId ← item payload "rule_id"
    let severity ← item payload "severity"
    let narrative ← item payload "narrative"
    match insertLinked db ⟨correlationId, row.tenantId, lib.str ruleId, "legacy", lib.severity (lib.str severity),
      lib.str narrative, now⟩ mappedIds.eraseDups with
    | some db => .ok (db, true)
    | none => .error .integrityError

/-- The id of the audit row of a tenant. -/
def auditId (path tenantId : String) : String :=
  "audit_migration_" ++ PyString.slice 16 (lib.sha256 path) ++ "_" ++ shortHash lib tenantId

/-- `_migration_audit`. -/
def migrationAudit (path : String) (sourceCounts imported : MigrationCounts) (now : Instant)
    (target : MigrationTarget) (tenantId : String) : MigrationTarget :=
  if auditId lib path tenantId ∈ target.migrationAudits then target
  else
    { target with
      auditEvents := target.auditEvents ++ [⟨tenantId, "legacy-sqlite-migration", "migration.legacy_sqlite",
        "tenant", some tenantId, none, "success",
        .obj [("source", sourceCounts.document), ("imported", imported.document)], now⟩]
      migrationAudits := target.migrationAudits ++ [auditId lib path tenantId] }

/-- What the import of the five tables leaves: the database, and how many rows of each were imported or skipped. -/
structure Imported where
  db : Database
  tenants : Tally
  jobs : Tally
  jobEvents : Tally
  findings : Tally
  correlations : Tally

/-- The rows that were imported. -/
def Imported.imported (result : Imported) : MigrationCounts :=
  ⟨result.tenants.imported, result.jobs.imported, result.jobEvents.imported, result.findings.imported,
    result.correlations.imported⟩

/-- The rows that were skipped. -/
def Imported.skipped (result : Imported) : MigrationCounts :=
  ⟨result.tenants.skipped, result.jobs.skipped, result.jobEvents.skipped, result.findings.skipped,
    result.correlations.skipped⟩

/-- Import the five tables, one after another. -/
def importTables (source : LegacySource) (now : Instant) (db : Database) : Except MigrationError Imported := do
  let (db, tenants) ← importAll (importTenant lib now) db source.tenantIds
  let (db, jobs) ← importAll (importJob lib) db source.jobRows
  let (db, jobEvents) ← importAll importJobEvent db source.eventRows
  let ((db, ids), findings) ← importAll (importFinding lib text now) (db, []) source.findingRows
  let (db, correlations) ← importAll (importCorrelation lib ids now) db source.correlationRows
  return ⟨db, tenants, jobs, jobEvents, findings, correlations⟩

/-- `LegacySQLiteMigrator.run`: the target afterwards, and the report or what was raised. -/
def run (source : LegacySource) (apply : Bool) (now : Instant) (target : MigrationTarget) :
    MigrationTarget × Except MigrationError MigrationReport :=
  if source.isLegacy then
    if apply then
      match importTables lib text source now target.toDatabase with
      | .error error => (target, .error error)
      | .ok result =>
        let target := { target with toIdentityDatabase := { target.toIdentityDatabase with toDatabase := result.db } }
        (source.tenantIds.foldl (migrationAudit lib source.path source.count result.imported now) target,
          .ok ⟨false, source.count, result.imported, result.skipped⟩)
    else (target, .ok ⟨true, source.count, .zero, .zero⟩)
  else (target, .error (.valueError "source does not contain a legacy gateway schema"))

end Migration

/-! ### One library -/

/-- SHA-256 digests of a path and of two tenant ids; all other texts share one digest. -/
def sampleDigest (value : String) : String :=
  if value = "/data/legacy.sqlite3" then "3be1134164fd640f5914ca53a558dc59d88d969731dec1ec1d634d8554530755"
  else if value = "tenant-a" then "80a707af7dc77ee1228f9127180f3964835e5beb4c4ab0d812f0fe7593579b3a"
  else if value = "Tenant A" then "1a90c2ea536a453eee363ac86a730b9519ce8e8d51e3bd18a71cbb40c0779046"
  else "e3b0c44298fc1c149afbf4c8996fb92427ae41e4649b934ca495991b7852b855"

/-- They are hexadecimal. -/
theorem sampleDigest_hex (value : String) :
    16 ≤ (sampleDigest value).length ∧ (sampleDigest value).toList.all isLowerHex = true := by
  unfold sampleDigest
  split
  · decide +kernel
  · split
    · decide +kernel
    · split <;> decide +kernel

/-- A library for sources with texts in ASCII and at most one correlation. -/
def sampleLibrary : MigrationLibrary FindingDict.core where
  findingSource value :=
    if FindingDict.sourceValue (FindingDict.sourceOf value) = value then some (FindingDict.sourceOf value) else none
  findingSource_value source := by cases source <;> decide
  severity := FindingDict.severityOf
  findingFromDict payload := if (payload.get? "id").isSome then some (FindingDict.fromDict payload) else none
  str := FindingDict.textOf
  casefold value := String.ofList (value.toList.map Char.toLower)
  sha256 := sampleDigest
  sha256_hex := sampleDigest_hex
  sha256Json _ := "104fa09699ac7ae0c2a3923a747959672071b8740ee3729d54035e7cff91f7e2"

/-- The dashes of a slug replace what was not plain. -/
example : Migration.legacySlug sampleLibrary "Tenant A" = "legacy-tenant-a-1a90c2ea536a" := by decide +kernel

end SharedIntegration

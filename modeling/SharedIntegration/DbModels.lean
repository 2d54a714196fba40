import SharedIntegration.JobTables

/-!
# The relational schema

Rows of the SQLAlchemy models with the columns that the repositories read or write, and the
unique constraints of each table. Enumerated columns hold the enumeration itself; surrogate
keys that nothing reads are left out.
-/

namespace SharedIntegration

open Relational

/-- `TenantRow`. -/
structure TenantRow where
  id : String
  slug : String
  name : String
  status : String
  retentionDays : ℕ
  createdAt : Instant
  updatedAt : Instant
deriving DecidableEq

/-- Primary key `id` and unique `slug`. -/
def TenantRow.Conflict (a b : TenantRow) : Prop := a.id = b.id ∨ a.slug = b.slug

/-- `JobRow`: the record of a job and the queue it was routed to. -/
structure JobRow extends JobRecord where
  queue : String

instance : JobColumns JobRow where
  record := JobRow.toJobRecord
  setRecord row record := { row with toJobRecord := record }
  record_setRecord _ _ := rfl

/-- `FindingStatus`. -/
inductive FindingStatus
  | opened | confirmed | resolved | falsePositive | acceptedRisk
deriving DecidableEq, Repr

/-- The stored text of a lifecycle status. -/
def FindingStatus.value : FindingStatus → String
  | .opened => "open"
  | .confirmed => "confirmed"
  | .resolved => "resolved"
  | .falsePositive => "false_positive"
  | .acceptedRisk => "accepted_risk"

/-- `FindingRow`. -/
structure FindingRow where
  rowId : ℕ
  tenantId : String
  findingId : String
  fingerprint : String
  source : FindingSource
  severity : FindingSeverity
  confidence : ℚ
  status : FindingStatus
  asset : Option String
  cve : Option String
  title : String
  description : String
  firstSeen : Instant
  lastSeen : Instant
  occurrences : ℕ
  jobId : Option String
  assignedTo : Option String
  payload : Document
  createdAt : Instant
  updatedAt : Instant

/-- Primary key `row_id`, unique `(tenant_id, finding_id)` and `(tenant_id, fingerprint)`. -/
def FindingRow.Conflict (a b : FindingRow) : Prop :=
  a.rowId = b.rowId ∨
    (a.tenantId = b.tenantId ∧ (a.findingId = b.findingId ∨ a.fingerprint = b.fingerprint))

/-- `CorrelationRow`. -/
structure CorrelationRow where
  id : String
  tenantId : String
  ruleId : String
  ruleVersion : String
  severity : FindingSeverity
  narrative : String
  createdAt : Instant
deriving DecidableEq

/-- Primary key `id`. -/
def CorrelationRow.Conflict (a b : CorrelationRow) : Prop := a.id = b.id

/-- `CorrelationFindingRow`. -/
structure CorrelationFindingRow where
  tenantId : String
  correlationId : String
  findingId : String
deriving DecidableEq

/-- All three columns form the primary key. -/
def CorrelationFindingRow.Conflict (a b : CorrelationFindingRow) : Prop := a = b

/-- `AuditEventRow`. -/
structure AuditEventRow where
  tenantId : String
  actor : String
  action : String
  resourceType : String
  resourceId : Option String
  requestId : Option String
  outcome : String
  details : Document
  createdAt : Instant

instance : DecidableRel TenantRow.Conflict := fun a b =>
  inferInstanceAs (Decidable (a.id = b.id ∨ a.slug = b.slug))

instance : DecidableRel FindingRow.Conflict := fun a b =>
  inferInstanceAs (Decidable (a.rowId = b.rowId ∨
    (a.tenantId = b.tenantId ∧ (a.findingId = b.findingId ∨ a.fingerprint = b.fingerprint))))

instance : DecidableRel CorrelationRow.Conflict := fun a b =>
  inferInstanceAs (Decidable (a.id = b.id))

instance : DecidableRel CorrelationFindingRow.Conflict := fun a b =>
  inferInstanceAs (Decidable (a = b))

/-- The tables that the job repository and the finding registry share. -/
structure Database where
  tenants : Table TenantRow TenantRow.Conflict
  jobTables : JobTables JobRow
  findings : Table FindingRow FindingRow.Conflict
  findingSequence : ℕ
  correlations : Table CorrelationRow CorrelationRow.Conflict
  correlationFindings : Table CorrelationFindingRow CorrelationFindingRow.Conflict
  auditEvents : List AuditEventRow

/-- A freshly migrated database. -/
def Database.empty : Database :=
  ⟨.empty, .empty, .empty, 1, .empty, .empty, []⟩

end SharedIntegration

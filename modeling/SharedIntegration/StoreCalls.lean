import SharedIntegration.FindingLifecycle
import SharedIntegration.RepositoryCalls

/-!
# Calls of the relational stores

The operations of the relational job repository and of the relational finding registry as data,
each bound to a tenant, and what a list of them does to the shared database. Page cursors are the
row ids that their texts encode. A read whose order the statement leaves open carries the order that
the database chooses.
-/

namespace SharedIntegration

open Relational FindingLifecycle

namespace FindingLifecycle

/-- The order in which a database returns the correlations and the links of a tenant where no `ORDER BY` fixes it.
It is assumed to depend on nothing but these rows. -/
structure ScanOrder where
  rows : List CorrelationRow → List CorrelationRow
  links : List CorrelationFindingRow → List CorrelationFindingRow
  rows_perm : ∀ stored, (rows stored).Perm stored
  links_perm : ∀ stored, (links stored).Perm stored

/-- The order in which they were stored. -/
def ScanOrder.stored : ScanOrder := ⟨id, id, List.Perm.refl, List.Perm.refl⟩

/-- `correlations`, oldest first; each names its findings by its links, in the order that the database returns. -/
def correlations (scan : ScanOrder) (db : Database) (tenantId : String) : List Correlation :=
  let rows := (scan.rows (db.correlations.select fun row => row.tenantId = tenantId)).insertionSort
    fun a b => a.createdAt ≤ b.createdAt
  let links := scan.links (db.correlationFindings.select fun link => link.tenantId = tenantId)
  rows.map fun row => ⟨row.ruleId, (links.filter fun link => link.correlationId = row.id).map
    CorrelationFindingRow.findingId, row.severity, row.narrative⟩

end FindingLifecycle

/-- One call of the finding registry. -/
inductive RegistryCall
  | addForJob (finding : Finding) (jobId : Option String)
  | addCorrelation (correlation : Correlation)
  | findings
  | correlations (scan : ScanOrder)
  | query (source : Option FindingSource) (severity : Option FindingSeverity) (host cve : Option String)
      (since : Option Instant) (limit : ℕ)
  | listPage (cursor : Option ℕ) (limit : ℕ) (source : Option FindingSource)
      (severity : Option FindingSeverity) (status : Option FindingStatus)
  | updateLifecycle (findingId : String) (status : Option FindingStatus)
      (assignedTo : Option (Option String)) (actor : String)

/-- What a call of the registry returns or raises. -/
inductive RegistryResult
  | done (result : CallResult)
  | findings (found : List Finding)
  | correlations (found : List Correlation)
  | page (records : List FindingLifecycleRecord) (next : Option ℕ)
  | record (record : Option FindingLifecycleRecord)

namespace RegistryCall

/-- Perform a call for a tenant. -/
def perform (core : CoreLibrary) (text : TextLibrary) (db : Database) (m : Moment) (tenantId : String) :
    RegistryCall → Database × RegistryResult
  | .addForJob finding jobId =>
    let (db', result) := FindingLifecycle.addForJob core text db m tenantId finding jobId
    (db', .done result)
  | .addCorrelation correlation =>
    let (db', result) := FindingLifecycle.addCorrelation db m tenantId correlation
    (db', .done result)
  | .findings => (db, .findings (FindingLifecycle.findings core db tenantId))
  | .correlations scan => (db, .correlations (FindingLifecycle.correlations scan db tenantId))
  | .query source severity host cve since limit =>
    (db, .findings (FindingLifecycle.query core db tenantId source severity host cve since limit))
  | .listPage cursor limit source severity status =>
    let (records, next) := FindingLifecycle.listPage core db tenantId cursor limit source severity status
    (db, .page records next)
  | .updateLifecycle findingId status assignedTo actor =>
    let (db', record) := FindingLifecycle.updateLifecycle core db m tenantId findingId status assignedTo actor
    (db', .record record)

end RegistryCall

/-- The tenant that a call of the job repository is bound to. -/
def RepositoryCall.tenantId : RepositoryCall → String
  | .create tenantId _ _ _ | .listJobs tenantId _ _ _ | .findByIdempotencyKey tenantId _ => tenantId
  | .get key | .markRunning key _ | .transition key _ _ _ _ | .appendEvent key _ _ | .listEvents key _ _
  | .setDispatchId key _ | .requestCancel key => key.tenantId

/-- A call of one of the two relational stores. -/
inductive StoreCall
  | jobs (call : RepositoryCall)
  | findings (tenantId : String) (call : RegistryCall)

/-- What a call of one of the stores returns or raises. -/
inductive StoreResult
  | jobs (result : RepositoryResult)
  | findings (result : RegistryResult)

namespace StoreCall

/-- The tenant that a call is bound to. -/
def tenantId : StoreCall → String
  | .jobs call => call.tenantId
  | .findings tenantId _ => tenantId

/-- Perform a call. -/
def perform (core : CoreLibrary) (text : TextLibrary) (db : Database) (m : Moment) :
    StoreCall → Database × StoreResult
  | .jobs call =>
    let (db', result) := (SqlJobs.queried core).perform db m call
    (db', .jobs result)
  | .findings tenantId call =>
    let (db', result) := call.perform core text db m tenantId
    (db', .findings result)

/-- The database after a run of calls. -/
def performAll (core : CoreLibrary) (text : TextLibrary) : Database → List (StoreCall × Moment) → Database
  | db, [] => db
  | db, (call, m) :: rest => performAll core text (call.perform core text db m).1 rest

/-- What the calls of a run that are bound to a tenant return to it, in order. -/
def resultsOf (core : CoreLibrary) (text : TextLibrary) (tenantId : String) :
    Database → List (StoreCall × Moment) → List StoreResult
  | _, [] => []
  | db, (call, m) :: rest =>
    let (db', result) := call.perform core text db m
    if call.tenantId = tenantId then result :: resultsOf core text tenantId db' rest
    else resultsOf core text tenantId db' rest

end StoreCall

/-! ### Renumbered rows -/

/-- A row of a finding under another row id. -/
def FindingRow.renumber (number : ℕ → ℕ) (row : FindingRow) : FindingRow := { row with rowId := number row.rowId }

/-- A record whose cursor has another row id. -/
def FindingLifecycle.FindingLifecycleRecord.renumber (number : ℕ → ℕ) (record : FindingLifecycleRecord) :
    FindingLifecycleRecord :=
  { record with cursor := number record.cursor }

/-- A call whose cursor has another row id. -/
def StoreCall.renumber (number : ℕ → ℕ) : StoreCall → StoreCall
  | .findings tenantId (.listPage cursor limit source severity status) =>
    .findings tenantId (.listPage (cursor.map number) limit source severity status)
  | call => call

/-- A result whose cursors have other row ids. -/
def StoreResult.renumber (number : ℕ → ℕ) : StoreResult → StoreResult
  | .findings (.page records next) => .findings (.page (records.map (·.renumber number)) (next.map number))
  | .findings (.record record) => .findings (.record (record.map (·.renumber number)))
  | result => result

end SharedIntegration

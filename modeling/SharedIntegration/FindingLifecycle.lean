import SharedIntegration.DbModels
import SharedIntegration.Execution
import SharedIntegration.Library.CanonicalJson
import SharedIntegration.SqlJobs

/-!
# The relational finding registry

`SQLAlchemyTenantFindingRegistry` on the shared schema, each call as one step. Findings are
deduplicated per tenant by a fingerprint of their identity; a duplicate is merged into the
row of its first occurrence, which keeps its id and its place.
-/

namespace SharedIntegration

open Relational

/-- Python's text functions and the digest of a canonical JSON text, as fingerprints use them. -/
structure TextLibrary where
  strip : String → String
  casefold : String → String
  upper : String → String
  digest : Document → String

/-- The metadata keys that locate a finding. -/
def locatorKeys : List String :=
  ["asset", "component", "file", "line", "path", "rule_id", "symbol"]

/-- The dictionary that `finding_fingerprint` digests. -/
def findingIdentity (core : CoreLibrary) (text : TextLibrary) (finding : Finding) : Document :=
  .obj [("source", .str (core.sourceValue finding.source)),
    ("title", .str (text.casefold (text.strip finding.title))),
    ("host", .str (text.casefold (text.strip (finding.host.getD "")))),
    ("cve", .str (text.upper (text.strip (finding.cve.getD "")))),
    ("locators", .obj (locatorKeys.filterMap fun key =>
      (finding.metadata.get? key).map fun value => (key, value)))]

/-- The bytes that `finding_fingerprint` hashes; nothing if `json.dumps` raises, or `encode` on a surrogate. -/
def canonicalBytes (core : CoreLibrary) (text : TextLibrary) (writer : Json.Writer String PyFloat) (nesting : ℕ)
    (finding : Finding) : Option (List UInt8) :=
  (Json.dumps writer nesting (findingIdentity core text finding)).bind PyText.encodeUtf8

/-- `finding_fingerprint`, where it does not raise. -/
def findingFingerprint (core : CoreLibrary) (text : TextLibrary) (finding : Finding) : String :=
  text.digest (findingIdentity core text finding)

/-- `_merge_findings`. -/
def mergeFindings (existing incoming : Finding) : Finding :=
  { incoming with
    id := existing.id
    severity := if existing.severity.rank < incoming.severity.rank then incoming.severity
      else existing.severity
    confidence := max existing.confidence incoming.confidence
    evidence := (existing.evidence ++ incoming.evidence).eraseDups
    related := (existing.related ++ incoming.related).eraseDups
    tags := existing.tags ∪ incoming.tags }

/-- When a finding was seen: its own time, or the clock. The columns hold it as long as they keep offsets or the
time is in UTC; SQLite drops the offset. -/
def seenAt (finding : Finding) (now : Instant) : Instant :=
  match finding.ts with
  | some ts => asUtc ts
  | none => now

/-- `job_id or row.job_id`. -/
def jobOr (jobId stored : Option String) : Option String :=
  match jobId with
  | some text => if text = "" then stored else some text
  | none => stored

namespace FindingRow

/-- The row of a first occurrence. -/
def created (core : CoreLibrary) (text : TextLibrary) (rowId : ℕ) (tenantId : String)
    (finding : Finding) (jobId : Option String) (now : Instant) : FindingRow where
  rowId := rowId
  tenantId := tenantId
  findingId := finding.id
  fingerprint := findingFingerprint core text finding
  source := finding.source
  severity := finding.severity
  confidence := finding.confidence
  status := .opened
  asset := finding.host
  cve := finding.cve
  title := finding.title
  description := finding.description
  firstSeen := seenAt finding now
  lastSeen := seenAt finding now
  occurrences := 1
  jobId := jobId
  assignedTo := none
  payload := core.toDict finding
  createdAt := now
  updatedAt := now

/-- `_finding_from_row`. -/
def finding (core : CoreLibrary) (row : FindingRow) : Finding := core.fromDict row.payload

/-- The columns written when a locked row is merged with a further occurrence. -/
def merge (core : CoreLibrary) (incoming : Finding) (jobId : Option String) (now : Instant)
    (row : FindingRow) : FindingRow :=
  let merged := mergeFindings (row.finding core) incoming
  { row with
    severity := merged.severity
    confidence := merged.confidence
    description := merged.description
    lastSeen := max row.lastSeen (seenAt incoming now)
    firstSeen := min row.firstSeen (seenAt incoming now)
    occurrences := row.occurrences + 1
    jobId := jobOr jobId row.jobId
    payload := core.toDict merged
    updatedAt := now }

/-- The columns written when a concurrent insert has won the unique constraint. -/
def mergeLost (core : CoreLibrary) (incoming : Finding) (now : Instant) (row : FindingRow) :
    FindingRow :=
  { row with
    occurrences := row.occurrences + 1
    lastSeen := max row.lastSeen (seenAt incoming now)
    payload := core.toDict (mergeFindings (row.finding core) incoming)
    updatedAt := now }

/-- The columns written by `update_lifecycle`; the outer option of an assignment says whether
one was given. -/
def triage (status : Option FindingStatus) (assignedTo : Option (Option String)) (now : Instant)
    (row : FindingRow) : FindingRow :=
  { row with
    status := status.getD row.status
    assignedTo := assignedTo.getD row.assignedTo
    updatedAt := now }

/-- A change of columns that no unique constraint of the finding table reads. -/
theorem keepsKeys {change : FindingRow → FindingRow} (hrow : ∀ row, (change row).rowId = row.rowId)
    (htenant : ∀ row, (change row).tenantId = row.tenantId)
    (hid : ∀ row, (change row).findingId = row.findingId)
    (hfingerprint : ∀ row, (change row).fingerprint = row.fingerprint) :
    KeepsKeys FindingRow.Conflict change where
  left a b := by simp [Conflict, hrow, htenant, hid, hfingerprint]
  right a b := by simp [Conflict, hrow, htenant, hid, hfingerprint]

/-- Merging touches no key column. -/
theorem merge_keeps (core : CoreLibrary) (incoming : Finding) (jobId : Option String)
    (now : Instant) : KeepsKeys FindingRow.Conflict (merge core incoming jobId now) :=
  keepsKeys (fun _ => rfl) (fun _ => rfl) (fun _ => rfl) fun _ => rfl

/-- The fallback merge touches no key column. -/
theorem mergeLost_keeps (core : CoreLibrary) (incoming : Finding) (now : Instant) :
    KeepsKeys FindingRow.Conflict (mergeLost core incoming now) :=
  keepsKeys (fun _ => rfl) (fun _ => rfl) (fun _ => rfl) fun _ => rfl

/-- Triage touches no key column. -/
theorem triage_keeps (status : Option FindingStatus) (assignedTo : Option (Option String))
    (now : Instant) : KeepsKeys FindingRow.Conflict (triage status assignedTo now) :=
  keepsKeys (fun _ => rfl) (fun _ => rfl) (fun _ => rfl) fun _ => rfl

end FindingRow

namespace FindingLifecycle

variable (core : CoreLibrary) (text : TextLibrary)

/-- The row of a tenant with a fingerprint. -/
def findFingerprint (findings : Table FindingRow FindingRow.Conflict) (tenantId fingerprint : String) :
    Option FindingRow :=
  findings.find fun row => row.tenantId = tenantId ∧ row.fingerprint = fingerprint

/-- Change the row of a tenant with a fingerprint. -/
def updateFingerprint (findings : Table FindingRow FindingRow.Conflict)
    (tenantId fingerprint : String) (change : FindingRow → FindingRow)
    (hchange : KeepsKeys FindingRow.Conflict change) : Table FindingRow FindingRow.Conflict :=
  findings.update (fun row => row.tenantId = tenantId ∧ row.fingerprint = fingerprint) change hchange

/-- The first transaction of `_store_finding`; `none` is an integrity error. -/
def storeLocked (db : Database) (m : Moment) (tenantId : String) (finding : Finding)
    (jobId : Option String) : Option Database := do
  let fingerprint := findingFingerprint core text finding
  let tenants ← SqlJobs.ensureTenant db.tenants tenantId m.now
  match findFingerprint db.findings tenantId fingerprint with
  | none =>
    let findings ← db.findings.insert
      (.created core text db.findingSequence tenantId finding jobId m.now)
    some { db with tenants, findings, findingSequence := db.findingSequence + 1 }
  | some _ =>
    let findings := updateFingerprint db.findings tenantId fingerprint
      (.merge core finding jobId m.now) (FindingRow.merge_keeps core finding jobId m.now)
    some { db with tenants, findings }

/-- The second transaction of `_store_finding`; `none` re-raises the integrity error. -/
def storeLost (db : Database) (m : Moment) (tenantId : String) (finding : Finding) :
    Option Database :=
  let fingerprint := findingFingerprint core text finding
  match findFingerprint db.findings tenantId fingerprint with
  | none => none
  | some _ =>
    let findings := updateFingerprint db.findings tenantId fingerprint
      (.mergeLost core finding m.now) (FindingRow.mergeLost_keeps core finding m.now)
    some { db with findings }

/-- `_store_finding`, as long as no other transaction interferes. -/
def storeFinding (db : Database) (m : Moment) (tenantId : String) (finding : Finding)
    (jobId : Option String) : Option Database :=
  (storeLocked core text db m tenantId finding jobId).or (storeLost core text db m tenantId finding)

/-- `add_for_job` of a finding that has a fingerprint, with values that the columns take. -/
def addForJob (db : Database) (m : Moment) (tenantId : String) (finding : Finding)
    (jobId : Option String) : Database × CallResult :=
  match storeFinding core text db m tenantId finding jobId with
  | some db' => (db', .ok ())
  | none => (db, .error RepositoryError.integrityError.message)

/-- The transaction of `add_correlation`; `none` is an integrity error. -/
def insertCorrelation (db : Database) (m : Moment) (tenantId : String) (correlation : Correlation) :
    Option Database := do
  let correlationId := "corr_" ++ m.uuid
  let tenants ← SqlJobs.ensureTenant db.tenants tenantId m.now
  let correlations ← db.correlations.insert ⟨correlationId, tenantId, correlation.ruleId, "1",
    correlation.severity, correlation.narrative, m.now⟩
  let correlationFindings ← correlation.findings.foldlM
    (fun links findingId => links.insert ⟨tenantId, correlationId, findingId⟩) db.correlationFindings
  some { db with tenants, correlations, correlationFindings }

/-- `add_correlation`. -/
def addCorrelation (db : Database) (m : Moment) (tenantId : String) (correlation : Correlation) :
    Database × CallResult :=
  match insertCorrelation db m tenantId correlation with
  | some db' => (db', .ok ())
  | none => (db, .error RepositoryError.integrityError.message)

/-- `findings`. -/
def findings (db : Database) (tenantId : String) : List Finding :=
  (orderBy FindingRow.rowId (db.findings.select fun row => row.tenantId = tenantId)).map
    (FindingRow.finding core)

/-- The optional filters of `query` and `list_page` on the columns of a row. -/
structure RowFilter where
  source : Option FindingSource
  severity : Option FindingSeverity
  host : Option String
  cve : Option String
  status : Option FindingStatus
  since : Option Instant

/-- A column equals the wanted value, if one is wanted; SQL never matches a null. -/
def wants {Value : Type} [DecidableEq Value] (wanted : Option Value) (column : Option Value) : Bool :=
  wanted.all fun value => column = some value

/-- The `WHERE` clauses of the filters. -/
def RowFilter.selects (filter : RowFilter) (row : FindingRow) : Bool :=
  wants filter.source (some row.source) && wants filter.severity (some row.severity) &&
    wants filter.host row.asset && wants filter.cve row.cve && wants filter.status (some row.status) &&
    filter.since.all fun since => since ≤ row.lastSeen

/-- `query`, newest first. -/
def query (db : Database) (tenantId : String) (source : Option FindingSource)
    (severity : Option FindingSeverity) (host cve : Option String) (since : Option Instant)
    (limit : ℕ) : List Finding :=
  let rows := db.findings.select fun row => row.tenantId = tenantId &&
    RowFilter.selects ⟨source, severity, host, cve, none, since⟩ row
  ((rows.insertionSort fun a b => b.lastSeen ≤ a.lastSeen).take limit).map (FindingRow.finding core)

/-- `FindingLifecycleRecord`; the cursor is the row id that its text encodes. -/
structure FindingLifecycleRecord where
  finding : Finding
  fingerprint : String
  status : FindingStatus
  firstSeen : Instant
  lastSeen : Instant
  occurrences : ℕ
  jobId : Option String
  assignedTo : Option String
  cursor : ℕ

/-- `_record_from_row`. -/
def recordFromRow (row : FindingRow) : FindingLifecycleRecord :=
  ⟨row.finding core, row.fingerprint, row.status, row.firstSeen, row.lastSeen, row.occurrences,
    row.jobId, row.assignedTo, row.rowId⟩

/-- `list_page`, with the cursor already decoded. -/
def listPage (db : Database) (tenantId : String) (cursor : Option ℕ) (limit : ℕ)
    (source : Option FindingSource) (severity : Option FindingSeverity)
    (status : Option FindingStatus) : List FindingLifecycleRecord × Option ℕ :=
  let selected := db.findings.select fun row => row.tenantId = tenantId &&
    (cursor.all fun before => row.rowId < before) &&
    RowFilter.selects ⟨source, severity, none, none, status, none⟩ row
  let rows := (orderBy FindingRow.rowId selected).reverse.take (limit + 1)
  let page := rows.take limit
  (page.map (recordFromRow core),
    if limit < rows.length then page.getLast?.map FindingRow.rowId else none)

/-- The `changes` that `update_lifecycle` audits. -/
def triageChanges (status : Option FindingStatus) (assignedTo : Option (Option String))
    (row : FindingRow) : Document :=
  let statusChange : List (String × Document) := match status with
    | some status =>
      if status = row.status then []
      else [("status", .obj [("from", .str row.status.value), ("to", .str status.value)])]
    | none => []
  let assignmentChange : List (String × Document) := match assignedTo with
    | some assignedTo =>
      if assignedTo = row.assignedTo then []
      else [("assigned_to", .obj [("from", nullable row.assignedTo), ("to", nullable assignedTo)])]
    | none => []
  .obj (statusChange ++ assignmentChange)

/-- `update_lifecycle`; nothing happens when the tenant has no such finding. -/
def updateLifecycle (db : Database) (m : Moment) (tenantId findingId : String)
    (status : Option FindingStatus) (assignedTo : Option (Option String)) (actor : String) :
    Database × Option FindingLifecycleRecord :=
  match db.findings.find fun row => row.tenantId = tenantId ∧ row.findingId = findingId with
  | none => (db, none)
  | some row =>
    let findings := db.findings.update
      (fun row => row.tenantId = tenantId ∧ row.findingId = findingId)
      (.triage status assignedTo m.now) (FindingRow.triage_keeps status assignedTo m.now)
    let auditEvents := db.auditEvents ++ [⟨tenantId, actor, "finding.updated", "finding",
      some findingId, none, "success", triageChanges status assignedTo row, m.now⟩]
    ({ db with findings, auditEvents }, some (recordFromRow core (row.triage status assignedTo m.now)))

/-- Two rows of one fingerprint are one. -/
theorem row_unique (findings : Table FindingRow FindingRow.Conflict) {row row' : FindingRow}
    (hrow : row ∈ findings.rows) (hrow' : row' ∈ findings.rows) (htenant : row.tenantId = row'.tenantId)
    (hfingerprint : row.fingerprint = row'.fingerprint) : row = row' := by
  have hfind : ∀ found ∈ findings.rows, found.tenantId = row'.tenantId →
      found.fingerprint = row'.fingerprint →
      findFingerprint findings row'.tenantId row'.fingerprint = some found := by
    intro found hfound htenant hfingerprint
    refine findings.find_eq_some_of_mem _ ?_ hfound (by simp [htenant, hfingerprint])
    intro a b ha hb
    rw [decide_eq_true_eq] at ha hb
    exact .inr ⟨ha.1.trans hb.1.symm, .inr (ha.2.trans hb.2.symm)⟩
  have hfirst := hfind row hrow htenant hfingerprint
  rw [hfind row' hrow' rfl rfl, Option.some.injEq] at hfirst
  exact hfirst.symm

/-- The row found by a fingerprint has that fingerprint. -/
theorem fingerprint_of_find {findings : Table FindingRow FindingRow.Conflict}
    {tenantId fingerprint : String} {row : FindingRow}
    (hrow : findFingerprint findings tenantId fingerprint = some row) :
    row ∈ findings.rows ∧ row.tenantId = tenantId ∧ row.fingerprint = fingerprint := by
  obtain ⟨hmem, hselected⟩ := Table.find_eq_some hrow
  rw [decide_eq_true_eq] at hselected
  exact ⟨hmem, hselected⟩

/-- An update by fingerprint leaves the changed row, and rows of other fingerprints. -/
theorem mem_updateFingerprint {findings : Table FindingRow FindingRow.Conflict}
    {tenantId fingerprint : String} {change : FindingRow → FindingRow}
    (hchange : KeepsKeys FindingRow.Conflict change) {row row' : FindingRow}
    (hrow : findFingerprint findings tenantId fingerprint = some row)
    (hmem : row' ∈ (updateFingerprint findings tenantId fingerprint change hchange).rows) :
    row' = change row ∨
      row' ∈ findings.rows ∧ ¬ (row'.tenantId = tenantId ∧ row'.fingerprint = fingerprint) := by
  obtain ⟨old, hold, rfl⟩ := List.mem_map.mp hmem
  obtain ⟨hfound, htenant, hfingerprint⟩ := fingerprint_of_find hrow
  dsimp only
  by_cases hselected : old.tenantId = tenantId ∧ old.fingerprint = fingerprint
  · rw [if_pos (by simpa using hselected)]
    have hsame := row_unique findings hold hfound (hselected.1.trans htenant.symm)
      (hselected.2.trans hfingerprint.symm)
    exact .inl (by rw [hsame])
  · rw [if_neg (by simpa using hselected)]
    exact .inr ⟨hold, hselected⟩

/-- The row found by a fingerprint is changed by an update of that fingerprint. -/
theorem change_mem_updateFingerprint {findings : Table FindingRow FindingRow.Conflict}
    {tenantId fingerprint : String} {change : FindingRow → FindingRow}
    (hchange : KeepsKeys FindingRow.Conflict change) {row : FindingRow}
    (hrow : findFingerprint findings tenantId fingerprint = some row) :
    change row ∈ (updateFingerprint findings tenantId fingerprint change hchange).rows := by
  obtain ⟨hmem, hselected⟩ := Table.find_eq_some hrow
  exact List.mem_map.mpr ⟨row, hmem, if_pos hselected⟩

variable {core text} in
/-- The first transaction sees to the tenant; then it inserts a first occurrence and merges a further one. -/
theorem storeLocked_cases {db db' : Database} {m : Moment} {tenantId : String} {finding : Finding}
    {jobId : Option String} (h : storeLocked core text db m tenantId finding jobId = some db') :
    ∃ tenants, SqlJobs.ensureTenant db.tenants tenantId m.now = some tenants ∧
    ((findFingerprint db.findings tenantId (findingFingerprint core text finding) = none ∧
      ∃ findings, db.findings.insert (.created core text db.findingSequence tenantId finding jobId m.now) =
          some findings ∧
        db' = { db with tenants, findings, findingSequence := db.findingSequence + 1 }) ∨
    ∃ row, findFingerprint db.findings tenantId (findingFingerprint core text finding) = some row ∧
      db' = { db with
        tenants
        findings := updateFingerprint db.findings tenantId (findingFingerprint core text finding)
          (.merge core finding jobId m.now) (FindingRow.merge_keeps core finding jobId m.now) }) := by
  unfold storeLocked at h
  obtain ⟨tenants, hensure, h⟩ := Option.bind_eq_some_iff.mp h
  refine ⟨tenants, hensure, ?_⟩
  split at h
  · next hnone =>
    obtain ⟨findings, hinsert, h⟩ := Option.bind_eq_some_iff.mp h
    cases h
    exact .inl ⟨hnone, findings, hinsert, rfl⟩
  · next row hrow =>
    cases h
    exact .inr ⟨row, hrow, rfl⟩

variable {core text} in
/-- The second transaction merges into the row it finds. -/
theorem storeLost_cases {db db' : Database} {m : Moment} {tenantId : String} {finding : Finding}
    (h : storeLost core text db m tenantId finding = some db') :
    ∃ row, findFingerprint db.findings tenantId (findingFingerprint core text finding) = some row ∧
      db' = { db with
        findings := updateFingerprint db.findings tenantId (findingFingerprint core text finding)
          (.mergeLost core finding m.now) (FindingRow.mergeLost_keeps core finding m.now) } := by
  unfold storeLost at h
  dsimp only at h
  split at h
  · cases h
  · next row hrow =>
    cases h
    exact ⟨row, hrow, rfl⟩

variable {core text} in
/-- What the two transactions of a store that returned have done. -/
theorem storeFinding_eq_some {db db' : Database} {m : Moment} {tenantId : String} {finding : Finding}
    {jobId : Option String} (h : storeFinding core text db m tenantId finding jobId = some db') :
    storeLocked core text db m tenantId finding jobId = some db' ∨
      storeLocked core text db m tenantId finding jobId = none ∧
        storeLost core text db m tenantId finding = some db' :=
  Option.or_eq_some_iff.mp h

/-- Storing a finding leaves jobs and correlations alone. -/
theorem storeFinding_same {db db' : Database} {m : Moment} {tenantId : String}
    {finding : Finding} {jobId : Option String}
    (h : storeFinding core text db m tenantId finding jobId = some db') :
    db'.jobTables = db.jobTables ∧ db'.correlations = db.correlations ∧
      db'.correlationFindings = db.correlationFindings := by
  rcases storeFinding_eq_some h with hlocked | ⟨-, hlost⟩
  · obtain ⟨tenants, -, ⟨-, findings, -, rfl⟩ | ⟨row, -, rfl⟩⟩ := storeLocked_cases hlocked
    · exact ⟨rfl, rfl, rfl⟩
    · exact ⟨rfl, rfl, rfl⟩
  · obtain ⟨row, -, rfl⟩ := storeLost_cases hlost
    exact ⟨rfl, rfl, rfl⟩

variable {core text} in
/-- Storing a finding inserts a first occurrence, or merges it into the row found by its
fingerprint. -/
theorem storeFinding_cases {db db' : Database} {m : Moment} {tenantId : String} {finding : Finding}
    {jobId : Option String} (h : storeFinding core text db m tenantId finding jobId = some db') :
    (findFingerprint db.findings tenantId (findingFingerprint core text finding) = none ∧
      db.findings.insert (.created core text db.findingSequence tenantId finding jobId m.now) =
        some db'.findings) ∨
    ∃ row change, ∃ hchange : KeepsKeys FindingRow.Conflict change,
      findFingerprint db.findings tenantId (findingFingerprint core text finding) = some row ∧
      db'.findings = updateFingerprint db.findings tenantId (findingFingerprint core text finding)
        change hchange ∧
      (change = .merge core finding jobId m.now ∨ change = .mergeLost core finding m.now) := by
  rcases storeFinding_eq_some h with hlocked | ⟨-, hlost⟩
  · obtain ⟨tenants, -, ⟨hnone, findings, hinsert, rfl⟩ | ⟨row, hrow, rfl⟩⟩ := storeLocked_cases hlocked
    · exact .inl ⟨hnone, hinsert⟩
    · exact .inr ⟨row, _, FindingRow.merge_keeps core finding jobId m.now, hrow, rfl, .inl rfl⟩
  · obtain ⟨row, hrow, rfl⟩ := storeLost_cases hlost
    exact .inr ⟨row, _, FindingRow.mergeLost_keeps core finding m.now, hrow, rfl, .inr rfl⟩

/-- Storing a correlation sees to the tenant and inserts a row and its links. -/
theorem insertCorrelation_eq_some {db db' : Database} {m : Moment} {tenantId : String} {correlation : Correlation}
    (h : insertCorrelation db m tenantId correlation = some db') :
    ∃ tenants correlations correlationFindings, SqlJobs.ensureTenant db.tenants tenantId m.now = some tenants ∧
      db.correlations.insert ⟨"corr_" ++ m.uuid, tenantId, correlation.ruleId, "1", correlation.severity,
        correlation.narrative, m.now⟩ = some correlations ∧
      correlation.findings.foldlM
        (fun links findingId => links.insert ⟨tenantId, "corr_" ++ m.uuid, findingId⟩) db.correlationFindings =
          some correlationFindings ∧
      db' = { db with tenants, correlations, correlationFindings } := by
  unfold insertCorrelation at h
  obtain ⟨tenants, hensure, h⟩ := Option.bind_eq_some_iff.mp h
  obtain ⟨correlations, hinsert, h⟩ := Option.bind_eq_some_iff.mp h
  obtain ⟨links, hlinks, h⟩ := Option.bind_eq_some_iff.mp h
  cases h
  exact ⟨tenants, correlations, links, hensure, hinsert, hlinks, rfl⟩

/-- Storing a correlation leaves the jobs and the findings alone. -/
theorem insertCorrelation_same {db db' : Database} {m : Moment} {tenantId : String}
    {correlation : Correlation} (h : insertCorrelation db m tenantId correlation = some db') :
    db'.jobTables = db.jobTables ∧ db'.findings = db.findings := by
  obtain ⟨tenants, correlations, links, -, -, -, rfl⟩ := insertCorrelation_eq_some h
  exact ⟨rfl, rfl⟩

/-- Storing a correlation adds links to the findings it names, and nothing else. -/
theorem mem_insertCorrelation {db db' : Database} {m : Moment} {tenantId : String}
    {correlation : Correlation} (h : insertCorrelation db m tenantId correlation = some db')
    {link : CorrelationFindingRow} :
    link ∈ db'.correlationFindings.rows ↔ link ∈ db.correlationFindings.rows ∨
      link.tenantId = tenantId ∧ link.correlationId = "corr_" ++ m.uuid ∧
        link.findingId ∈ correlation.findings := by
  obtain ⟨tenants, correlations, links, -, -, hlinks, rfl⟩ := insertCorrelation_eq_some h
  dsimp only
  generalize db.correlationFindings = old at hlinks
  generalize correlation.findings = ids at hlinks
  induction ids generalizing old with
  | nil =>
    cases hlinks
    simp
  | cons id ids ih =>
    rw [List.foldlM_cons] at hlinks
    obtain ⟨next, hnext, hlinks⟩ := Option.bind_eq_some_iff.mp hlinks
    rw [ih next hlinks, (Table.insert_eq_some hnext).1, List.mem_append, List.mem_singleton, List.mem_cons,
      or_assoc]
    refine or_congr_right ?_
    constructor
    · rintro (rfl | ⟨htenant, hcorrelation, hid⟩)
      · exact ⟨rfl, rfl, .inl rfl⟩
      · exact ⟨htenant, hcorrelation, .inr hid⟩
    · rintro ⟨rfl, hcorrelation, rfl | hid⟩
      · exact .inl (by cases link; simp_all)
      · exact .inr ⟨rfl, hcorrelation, hid⟩

end FindingLifecycle

/-- The relational job repository and the relational registry on one database. -/
def relationalBackend (core : CoreLibrary) (text : TextLibrary) : Backend Database where
  toJobRepository := sqlAlchemyJobRepository core
  core := core
  findings db tenantId := .ok (FindingLifecycle.findings core db tenantId)
  addForJob := FindingLifecycle.addForJob core text
  addCorrelation := FindingLifecycle.addCorrelation
  addForJob_view db m tenantId finding jobId := by
    unfold FindingLifecycle.addForJob
    split
    · next db' hstore =>
      change JobTables.view db'.jobTables = JobTables.view db.jobTables
      rw [(FindingLifecycle.storeFinding_same core text hstore).1]
    · rfl
  addCorrelation_view db m tenantId correlation := by
    unfold FindingLifecycle.addCorrelation
    split
    · next db' hinsert =>
      change JobTables.view db'.jobTables = JobTables.view db.jobTables
      rw [(FindingLifecycle.insertCorrelation_same hinsert).1]
    · rfl

end SharedIntegration

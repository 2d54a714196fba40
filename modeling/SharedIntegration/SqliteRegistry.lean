import SharedIntegration.Core
import SharedIntegration.Library.Retention

/-!
# The SQLite finding registry

`SQLiteTenantFindingRegistry` on its two tables, each call as one step. Payload columns hold the documents
that their texts encode. A call is bound to a tenant, and rows of all tenants share the counters.
-/

namespace SharedIntegration

open Retention

/-- The columns of `findings` besides its key and its tenant. -/
structure SqliteFinding where
  findingId : String
  payload : Document

namespace SqliteRegistry

/-- The database file: the tables `findings`, unique in `(tenant_id, finding_id)`, and `correlations`. -/
structure State where
  findings : NumberedTable String SqliteFinding
  correlations : NumberedTable String Document
  unique : findings.rows.Pairwise fun a b => ¬(a.owner = b.owner ∧ a.columns.findingId = b.columns.findingId)

/-- A new database file. -/
def State.empty : State := ⟨.empty, .empty, List.Pairwise.nil⟩

variable (core : CoreLibrary) (maxSize : ℕ)

/-- The row of a tenant with a finding id. -/
def isRowOf (tenantId findingId : String) (row : Numbered String SqliteFinding) : Bool :=
  row.owner = tenantId && row.columns.findingId = findingId

/-- `INSERT INTO findings ... ON CONFLICT ... DO UPDATE`. -/
def upsert (db : State) (tenantId findingId : String) (payload : Document) : State :=
  if hany : db.findings.rows.any (isRowOf tenantId findingId) then
    { db with
      findings := db.findings.update (isRowOf tenantId findingId) ⟨findingId, payload⟩
      unique := by
        rw [NumberedTable.update, List.pairwise_map]
        refine db.unique.imp fun {a b} hne heq => hne ?_
        have hkey : ∀ row : Numbered String SqliteFinding,
            (if isRowOf tenantId findingId row then { row with columns := ⟨findingId, payload⟩ } else row).owner =
              row.owner ∧
            (if isRowOf tenantId findingId row then
              { row with columns := ⟨findingId, payload⟩ } else row).columns.findingId = row.columns.findingId := by
          intro row
          split
          · next hrow =>
            rw [isRowOf, Bool.and_eq_true, decide_eq_true_eq, decide_eq_true_eq] at hrow
            exact ⟨rfl, hrow.2.symm⟩
          · exact ⟨rfl, rfl⟩
        rw [(hkey a).1, (hkey a).2, (hkey b).1, (hkey b).2] at heq
        exact heq }
  else
    { db with
      findings := db.findings.append tenantId ⟨findingId, payload⟩
      unique := by
        rw [NumberedTable.append, List.pairwise_append]
        refine ⟨db.unique, List.pairwise_singleton _ _, fun a ha b hb => ?_⟩
        rw [List.mem_singleton.mp hb]
        rintro ⟨howner, hid⟩
        refine hany (List.any_eq_true.mpr ⟨a, ha, ?_⟩)
        rw [isRowOf, Bool.and_eq_true, decide_eq_true_eq, decide_eq_true_eq]
        exact ⟨howner, hid⟩ }

/-- `_prune` of `findings`. -/
def pruneFindings (db : State) (tenantId : String) : State :=
  { db with
    findings := db.findings.prune tenantId maxSize
    unique := db.unique.sublist List.filter_sublist }

/-- `_prune` of `correlations`. -/
def pruneCorrelations (db : State) (tenantId : String) : State :=
  { db with correlations := db.correlations.prune tenantId maxSize }

/-- `_store_finding`, which `add` and `add_sync` call. -/
def storeFinding (db : State) (tenantId : String) (finding : Finding) : State :=
  pruneFindings maxSize (upsert db tenantId finding.id (core.toDict finding)) tenantId

/-- `_correlation_to_json`. -/
def correlationToJson (correlation : Correlation) : Document :=
  .obj [("rule_id", .str correlation.ruleId), ("findings", .arr (correlation.findings.map .str)),
    ("severity", .str (core.severityValue correlation.severity)), ("narrative", .str correlation.narrative)]

/-- `FindingSeverity(value)`. -/
def severityOf (value : String) : Option FindingSeverity :=
  [FindingSeverity.info, .low, .medium, .high, .critical].find? fun severity => core.severityValue severity = value

/-- `_correlation_from_json`; nothing is an exception. -/
def correlationFromJson (payload : Document) : Option Correlation := do
  let ruleId ← (payload.get? "rule_id").bind Json.asStr?
  let .arr items ← payload.get? "findings" | none
  let findings ← items.mapM Json.asStr?
  let severity ← ((payload.get? "severity").bind Json.asStr?).bind (severityOf core)
  let narrative ← (payload.get? "narrative").bind Json.asStr?
  return ⟨ruleId, findings, severity, narrative⟩

/-- `add_correlation`. -/
def addCorrelation (db : State) (tenantId : String) (correlation : Correlation) : State :=
  pruneCorrelations maxSize
    { db with correlations := db.correlations.append tenantId (correlationToJson core correlation) } tenantId

/-- `findings`. -/
def findings (db : State) (tenantId : String) : List Finding :=
  (db.findings.oldestFirst tenantId).map fun row => core.fromDict row.payload

/-- `correlations`. -/
def correlations (db : State) (tenantId : String) : Option (List Correlation) :=
  (db.correlations.oldestFirst tenantId).mapM (correlationFromJson core)

/-- The filters of `query`. -/
structure Query where
  source : Option FindingSource
  severity : Option FindingSeverity
  host : Option String
  cve : Option String
  since : Option Timestamp

/-- The filters that compare a field. -/
def Query.selects (query : Query) (finding : Finding) : Bool :=
  query.source.all (fun source => finding.source = source) &&
    query.severity.all (fun severity => finding.severity = severity) &&
    query.host.all (fun host => finding.host = some host) && query.cve.all fun cve => finding.cve = some cve

/-- `finding.ts < since`; datetimes of different awareness do not compare. -/
def earlier (ts since : Timestamp) : Except String Bool :=
  if ts.aware = since.aware then .ok (ts.micros < since.micros)
  else .error "can't compare offset-naive and offset-aware datetimes"

/-- Whether a finding passes all filters. -/
def Query.admits (query : Query) (finding : Finding) : Except String Bool :=
  if query.selects finding then
    match query.since, finding.ts with
    | some since, some ts => (earlier ts since).map fun before => !before
    | _, _ => .ok true
  else .ok false

/-- The loop of `query` over the findings that are left, with the results so far. -/
def scan (query : Query) (limit : ℕ) (results : List Finding) : List Finding → Except String (List Finding)
  | [] => .ok results
  | finding :: rest => do
    if ← query.admits finding then
      if limit ≤ (results ++ [finding]).length then return results ++ [finding]
      else scan query limit (results ++ [finding]) rest
    else scan query limit results rest

/-- `query`. -/
def query (db : State) (tenantId : String) (query : Query) (limit : ℕ) : Except String (List Finding) :=
  scan query limit [] ((db.findings.newestFirst tenantId).map fun row => core.fromDict row.payload)

end SqliteRegistry

end SharedIntegration

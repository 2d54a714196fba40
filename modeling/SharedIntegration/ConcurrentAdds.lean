import SharedIntegration.Creation
import SharedIntegration.DedupFold
import SharedIntegration.StoreCalls

/-!
# Concurrent adds of findings

`_store_finding` as the statements of its two transactions; between any two of them other calls may
run. `SELECT ... FOR UPDATE` reads the committed row of a fingerprint and locks it until the
transaction ends, and waits for a row that is locked. An insert that is refused rolls its transaction
back, the tenant row included, and the second transaction begins.
-/

namespace SharedIntegration

open Relational Transition FindingLifecycle

/-- A row without the id that the sequence gave it. -/
def FindingRow.unnumbered (row : FindingRow) : FindingRow := row.renumber fun _ => 0

/-- `UPDATE ... WHERE row_id = ...`: the columns of another version of the row, except its keys. -/
def FindingRow.overwrite (version row : FindingRow) : FindingRow :=
  { version with
    rowId := row.rowId
    tenantId := row.tenantId
    findingId := row.findingId
    fingerprint := row.fingerprint }

/-- Overwriting touches no key column. -/
theorem FindingRow.overwrite_keeps (version : FindingRow) : KeepsKeys FindingRow.Conflict version.overwrite :=
  keepsKeys (fun _ => rfl) (fun _ => rfl) (fun _ => rfl) fun _ => rfl

namespace ConcurrentAdds

/-- What a transaction has written to the findings and not committed: a new row, or a new version of
the row that it has locked. -/
inductive Write
  | insert (row : FindingRow)
  | update (version : FindingRow)

/-- The row that a transaction has written. -/
def Write.row : Write → FindingRow
  | .insert row | .update row => row

/-- The findings with the write of a transaction. -/
def Write.apply (findings : Table FindingRow FindingRow.Conflict) :
    Write → Option (Table FindingRow FindingRow.Conflict)
  | .insert row => findings.insert row
  | .update version =>
    some (findings.update (fun row => row.rowId = version.rowId) version.overwrite version.overwrite_keeps)

/-- Where a call of `_store_finding` stands. The tenant row that its transaction has inserted is kept
until the commit. -/
inductive Pc
  | readingTenant
  | insertingTenant
  | selecting (tenant : Option TenantRow)
  | inserting (tenant : Option TenantRow)
  | updating (tenant : Option TenantRow) (row : FindingRow)
  | committing (tenant : Option TenantRow) (write : Write)
  | recovering
  | rewriting (row : FindingRow)
  | raised
  | returned (stored : Finding)

namespace Pc

/-- The tenant row that the transaction has inserted and not committed. -/
def uncommittedTenant : Pc → Option TenantRow
  | .selecting tenant | .inserting tenant | .updating tenant _ | .committing tenant _ => tenant
  | _ => none

/-- The finding row that the transaction has inserted and not committed. -/
def uncommittedFinding : Pc → Option FindingRow
  | .committing _ (.insert row) => some row
  | _ => none

/-- The id of the row that the transaction has locked. -/
def lock : Pc → Option ℕ
  | .updating _ row | .rewriting row | .committing _ (.update row) => some row.rowId
  | _ => none

end Pc

/-- A call of `_store_finding`, with its arguments and the time it reads. -/
structure Call where
  add : FindingAdd
  pc : Pc

namespace Call

/-- The call at another position. -/
def goto (call : Call) (pc : Pc) : Call := { call with pc }

/-- The default row of the call's tenant. -/
def tenantRow (call : Call) : TenantRow :=
  ⟨call.add.tenantId, call.add.tenantId, call.add.tenantId, "active", 90, call.add.moment.now, call.add.moment.now⟩

/-- The row of a first occurrence, under the next number of the sequence. -/
def newRow (core : CoreLibrary) (text : TextLibrary) (db : Database) (call : Call) : FindingRow :=
  .created core text db.findingSequence call.add.tenantId call.add.finding call.add.jobId call.add.moment.now

/-- The committed row of the call's fingerprint. -/
def existing (core : CoreLibrary) (text : TextLibrary) (db : Database) (call : Call) : Option FindingRow :=
  findFingerprint db.findings call.add.tenantId (findingFingerprint core text call.add.finding)

/-- The commit of what the transaction has written. -/
def commit (db : Database) (tenant : Option TenantRow) (write : Write) : Option Database := do
  let tenants ← Creation.Call.committedTenants db tenant
  let findings ← write.apply db.findings
  some { db with tenants, findings }

/-- The next statement of the call, beside the uncommitted rows and the locks of other calls; `none`
while it waits for one of them and after the call has ended. -/
def advance (core : CoreLibrary) (text : TextLibrary) (db : Database) (tenants : List TenantRow)
    (findings : List FindingRow) (locks : List ℕ) (call : Call) : Option (Database × Pc) :=
  match call.pc with
  | .readingTenant =>
    match db.tenants.find fun row => row.id = call.add.tenantId with
    | some _ => some (db, .selecting none)
    | none => some (db, .insertingTenant)
  | .insertingTenant =>
    match db.tenants.tryInsert tenants call.tenantRow with
    | .waits => none
    | .refused => some (db, .recovering)
    | .accepted => some (db, .selecting (some call.tenantRow))
  | .selecting tenant =>
    match call.existing core text db with
    | none => some (db, .inserting tenant)
    | some row => if row.rowId ∈ locks then none else some (db, .updating tenant row)
  | .inserting tenant =>
    let row := call.newRow core text db
    let db' := { db with findingSequence := db.findingSequence + 1 }
    match db.findings.tryInsert findings row with
    | .waits => none
    | .refused => some (db', .recovering)
    | .accepted => some (db', .committing tenant (.insert row))
  | .updating tenant row =>
    some (db, .committing tenant (.update (row.merge core call.add.finding call.add.jobId call.add.moment.now)))
  | .committing tenant write => (commit db tenant write).map fun db' => (db', .returned (write.row.finding core))
  | .recovering =>
    match call.existing core text db with
    | none => some (db, .raised)
    | some row => if row.rowId ∈ locks then none else some (db, .rewriting row)
  | .rewriting row =>
    some (db, .committing none (.update (row.mergeLost core call.add.finding call.add.moment.now)))
  | .raised | .returned _ => none

/-- The add of a call that has returned. -/
def completed (call : Call) : Option FindingAdd :=
  match call.pc with
  | .returned _ => some call.add
  | _ => none

@[simp] theorem goto_pc (call : Call) (pc : Pc) : (call.goto pc).pc = pc := rfl

@[simp] theorem goto_add (call : Call) (pc : Pc) : (call.goto pc).add = call.add := rfl

@[simp] theorem goto_tenantRow (call : Call) (pc : Pc) : (call.goto pc).tenantRow = call.tenantRow := rfl

end Call

/-- The committed rows and the calls in progress. -/
structure System where
  db : Database
  calls : List Call

namespace System

/-- One call takes its next step. -/
def step (core : CoreLibrary) (text : TextLibrary) (s : System) (index : ℕ) : Option System := do
  let call ← s.calls[index]?
  let others := s.calls.eraseIdx index
  let (db, pc) ← call.advance core text s.db (others.filterMap fun other => other.pc.uncommittedTenant)
    (others.filterMap fun other => other.pc.uncommittedFinding) (others.filterMap fun other => other.pc.lock)
  return ⟨db, s.calls.set index (call.goto pc)⟩

/-- The calls before any of them has begun. -/
def initial (db : Database) (adds : List FindingAdd) : System := ⟨db, adds.map fun add => ⟨add, .readingTenant⟩⟩

/-- The adds of the calls that have returned. -/
def done (s : System) : List FindingAdd := s.calls.filterMap Call.completed

end System

end ConcurrentAdds

/-- A row that loses nothing when a further occurrence is merged by the second transaction, which leaves
severity, confidence, description, first sight and job id as they are. -/
structure FindingRow.Covers (core : CoreLibrary) (row : FindingRow) (add : FindingAdd) : Prop where
  severity : row.severity.rank = max (row.finding core).severity.rank add.finding.severity.rank
  confidence : row.confidence = max (row.finding core).confidence add.finding.confidence
  description : row.description = add.finding.description
  firstSeen : row.firstSeen ≤ add.seenAt
  jobId : nonEmpty add.jobId = none ∨ nonEmpty add.jobId = row.jobId

/-- The condition can be checked. -/
instance (core : CoreLibrary) (row : FindingRow) (add : FindingAdd) : Decidable (row.Covers core add) :=
  decidable_of_iff (row.severity.rank = max (row.finding core).severity.rank add.finding.severity.rank ∧
    row.confidence = max (row.finding core).confidence add.finding.confidence ∧
    row.description = add.finding.description ∧ row.firstSeen ≤ add.seenAt ∧
    (nonEmpty add.jobId = none ∨ nonEmpty add.jobId = row.jobId))
    ⟨fun ⟨hseverity, hconfidence, hdescription, hfirst, hjob⟩ => ⟨hseverity, hconfidence, hdescription, hfirst, hjob⟩,
      fun h => ⟨h.severity, h.confidence, h.description, h.firstSeen, h.jobId⟩⟩

/-- The second transaction writes the row that the first one would have written, exactly if that row
loses nothing. -/
theorem FindingRow.mergeLost_eq_merge_iff {core : CoreLibrary} {row : FindingRow} {add : FindingAdd} :
    row.mergeLost core add.finding add.moment.now = row.merge core add.finding add.jobId add.moment.now ↔
      row.Covers core add := by
  have hmerged := rank_mergeFindings (row.finding core) add.finding
  have hjob := jobOr_eq add.jobId row.jobId
  constructor
  · intro h
    have hseverity := congrArg FindingRow.severity h
    have hfirst : row.firstSeen = min row.firstSeen add.seenAt := congrArg FindingRow.firstSeen h
    have hstored : row.jobId = (nonEmpty add.jobId).or row.jobId := (congrArg FindingRow.jobId h).trans hjob
    refine ⟨(congrArg FindingSeverity.rank hseverity).trans hmerged, congrArg FindingRow.confidence h,
      congrArg FindingRow.description h, min_eq_left_iff.mp hfirst.symm, ?_⟩
    cases hnew : nonEmpty add.jobId with
    | none => exact .inl rfl
    | some jobId =>
      rw [hnew] at hstored
      exact .inr hstored.symm
  · intro h
    have hseverity := rank_injective (h.severity.trans hmerged.symm)
    have hfirst : row.firstSeen = min row.firstSeen add.seenAt := (min_eq_left h.firstSeen).symm
    have hstored : row.jobId = jobOr add.jobId row.jobId := by
      rw [hjob]
      rcases h.jobId with hnone | hsame
      · rw [hnone, Option.none_or]
      · rw [hsame, Option.or_self]
    have hconfidence := h.confidence
    have hdescription := h.description
    unfold mergeLost merge
    rw [FindingRow.mk.injEq]
    exact ⟨rfl, rfl, rfl, rfl, rfl, hseverity, hconfidence, rfl, rfl, rfl, rfl, hdescription, hfirst, rfl, rfl,
      hstored, rfl, rfl, rfl, rfl⟩

end SharedIntegration

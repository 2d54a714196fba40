import SharedIntegration.FindingColumns
import SharedIntegration.Library.Trail

/-!
# Triage decisions and their audit trail

Scanners and analysts write the same rows: a scan merges further occurrences into a row, an analyst decides
on its status and its assignee. Each decision leaves a `finding.updated` event, and the decisions on a finding
can be told from these events alone.
-/

namespace SharedIntegration

open Relational Transition

/-- What analysts have decided on a finding. -/
@[ext] structure Decision where
  status : FindingStatus
  assignedTo : Option String
deriving DecidableEq

namespace Decision

/-- A new finding is open and assigned to nobody. -/
def initial : Decision := ⟨.opened, none⟩

/-- The status with a stored text. -/
def statusOf (value : String) : Option FindingStatus :=
  [FindingStatus.opened, .confirmed, .resolved, .falsePositive, .acceptedRisk].find? fun status =>
    status.value = value

/-- The texts of statuses are read back. -/
@[simp] theorem statusOf_value (status : FindingStatus) : statusOf status.value = some status := by
  cases status <;> decide

/-- The stored value of an assignee. -/
def assigneeOf : Document → Option (Option String)
  | .str name => some (some name)
  | .null => some none
  | _ => none

/-- Assignees are read back. -/
@[simp] theorem assigneeOf_nullable (assignedTo : Option String) :
    assigneeOf (nullable assignedTo) = some assignedTo := by
  cases assignedTo <;> rfl

/-- One side of a recorded change. -/
def side (details : Document) (field key : String) : Option Document := (details.get? field).bind (·.get? key)

/-- The decision after the recorded changes. -/
def record (decision : Decision) (details : Document) : Decision where
  status := ((side details "status" "to").bind fun
    | .str value => statusOf value
    | _ => none).getD decision.status
  assignedTo := ((side details "assigned_to" "to").bind assigneeOf).getD decision.assignedTo

/-- The recorded changes start from the decision and lead away from it. -/
structure Describes (decision : Decision) (details : Document) : Prop where
  status : ∀ change, details.get? "status" = some change →
    ∃ status, change = .obj [("from", .str decision.status.value), ("to", .str status.value)] ∧
      status ≠ decision.status
  assignedTo : ∀ change, details.get? "assigned_to" = some change →
    ∃ assignedTo, change = .obj [("from", nullable decision.assignedTo), ("to", nullable assignedTo)] ∧
      assignedTo ≠ decision.assignedTo

/-- How `finding.updated` events are read. -/
def reader : TrailReader Decision AuditEventRow where
  apply decision event := decision.record event.details
  Faithful decision event := decision.Describes event.details

end Decision

/-- The decision that is stored in a row. -/
def FindingRow.decision (row : FindingRow) : Decision := ⟨row.status, row.assignedTo⟩

namespace FindingLifecycle

/-- The `finding.updated` events of a finding of a tenant. -/
def triageTrail (events : List AuditEventRow) (tenantId findingId : String) : List AuditEventRow :=
  events.filter fun event =>
    event.tenantId = tenantId ∧ event.action = "finding.updated" ∧ event.resourceId = some findingId

/-! ### One triage -/

/-- The recorded change of a status, if it is one. -/
theorem triageChanges_status (status : Option FindingStatus) (assignedTo : Option (Option String))
    (row : FindingRow) : (triageChanges status assignedTo row).get? "status" =
      (status.filter (· ≠ row.status)).map fun status =>
        .obj [("from", .str row.status.value), ("to", .str status.value)] := by
  have hkeys : ¬ "assigned_to" = "status" := by decide
  cases status with
  | none =>
    cases assignedTo with
    | none => rfl
    | some name =>
      by_cases hsame : name = row.assignedTo <;>
        simp [triageChanges, hsame, Json.get?, Json.getEntry, hkeys]
  | some status =>
    by_cases hstatus : status = row.status
    · cases assignedTo with
      | none => simp [triageChanges, hstatus, Json.get?, Json.getEntry]
      | some name =>
        by_cases hsame : name = row.assignedTo <;>
          simp [triageChanges, hstatus, hsame, Json.get?, Json.getEntry, hkeys]
    · simp [triageChanges, hstatus, Json.get?, Json.getEntry]

/-- The recorded change of an assignee, if it is one. -/
theorem triageChanges_assignedTo (status : Option FindingStatus) (assignedTo : Option (Option String))
    (row : FindingRow) : (triageChanges status assignedTo row).get? "assigned_to" =
      (assignedTo.filter (· ≠ row.assignedTo)).map fun assignedTo =>
        .obj [("from", nullable row.assignedTo), ("to", nullable assignedTo)] := by
  have hkeys : ¬ "status" = "assigned_to" := by decide
  cases assignedTo with
  | none =>
    cases status with
    | none => rfl
    | some status =>
      by_cases hstatus : status = row.status <;>
        simp [triageChanges, hstatus, Json.get?, Json.getEntry, hkeys]
  | some name =>
    by_cases hsame : name = row.assignedTo
    · cases status with
      | none => simp [triageChanges, hsame, Json.get?, Json.getEntry]
      | some status =>
        by_cases hstatus : status = row.status <;>
          simp [triageChanges, hstatus, hsame, Json.get?, Json.getEntry, hkeys]
    · cases status with
      | none => simp [triageChanges, hsame, Json.get?, Json.getEntry]
      | some status =>
        by_cases hstatus : status = row.status <;>
          simp [triageChanges, hstatus, hsame, Json.get?, Json.getEntry, hkeys]

/-- The `to` of a recorded change. -/
theorem get?_to (before after : Document) : Json.get? (.obj [("from", before), ("to", after)]) "to" = some after :=
  rfl

/-- The changes of a triage lead from the old decision to the new one. -/
theorem record_triageChanges (status : Option FindingStatus) (assignedTo : Option (Option String)) (now : Instant)
    (row : FindingRow) :
    row.decision.record (triageChanges status assignedTo row) = (row.triage status assignedTo now).decision := by
  apply Decision.ext
  · simp only [Decision.record, Decision.side, triageChanges_status, FindingRow.decision, FindingRow.triage]
    cases status with
    | none => rfl
    | some status =>
      by_cases hstatus : status = row.status
      · simp [Option.filter_some, hstatus]
      · simp [Option.filter_some, hstatus, get?_to]
  · simp only [Decision.record, Decision.side, triageChanges_assignedTo, FindingRow.decision, FindingRow.triage]
    cases assignedTo with
    | none => rfl
    | some name =>
      by_cases hsame : name = row.assignedTo
      · simp [Option.filter_some, hsame]
      · simp [Option.filter_some, hsame, get?_to]

/-- The changes of a triage describe the old decision. -/
theorem describes_triageChanges (status : Option FindingStatus) (assignedTo : Option (Option String))
    (row : FindingRow) : row.decision.Describes (triageChanges status assignedTo row) where
  status change hchange := by
    rw [triageChanges_status, Option.map_eq_some_iff] at hchange
    obtain ⟨status, hstatus, hchange⟩ := hchange
    rw [Option.filter_eq_some_iff] at hstatus
    exact ⟨status, hchange.symm, of_decide_eq_true hstatus.2⟩
  assignedTo change hchange := by
    rw [triageChanges_assignedTo, Option.map_eq_some_iff] at hchange
    obtain ⟨name, hname, hchange⟩ := hchange
    rw [Option.filter_eq_some_iff] at hname
    exact ⟨name, hchange.symm, of_decide_eq_true hname.2⟩

/-- A triage of a row: nothing else changes, and one event records it. -/
structure Triaged (core : CoreLibrary) (db : Database) (row : FindingRow) (status : Option FindingStatus)
    (assignedTo : Option (Option String)) (actor : String) (now : Instant)
    (result : Database × Option FindingLifecycleRecord) : Prop where
  rows : result.1.findings.rows = db.findings.rows.map fun other => if other.rowId = row.rowId then
    { row with status := status.getD row.status, assignedTo := assignedTo.getD row.assignedTo, updatedAt := now }
    else other
  others : result.1 = { db with findings := result.1.findings, auditEvents := result.1.auditEvents }
  audited : result.1.auditEvents = db.auditEvents ++ [⟨row.tenantId, actor, "finding.updated", "finding",
    some row.findingId, none, "success", triageChanges status assignedTo row, now⟩]
  answer : ∃ row' ∈ result.1.findings.rows, row'.rowId = row.rowId ∧ result.2 = some (recordFromRow core row')

/-- Two rows of one finding id are one. -/
theorem row_of_id {db : Database} {row other : FindingRow} (hrow : row ∈ db.findings.rows)
    (hother : other ∈ db.findings.rows) (htenant : other.tenantId = row.tenantId)
    (hid : other.findingId = row.findingId) : other = row := by
  refine db.findings.eq_of_key (fun found => found.tenantId = row.tenantId ∧ found.findingId = row.findingId) ?_
    hother hrow (decide_eq_true ⟨htenant, hid⟩) (decide_eq_true ⟨rfl, rfl⟩)
  intro a b ha hb
  rw [decide_eq_true_eq] at ha hb
  exact Or.inr ⟨ha.1.trans hb.1.symm, Or.inl (ha.2.trans hb.2.symm)⟩

/-- Two rows of one row id are one. -/
theorem row_of_rowId {db : Database} {row other : FindingRow} (hrow : row ∈ db.findings.rows)
    (hother : other ∈ db.findings.rows) (hid : other.rowId = row.rowId) : other = row := by
  refine db.findings.eq_of_key (fun found => found.rowId = row.rowId) ?_ hother hrow (decide_eq_true hid)
    (decide_eq_true rfl)
  intro a b ha hb
  exact Or.inl ((of_decide_eq_true ha).trans (of_decide_eq_true hb).symm)

/-- `update_lifecycle` triages the row of the tenant that has the finding id. -/
theorem updateLifecycle_triaged (core : CoreLibrary) {db : Database} {row : FindingRow} (m : Moment)
    (status : Option FindingStatus) (assignedTo : Option (Option String)) (actor : String)
    (hrow : row ∈ db.findings.rows) : Triaged core db row status assignedTo actor m.now
      (updateLifecycle core db m row.tenantId row.findingId status assignedTo actor) := by
  have hfind : (db.findings.find fun found => found.tenantId = row.tenantId ∧ found.findingId = row.findingId) =
      some row := by
    refine db.findings.find_eq_some_of_mem _ ?_ hrow (decide_eq_true ⟨rfl, rfl⟩)
    intro a b ha hb
    rw [decide_eq_true_eq] at ha hb
    exact Or.inr ⟨ha.1.trans hb.1.symm, Or.inl (ha.2.trans hb.2.symm)⟩
  have hrows : (updateLifecycle core db m row.tenantId row.findingId status assignedTo actor).1.findings.rows =
      db.findings.rows.map fun other => if other.rowId = row.rowId then row.triage status assignedTo m.now
        else other := by
    unfold updateLifecycle
    rw [hfind]
    apply List.map_congr_left
    intro other hother
    by_cases hsame : other.rowId = row.rowId
    · rw [row_of_rowId hrow hother hsame]
      simp
    · have hdiffer : ¬ (other.tenantId = row.tenantId ∧ other.findingId = row.findingId) := fun h =>
        hsame (congrArg FindingRow.rowId (row_of_id hrow hother h.1 h.2))
      simp [hsame, hdiffer]
  refine ⟨hrows, ?_, ?_, row.triage status assignedTo m.now, ?_, rfl, ?_⟩
  · unfold updateLifecycle
    rw [hfind]
  · unfold updateLifecycle
    rw [hfind]
  · rw [hrows]
    exact List.mem_map.mpr ⟨row, hrow, if_pos rfl⟩
  · unfold updateLifecycle
    rw [hfind]

/-- `update_lifecycle` does nothing about an id that the tenant does not have. -/
theorem updateLifecycle_unknown (core : CoreLibrary) {db : Database} (m : Moment) {tenantId findingId : String}
    (status : Option FindingStatus) (assignedTo : Option (Option String)) (actor : String)
    (hunknown : ∀ row ∈ db.findings.rows, row.tenantId = tenantId → row.findingId ≠ findingId) :
    updateLifecycle core db m tenantId findingId status assignedTo actor = (db, none) := by
  have hfind : (db.findings.find fun row => row.tenantId = tenantId ∧ row.findingId = findingId) = none := by
    rw [Table.find_eq_none_iff]
    intro row hrow
    rw [decide_eq_false_iff_not]
    exact fun h => hunknown row hrow h.1 h.2
  unfold updateLifecycle
  rw [hfind]

/-! ### Scans -/

/-- The columns that a scan never changes. -/
structure KeepsTriage (row row' : FindingRow) : Prop where
  rowId : row'.rowId = row.rowId
  tenantId : row'.tenantId = row.tenantId
  findingId : row'.findingId = row.findingId
  fingerprint : row'.fingerprint = row.fingerprint
  status : row'.status = row.status
  assignedTo : row'.assignedTo = row.assignedTo

/-- A row as it was. -/
theorem KeepsTriage.refl (row : FindingRow) : KeepsTriage row row := ⟨rfl, rfl, rfl, rfl, rfl, rfl⟩

/-- The row of a first occurrence: open, unassigned, and under an id that was free. -/
structure Opened (db : Database) (row : FindingRow) : Prop where
  rowId : row.rowId = db.findingSequence
  decision : row.decision = .initial
  free : ∀ old ∈ db.findings.rows, old.tenantId = row.tenantId → old.findingId ≠ row.findingId

/-- What a scan does: it opens a row or keeps the decisions on all, and audits nothing. -/
structure Scanned (db db' : Database) : Prop where
  audited : db'.auditEvents = db.auditEvents
  kept : ∀ row ∈ db.findings.rows, ∃ row' ∈ db'.findings.rows, KeepsTriage row row'
  rows : ∀ row' ∈ db'.findings.rows, (∃ row ∈ db.findings.rows, KeepsTriage row row') ∨ Opened db row'

/-- An update of other columns. -/
theorem Scanned.of_update {db db' : Database} {selected : FindingRow → Bool} {change : FindingRow → FindingRow}
    (haudited : db'.auditEvents = db.auditEvents)
    (hrows : db'.findings.rows = db.findings.rows.map fun row => if selected row then change row else row)
    (hchange : ∀ row, KeepsTriage row (change row)) : Scanned db db' := by
  have hkeeps : ∀ row, KeepsTriage row (if selected row then change row else row) := by
    intro row
    split
    · exact hchange row
    · exact KeepsTriage.refl row
  refine ⟨haudited, fun row hrow => ?_, fun row' hrow' => ?_⟩
  · exact ⟨_, hrows ▸ List.mem_map_of_mem hrow, hkeeps row⟩
  · rw [hrows] at hrow'
    obtain ⟨row, hrow, rfl⟩ := List.mem_map.mp hrow'
    exact Or.inl ⟨row, hrow, hkeeps row⟩

/-- An inserted row of a first occurrence. -/
theorem Scanned.of_insert {db db' : Database} {row : FindingRow} (haudited : db'.auditEvents = db.auditEvents)
    (hinsert : db.findings.insert row = some db'.findings) (hid : row.rowId = db.findingSequence)
    (hdecision : row.decision = .initial) : Scanned db db' := by
  obtain ⟨hrows, hfree⟩ := Table.insert_eq_some hinsert
  refine ⟨haudited, fun old hold => ⟨old, hrows ▸ List.mem_append_left _ hold, KeepsTriage.refl old⟩,
    fun row' hrow' => ?_⟩
  rw [hrows] at hrow'
  rcases List.mem_append.mp hrow' with hold | hnew
  · exact Or.inl ⟨row', hold, KeepsTriage.refl row'⟩
  · rw [List.mem_singleton.mp hnew]
    exact Or.inr ⟨hid, hdecision, fun old hold htenant hsame =>
      hfree old hold (Or.inr ⟨htenant, Or.inl hsame⟩)⟩

variable {core : CoreLibrary} {text : TextLibrary} {db db' : Database}

/-- The first transaction of a store is a scan. -/
theorem scanned_storeLocked {m : Moment} {tenantId : String} {finding : Finding} {jobId : Option String}
    (h : storeLocked core text db m tenantId finding jobId = some db') : Scanned db db' := by
  obtain ⟨tenants, -, ⟨-, findings, hinsert, rfl⟩ | ⟨row, -, rfl⟩⟩ := storeLocked_cases h
  · exact Scanned.of_insert rfl hinsert rfl rfl
  · exact Scanned.of_update rfl rfl fun row => ⟨rfl, rfl, rfl, rfl, rfl, rfl⟩

/-- The second transaction of a store is a scan. -/
theorem scanned_storeLost {m : Moment} {tenantId : String} {finding : Finding}
    (h : storeLost core text db m tenantId finding = some db') : Scanned db db' := by
  obtain ⟨row, -, rfl⟩ := storeLost_cases h
  exact Scanned.of_update rfl rfl fun row => ⟨rfl, rfl, rfl, rfl, rfl, rfl⟩

/-! ### The trail -/

/-- The decisions on all findings can be told from the audit trail. -/
structure Audited (db : Database) : Prop where
  decisions : ∀ row ∈ db.findings.rows,
    row.decision = Decision.reader.replay .initial (triageTrail db.auditEvents row.tenantId row.findingId)
  faithful : ∀ tenantId findingId,
    Decision.reader.FaithfulAlong .initial (triageTrail db.auditEvents tenantId findingId)
  known : ∀ event ∈ db.auditEvents, event.action = "finding.updated" →
    ∃ row ∈ db.findings.rows, row.tenantId = event.tenantId ∧ event.resourceId = some row.findingId

/-- There is nothing to tell about a fresh database. -/
theorem audited_empty : Audited Database.empty :=
  ⟨fun _ hrow => absurd hrow List.not_mem_nil, fun _ _ => trivial, fun _ hevent => absurd hevent List.not_mem_nil⟩

/-- A scan keeps the trail and what can be told from it. -/
theorem Audited.scanned (h : Audited db) (hscanned : Scanned db db') : Audited db' where
  decisions row' hrow' := by
    rw [hscanned.audited]
    rcases hscanned.rows row' hrow' with ⟨row, hrow, hkeeps⟩ | hopened
    · have hdecision := h.decisions row hrow
      have hsame : row'.decision = row.decision := Decision.ext hkeeps.status hkeeps.assignedTo
      rw [hsame, hkeeps.tenantId, hkeeps.findingId]
      exact hdecision
    · -- A new id has no events yet, since each event is about a row that exists.
      have hnone : triageTrail db.auditEvents row'.tenantId row'.findingId = [] := by
        unfold triageTrail
        rw [List.filter_eq_nil_iff]
        intro event hevent htrail
        obtain ⟨htenant, haction, hresource⟩ := of_decide_eq_true htrail
        obtain ⟨row, hrow, hknown, hid⟩ := h.known event hevent haction
        exact hopened.free row hrow (hknown.trans htenant) (Option.some.inj (hid.symm.trans hresource))
      rw [hnone]
      exact hopened.decision
  faithful tenantId findingId := hscanned.audited ▸ h.faithful tenantId findingId
  known event hevent haction := by
    rw [hscanned.audited] at hevent
    obtain ⟨row, hrow, htenant, hid⟩ := h.known event hevent haction
    obtain ⟨row', hrow', hkeeps⟩ := hscanned.kept row hrow
    exact ⟨row', hrow', hkeeps.tenantId.trans htenant, hkeeps.findingId ▸ hid⟩

/-- A triage event belongs to the trail of its own finding only. -/
theorem triageTrail_concat (events : List AuditEventRow) (event : AuditEventRow) (tenantId findingId : String) :
    triageTrail (events ++ [event]) tenantId findingId = triageTrail events tenantId findingId ++
      if event.tenantId = tenantId ∧ event.action = "finding.updated" ∧ event.resourceId = some findingId
        then [event] else [] := by
  simp [triageTrail, List.filter_append, List.filter_cons]

/-- A triage is told from the event that it leaves. -/
theorem Audited.triaged (h : Audited db) {row : FindingRow} {status : Option FindingStatus}
    {assignedTo : Option (Option String)} {actor : String} {now : Instant}
    {result : Database × Option FindingLifecycleRecord} (hrow : row ∈ db.findings.rows)
    (htriaged : Triaged core db row status assignedTo actor now result) : Audited result.1 where
  decisions row' hrow' := by
    rw [htriaged.rows] at hrow'
    obtain ⟨other, hother, rfl⟩ := List.mem_map.mp hrow'
    rw [htriaged.audited, triageTrail_concat]
    by_cases hsame : other.rowId = row.rowId
    · have hdecision := h.decisions row hrow
      rw [if_pos hsame, if_pos ⟨rfl, rfl, rfl⟩, TrailReader.replay_concat]
      change _ = Decision.record (Decision.reader.replay .initial
        (triageTrail db.auditEvents row.tenantId row.findingId)) (triageChanges status assignedTo row)
      rw [← hdecision]
      exact (record_triageChanges status assignedTo now row).symm
    · have hdiffer : ¬ (row.tenantId = other.tenantId ∧ "finding.updated" = "finding.updated" ∧
          some row.findingId = some other.findingId) := fun hall =>
        hsame (congrArg FindingRow.rowId (row_of_id hrow hother hall.1.symm (Option.some.inj hall.2.2).symm))
      rw [if_neg hsame, if_neg hdiffer, List.append_nil]
      exact h.decisions other hother
  faithful tenantId findingId := by
    have hold := h.faithful tenantId findingId
    rw [htriaged.audited, triageTrail_concat]
    split
    · next hevent =>
      obtain ⟨htenant, -, hid⟩ := hevent
      dsimp only at htenant hid
      rw [← htenant, ← Option.some.inj hid] at hold ⊢
      rw [TrailReader.faithfulAlong_concat]
      refine ⟨hold, ?_⟩
      rw [← h.decisions row hrow]
      exact describes_triageChanges status assignedTo row
    · rw [List.append_nil]
      exact hold
  known event hevent haction := by
    have hkept : ∀ old ∈ db.findings.rows, ∃ row' ∈ result.1.findings.rows, row'.tenantId = old.tenantId ∧
        row'.findingId = old.findingId := by
      intro old hold
      rw [htriaged.rows]
      refine ⟨_, List.mem_map_of_mem hold, ?_⟩
      by_cases hsame : old.rowId = row.rowId
      · rw [if_pos hsame, row_of_rowId hrow hold hsame]
        exact ⟨rfl, rfl⟩
      · rw [if_neg hsame]
        exact ⟨rfl, rfl⟩
    rw [htriaged.audited] at hevent
    rcases List.mem_append.mp hevent with hold | hnew
    · obtain ⟨old, hold, htenant, hid⟩ := h.known event hold haction
      obtain ⟨row', hrow', htenant', hid'⟩ := hkept old hold
      exact ⟨row', hrow', htenant'.trans htenant, hid'.symm ▸ hid⟩
    · rw [List.mem_singleton.mp hnew]
      obtain ⟨row', hrow', htenant', hid'⟩ := hkept row hrow
      exact ⟨row', hrow', htenant', congrArg some hid'.symm⟩

/-- Every step keeps the trail. -/
theorem Audited.step {label : FindingAction × Moment} (h : Audited db)
    (hstep : FindingLifecycle.step core text db label = some db') : Audited db' := by
  obtain ⟨action, m⟩ := label
  cases action with
  | add tenantId finding jobId => exact h.scanned (scanned_storeLocked hstep)
  | addLost tenantId finding => exact h.scanned (scanned_storeLost hstep)
  | triage tenantId findingId status assignedTo actor =>
    change some (updateLifecycle core db m tenantId findingId status assignedTo actor).1 = some db' at hstep
    rw [← Option.some.inj hstep]
    by_cases hknown : ∃ row ∈ db.findings.rows, row.tenantId = tenantId ∧ row.findingId = findingId
    · obtain ⟨row, hrow, rfl, rfl⟩ := hknown
      exact h.triaged hrow (updateLifecycle_triaged core m status assignedTo actor hrow)
    · rw [updateLifecycle_unknown core m status assignedTo actor fun row hrow htenant hid =>
        hknown ⟨row, hrow, htenant, hid⟩]
      exact h

/-- Triage decisions survive rescans and are fully audited. -/
theorem triage_survives_rescans (core : CoreLibrary) (text : TextLibrary) :
    (∀ actions db, runSteps (FindingLifecycle.step core text) Database.empty actions = some db → Audited db) ∧
    (∀ db m tenantId finding jobId db', storeLocked core text db m tenantId finding jobId = some db' →
      Scanned db db') ∧
    (∀ db m tenantId finding db', storeLost core text db m tenantId finding = some db' → Scanned db db') ∧
    (∀ (db : Database) (m : Moment) (status : Option FindingStatus) (assignedTo : Option (Option String))
      (actor : String), ∀ row ∈ db.findings.rows, Triaged core db row status assignedTo actor m.now
        (updateLifecycle core db m row.tenantId row.findingId status assignedTo actor)) ∧
    ∀ (db : Database) (m : Moment) (tenantId findingId : String) (status : Option FindingStatus)
      (assignedTo : Option (Option String)) (actor : String),
      (∀ row ∈ db.findings.rows, row.tenantId = tenantId → row.findingId ≠ findingId) →
        updateLifecycle core db m tenantId findingId status assignedTo actor = (db, none) :=
  ⟨fun _ _ hrun => runSteps_invariant Audited (fun _ _ _ h => h.step) audited_empty hrun,
    fun _ _ _ _ _ _ => scanned_storeLocked, fun _ _ _ _ _ => scanned_storeLost,
    fun _ m status assignedTo actor _ => updateLifecycle_triaged core m status assignedTo actor,
    fun _ m _ _ status assignedTo actor => updateLifecycle_unknown core m status assignedTo actor⟩

/-- A finding is confirmed and assigned, seen again, and taken from its assignee. -/
def triagedRescan : List (FindingAction × Moment) :=
  [(.add "tenant-a" (hostFinding "f1" "web-1" .low) none, ⟨0, "1"⟩),
    (.triage "tenant-a" "f1" (some .confirmed) (some (some "ada")) "role:analyst", ⟨1, "2"⟩),
    (.add "tenant-a" (hostFinding "f2" "web-1" .high) none, ⟨2, "3"⟩),
    (.triage "tenant-a" "f1" (some .confirmed) (some none) "role:analyst", ⟨3, "4"⟩)]

set_option maxRecDepth 8000 in
/-- Its row is confirmed, and two events tell so. -/
theorem triagedRescan_row : (runSteps (FindingLifecycle.step FindingDict.core FindingDict.text) Database.empty
    triagedRescan).any (fun db => (db.findings.rows.any fun row => row.decision = ⟨.confirmed, none⟩ &&
      row.tenantId = "tenant-a" && row.findingId = "f1") &&
        (triageTrail db.auditEvents "tenant-a" "f1").length == 2) = true := by
  decide +kernel

/-- The theorem applies to this run: replaying its two events gives the row's decision. -/
theorem triage_survives_rescans_triagedRescan : ∃ db, runSteps (FindingLifecycle.step FindingDict.core
    FindingDict.text) Database.empty triagedRescan = some db ∧
      (triageTrail db.auditEvents "tenant-a" "f1").length = 2 ∧
      Decision.reader.replay .initial (triageTrail db.auditEvents "tenant-a" "f1") = ⟨.confirmed, none⟩ := by
  obtain ⟨db, hrun, hfacts⟩ := (Option.any_eq_true _ _).mp triagedRescan_row
  rw [Bool.and_eq_true, beq_iff_eq, List.any_eq_true] at hfacts
  obtain ⟨⟨row, hrow, hfound⟩, hlength⟩ := hfacts
  simp only [Bool.and_eq_true, decide_eq_true_eq] at hfound
  obtain ⟨⟨hdecision, htenant⟩, hid⟩ := hfound
  have haudited := (triage_survives_rescans FindingDict.core FindingDict.text).1 triagedRescan db hrun
  have hreplay := haudited.decisions row hrow
  rw [hdecision, htenant, hid] at hreplay
  exact ⟨db, hrun, hlength, hreplay.symm⟩

end FindingLifecycle

end SharedIntegration

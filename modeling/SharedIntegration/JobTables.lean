import SharedIntegration.Repositories
import SharedIntegration.Library.Table

/-!
# The job table and its event table

Both backends keep one row per job and one row per event. The statements they issue are
lookups, updates of the columns of a record, inserts, and appending the next event of a job.
This file proves once what each of these does to the view of every job; a backend is then
lawful because its operations are made of them.
-/

namespace SharedIntegration

open Relational

/-- A row type that stores a job record, possibly next to columns of its own. -/
class JobColumns (Row : Type) where
  record : Row → JobRecord
  setRecord : Row → JobRecord → Row
  record_setRecord : ∀ row r, record (setRecord row r) = r

open JobColumns

instance : JobColumns JobRecord where
  record := id
  setRecord _ r := r
  record_setRecord _ _ := rfl

/-- Primary key `id` and unique `(tenant_id, idempotency_key)`, where nulls never collide. -/
def JobRecord.Conflict (a b : JobRecord) : Prop :=
  a.id = b.id ∨
    (a.tenantId = b.tenantId ∧ a.idempotencyKey = b.idempotencyKey ∧ a.idempotencyKey ≠ none)

instance : DecidableRel JobRecord.Conflict := fun a b =>
  inferInstanceAs (Decidable (a.id = b.id ∨
    (a.tenantId = b.tenantId ∧ a.idempotencyKey = b.idempotencyKey ∧ a.idempotencyKey ≠ none)))

/-- `(tenant_id, job_id, sequence)` is unique among events. -/
def JobEvent.Conflict (a b : JobEvent) : Prop := a.key = b.key ∧ a.sequence = b.sequence

instance : DecidableRel JobEvent.Conflict := fun a b =>
  inferInstanceAs (Decidable (a.key = b.key ∧ a.sequence = b.sequence))

variable {Row : Type} [JobColumns Row]

/-- Rows conflict when their records do. -/
def JobColumns.Conflict (a b : Row) : Prop := (record a).Conflict (record b)

instance : DecidableRel (@JobColumns.Conflict Row _) := fun a b =>
  inferInstanceAs (Decidable ((record a).Conflict (record b)))

/-- A change of a record's columns that leaves every key column alone. -/
structure KeepsIdentity (change : JobRecord → JobRecord) : Prop where
  id : ∀ r, (change r).id = r.id
  tenantId : ∀ r, (change r).tenantId = r.tenantId
  idempotencyKey : ∀ r, (change r).idempotencyKey = r.idempotencyKey

/-- Such a change keeps the key of the job. -/
theorem KeepsIdentity.key {change : JobRecord → JobRecord} (h : KeepsIdentity change)
    (r : JobRecord) : (change r).key = r.key := by
  simp [JobRecord.key, h.id, h.tenantId]

/-- The change as an update of whole rows, invisible to the unique constraints. -/
theorem KeepsIdentity.keepsKeys {change : JobRecord → JobRecord} (h : KeepsIdentity change) :
    KeepsKeys (@JobColumns.Conflict Row _)
      (fun row => setRecord row (change (record row))) where
  left a b := by
    simp [JobColumns.Conflict, JobRecord.Conflict, record_setRecord, h.id, h.tenantId,
      h.idempotencyKey]
  right a b := by
    simp [JobColumns.Conflict, JobRecord.Conflict, record_setRecord, h.id, h.tenantId,
      h.idempotencyKey]

/-- Starting an attempt touches no key column. -/
theorem startAttempt_keeps (now : Instant) : KeepsIdentity (.startAttempt now) :=
  ⟨fun _ => rfl, fun _ => rfl, fun _ => rfl⟩

/-- Writing a status touches no key column. -/
theorem writeStatus_keeps (now : Instant) (status : JobStatus) (resultCount : Option ℕ)
    (errorCode errorMessage : Option String) :
    KeepsIdentity (.writeStatus now status resultCount errorCode errorMessage) :=
  ⟨fun _ => rfl, fun _ => rfl, fun _ => rfl⟩

/-- Flagging a cancellation touches no key column. -/
theorem flagCancel_keeps (now : Instant) (current : JobStatus) :
    KeepsIdentity (.flagCancel now current) :=
  ⟨fun _ => rfl, fun _ => rfl, fun _ => rfl⟩

/-- Recording a dispatch id touches no key column. -/
theorem recordDispatch_keeps (now : Instant) (dispatchId : String) :
    KeepsIdentity (.recordDispatch now dispatchId) :=
  ⟨fun _ => rfl, fun _ => rfl, fun _ => rfl⟩

section

variable (m : Moment)

/-- Starting an attempt at a moment touches no key column. -/
theorem startAttempt_keeps_at : KeepsIdentity (.startAttempt m.now) := startAttempt_keeps m.now

/-- Writing a status at a moment touches no key column. -/
theorem writeStatus_keeps_at (status : JobStatus) (resultCount : Option ℕ) (errorCode errorMessage : Option String) :
    KeepsIdentity (.writeStatus m.now status resultCount errorCode errorMessage) :=
  writeStatus_keeps m.now status resultCount errorCode errorMessage

/-- Recording a dispatch id at a moment touches no key column. -/
theorem recordDispatch_keeps_at (dispatchId : String) : KeepsIdentity (.recordDispatch m.now dispatchId) :=
  recordDispatch_keeps m.now dispatchId

end

/-- Jobs and their events; every event belongs to a stored job. -/
structure JobTables (Row : Type) [JobColumns Row] where
  jobs : Table Row JobColumns.Conflict
  events : Table JobEvent JobEvent.Conflict
  owned : ∀ event ∈ events.rows, ∃ row ∈ jobs.rows, (record row).key = event.key

namespace JobTables

/-- No jobs and no events. -/
def empty : JobTables Row := ⟨.empty, .empty, by simp⟩

/-- The row of a job. -/
def findRow (tables : JobTables Row) (key : JobKey) : Option Row :=
  tables.jobs.find fun row => (record row).key = key

/-- The events of a job in sequence order. -/
def jobLog (tables : JobTables Row) (key : JobKey) : List JobEvent :=
  orderBy JobEvent.sequence (tables.events.select fun event => event.key = key)

/-- What the tables show of a job. -/
def view (tables : JobTables Row) (key : JobKey) : Option JobView :=
  (tables.findRow key).map fun row => ⟨record row, tables.jobLog key⟩

/-- `UPDATE` of record columns on one job, under a further condition. -/
def updateJob (tables : JobTables Row) (key : JobKey) (condition : JobRecord → Bool)
    (change : JobRecord → JobRecord) (hchange : KeepsIdentity change) : JobTables Row where
  jobs := tables.jobs.update (fun row => (record row).key = key && condition (record row))
    (fun row => setRecord row (change (record row))) hchange.keepsKeys
  events := tables.events
  owned event hevent := by
    obtain ⟨row, hrow, hkey⟩ := tables.owned event hevent
    refine ⟨_, List.mem_map.mpr ⟨row, hrow, rfl⟩, ?_⟩
    split
    · rw [record_setRecord, hchange.key, hkey]
    · exact hkey

/-- `rowcount` of such an update. -/
def rowcount (tables : JobTables Row) (key : JobKey) (condition : JobRecord → Bool) : ℕ :=
  (tables.jobs.select fun row => (record row).key = key && condition (record row)).length

/-- `INSERT` of a job row; refused by the unique constraints as an integrity error. -/
def insertRow (tables : JobTables Row) (row : Row) : Option (JobTables Row) :=
  if hfree : ∀ old ∈ tables.jobs.rows, ¬ JobColumns.Conflict old row then
    some ⟨tables.jobs.push row hfree, tables.events, fun event hevent => by
      obtain ⟨old, hold, hkey⟩ := tables.owned event hevent
      exact ⟨old, by simp [hold], hkey⟩⟩
  else none

/-- The event that `_append_event` would insert next for a job. -/
def nextEvent (tables : JobTables Row) (key : JobKey) (kind : String) (payload : Document)
    (now : Instant) : JobEvent :=
  ⟨nextSequence (tables.events.select fun event => event.key = key), key.jobId, key.tenantId,
    kind, payload, now⟩

/-- The next sequence number is unused. -/
theorem nextEvent_free (tables : JobTables Row) (key : JobKey) (kind : String) (payload : Document)
    (now : Instant) : ∀ old ∈ tables.events.rows,
      ¬ JobEvent.Conflict old (tables.nextEvent key kind payload now) := by
  rintro old hold ⟨hkey, hsequence⟩
  have hselected : old ∈ tables.events.select fun event => event.key = key := by
    simp only [Table.select, List.mem_filter, decide_eq_true_eq]
    exact ⟨hold, hkey⟩
  have hle := le_maxKey JobEvent.sequence hselected
  simp only [nextEvent, nextSequence] at hsequence
  omega

/-- `_append_event`: insert the next event of a stored job. -/
def appendEvent (tables : JobTables Row) (key : JobKey) (kind : String) (payload : Document)
    (now : Instant) : JobTables Row :=
  if hjob : ∃ row ∈ tables.jobs.rows, (record row).key = key then
    { tables with
      events := tables.events.push (tables.nextEvent key kind payload now)
        (tables.nextEvent_free key kind payload now)
      owned := by
        intro event hevent
        rcases List.mem_append.mp hevent with hold | hnew
        · exact tables.owned event hold
        · rw [List.mem_singleton.mp hnew]
          exact hjob }
  else tables

@[simp] theorem view_empty (key : JobKey) : (empty : JobTables Row).view key = none := rfl

/-- A stored job is found under its own key. -/
theorem findRow_key {tables : JobTables Row} {key : JobKey} {row : Row}
    (h : tables.findRow key = some row) : (record row).key = key := by
  simpa using (Table.find_eq_some h).2

/-- The view of a job carries its key. -/
theorem view_key {tables : JobTables Row} {key : JobKey} {v : JobView}
    (h : tables.view key = some v) : v.record.key = key := by
  obtain ⟨row, hrow, rfl⟩ := Option.map_eq_some_iff.mp h
  exact findRow_key hrow

/-- A job that is not stored has no events. -/
theorem jobLog_eq_nil {tables : JobTables Row} {key : JobKey} (h : tables.findRow key = none) :
    tables.jobLog key = [] := by
  have hnone : tables.events.select (fun event => event.key = key) = [] := by
    rw [Table.select, List.filter_eq_nil_iff]
    intro event hevent hkey
    obtain ⟨row, hrow, hrowKey⟩ := tables.owned event hevent
    have := (Table.find_eq_none_iff _ _).mp h row hrow
    simp_all
  rw [jobLog, hnone, orderBy_nil]

/-- Rows of one key conflict, so a key selects at most one row. -/
theorem conflict_of_key (key : JobKey) (a b : Row) (ha : decide ((record a).key = key) = true)
    (hb : decide ((record b).key = key) = true) : JobColumns.Conflict a b := by
  have hkeys : (record a).key = (record b).key := by simp_all
  exact Or.inl (congrArg JobKey.jobId hkeys)

/-- A stored row is the row of its own key. -/
theorem findRow_of_mem {tables : JobTables Row} {row : Row} (h : row ∈ tables.jobs.rows) :
    tables.findRow (record row).key = some row :=
  Table.find_eq_some_of_mem _ _ (conflict_of_key _) h (by simp)

/-- An update changes the record of its job, if the condition holds, and nothing else. -/
theorem view_updateJob (tables : JobTables Row) (key : JobKey) (condition : JobRecord → Bool)
    (change : JobRecord → JobRecord) (hchange : KeepsIdentity change) :
    (tables.updateJob key condition change hchange).view =
      Function.update tables.view key ((tables.view key).map fun v =>
        { v with record := if condition v.record then change v.record else v.record }) := by
  funext other
  have hfind : (tables.updateJob key condition change hchange).findRow other =
      (tables.findRow other).map fun row =>
        if (record row).key = key && condition (record row) then
          setRecord row (change (record row)) else row := by
    refine Table.find_update _ _ _ hchange.keepsKeys _ ?_
    intro row
    rw [record_setRecord, hchange.key]
  have hlog : (tables.updateJob key condition change hchange).jobLog other =
    tables.jobLog other := rfl
  by_cases hother : other = key
  · subst hother
    rw [Function.update_self, view, hfind, hlog, view, Option.map_map, Option.map_map]
    refine Option.map_congr fun row hrow => ?_
    simp only [Function.comp_apply, findRow_key hrow, decide_true, Bool.true_and]
    split <;> simp [record_setRecord]
  · rw [Function.update_of_ne hother, view, hfind, hlog, view, Option.map_map]
    refine Option.map_congr fun row hrow => ?_
    simp [findRow_key hrow, hother]

/-- Appending an event extends the log of its job and nothing else. -/
theorem view_appendEvent (tables : JobTables Row) (key : JobKey) (kind : String)
    (payload : Document) (now : Instant) :
    (tables.appendEvent key kind payload now).view =
      Function.update tables.view key ((tables.view key).map fun v => v.append kind payload now) := by
  funext other
  unfold appendEvent
  split
  · next hjob =>
    by_cases hother : other = key
    · subst hother
      rw [Function.update_self]
      simp only [view, Option.map_map]
      refine Option.map_congr fun row hrow => ?_
      have hkey := findRow_key hrow
      simp only [Function.comp_apply, JobView.append, jobLog, Table.select_push]
      have hself : ((tables.nextEvent other kind payload now).key = other) = True := by
        simp [nextEvent, JobEvent.key]
      simp only [hself, decide_true, if_true]
      rw [orderBy_concat]
      · simp only [nextEvent, nextSequence, maxKey_orderBy, ← hkey, JobRecord.key]
      · intro event hevent
        have hle := le_maxKey JobEvent.sequence hevent
        simp only [nextEvent, nextSequence]
        omega
    · rw [Function.update_of_ne hother]
      have hkey : ((tables.nextEvent key kind payload now).key = other) = False := by
        simp only [nextEvent, JobEvent.key, eq_iff_iff, iff_false]
        exact fun h => hother h.symm
      simp [view, findRow, jobLog, Table.select_push, hkey]
  · next hjob =>
    have hnone : tables.view key = none := by
      simp only [view, Option.map_eq_none_iff, findRow, Table.find_eq_none_iff, decide_eq_false_iff_not]
      exact fun row hrow hkey => hjob ⟨row, hrow, hkey⟩
    rw [hnone, Option.map_none, ← hnone, Function.update_eq_self]

/-- Changing a job's columns and then appending an event of the job is one change of its view. -/
theorem view_updateJob_appendEvent (tables : JobTables Row) (key : JobKey)
    (condition : JobRecord → Bool) (change : JobRecord → JobRecord) (hchange : KeepsIdentity change)
    (kind : String) (payload : Document) (now : Instant) :
    ((tables.updateJob key condition change hchange).appendEvent key kind payload now).view =
      Function.update tables.view key ((tables.view key).map fun v =>
        JobView.append
          { v with record := if condition v.record then change v.record else v.record }
          kind payload now) := by
  rw [view_appendEvent, view_updateJob, Function.update_idem, Function.update_self, Option.map_map]
  rfl

/-- A successful insert shows the new job with an empty log and nothing else. -/
theorem view_insertRow {tables tables' : JobTables Row} {row : Row}
    (h : tables.insertRow row = some tables') :
    tables.view (record row).key = none ∧
      tables'.view = Function.update tables.view (record row).key (some ⟨record row, []⟩) := by
  unfold insertRow at h
  split at h
  · next hfree =>
    cases h
    have hnone : tables.findRow (record row).key = none := by
      rw [findRow, Table.find_eq_none_iff]
      intro old hold
      rw [decide_eq_false_iff_not]
      intro hkey
      exact hfree old hold (Or.inl (congrArg JobKey.jobId hkey))
    refine ⟨by rw [view, hnone, Option.map_none], ?_⟩
    funext other
    by_cases hother : other = (record row).key
    · subst hother
      rw [Function.update_self]
      have hlog := jobLog_eq_nil hnone
      simp only [findRow] at hnone
      simp only [view, findRow, Table.find_push, hnone, decide_true, if_true, Option.none_or,
        Option.map_some]
      exact congrArg (fun log => some (JobView.mk (record row) log)) hlog
    · rw [Function.update_of_ne hother]
      have hne : ¬ (record row).key = other := fun h => hother h.symm
      simp [view, findRow, Table.find_push, hne, jobLog]
  · cases h

/-- Inserting a job and appending its first event shows the job with that event. -/
theorem view_insertRow_appendEvent {tables tables' : JobTables Row} {row : Row} {key : JobKey}
    (hkey : (record row).key = key) (h : tables.insertRow row = some tables') (kind : String)
    (payload : Document) (now : Instant) :
    tables.view key = none ∧ (tables'.appendEvent key kind payload now).view =
      Function.update tables.view key (some (JobView.append ⟨record row, []⟩ kind payload now)) := by
  subst hkey
  obtain ⟨hnone, hview⟩ := view_insertRow h
  refine ⟨hnone, ?_⟩
  rw [view_appendEvent, hview, Function.update_idem, Function.update_self, Option.map_some]

/-- The update of one job touches one row when the job is stored and meets the condition. -/
theorem rowcount_eq (tables : JobTables Row) (key : JobKey) (condition : JobRecord → Bool) :
    tables.rowcount key condition =
      ((tables.view key).filter fun v => condition v.record).toList.length := by
  have hselect : (tables.jobs.select fun row => (record row).key = key) =
      (tables.findRow key).toList := Table.select_eq_toList_find _ _ (conflict_of_key key)
  have hboth : (tables.jobs.select fun row => (record row).key = key && condition (record row)) =
      (tables.findRow key).toList.filter fun row => condition (record row) := by
    rw [← hselect, Table.select, Table.select, List.filter_filter]
    simp only [Bool.and_comm]
  rw [rowcount, hboth, view]
  cases tables.findRow key with
  | none => rfl
  | some row => cases h : condition (record row) <;> simp [h, Option.filter]

end JobTables

end SharedIntegration

import SharedIntegration.FindingDict
import SharedIntegration.PayloadBinding

/-!
# The two job backends return the same

The backends issue the same statements to tables that hold the same records: the relational one
keeps a queue beside each record and rows for tenants, audits and findings, which no call returns.
The records and the events may be stored in different orders, since every read either asks for an
order that tells the rows apart or finds at most one row. Every statement keeps the tables so, and
every call of a client returns the same on both, as long as both can bind the payloads.
-/

namespace SharedIntegration

open Relational JobColumns

section Tables

variable {Row Row' : Type} [JobColumns Row] [JobColumns Row']

/-- The tables hold the same records and the same events, in any order. -/
structure JobTables.Same (a : JobTables Row) (b : JobTables Row') : Prop where
  records : (a.jobs.rows.map record).Perm (b.jobs.rows.map record)
  events : a.events.rows.Perm b.events.rows

/-- Conflicts have no direction. -/
theorem JobRecord.Conflict.symm {a b : JobRecord} (h : a.Conflict b) : b.Conflict a := by
  rcases h with hid | ⟨htenant, hkey, hsome⟩
  · exact Or.inl hid.symm
  · exact Or.inr ⟨htenant.symm, hkey.symm, hkey ▸ hsome⟩

/-- Records of one table that violate a unique constraint are one. -/
theorem JobTables.record_unique (tables : JobTables Row) {r r' : JobRecord}
    (hr : r ∈ tables.jobs.rows.map record) (hr' : r' ∈ tables.jobs.rows.map record) (hconflict : r.Conflict r') :
    r = r' := by
  obtain ⟨row, hrow, rfl⟩ := List.mem_map.mp hr
  obtain ⟨row', hrow', rfl⟩ := List.mem_map.mp hr'
  by_contra hdiffer
  have hne : row ≠ row' := fun heq => hdiffer (congrArg record heq)
  have hsymm : Std.Symm fun a b : Row => ¬ JobColumns.Conflict a b :=
    ⟨fun a b hfree hback => hfree (JobRecord.Conflict.symm hback)⟩
  exact tables.jobs.consistent.forall hrow hrow' hne hconflict

namespace JobTables.Same

variable {a : JobTables Row} {b : JobTables Row'}

/-- A lookup by a unique key of records finds the same record. -/
theorem find (h : Same a b) (wanted : JobRecord → Bool)
    (hkey : ∀ r r' : JobRecord, wanted r = true → wanted r' = true → r.Conflict r') :
    (a.jobs.find fun row => wanted (record row)).map record =
      (b.jobs.find fun row => wanted (record row)).map record := by
  have hrows : ∀ {Row : Type} [JobColumns Row] (rows : List Row),
      (rows.find? fun row => wanted (record row)).map record = (rows.map record).find? wanted := by
    intro Row _ rows
    rw [List.find?_map]
    rfl
  rw [Table.find, Table.find, hrows, hrows]
  apply Table.find?_eq_of_perm h.records
  intro r hr r' hr' hwanted hwanted'
  exact a.record_unique hr hr' (hkey r r' hwanted hwanted')

/-- A selection by record columns selects the same records. -/
theorem select (h : Same a b) (wanted : JobRecord → Bool) :
    ((a.jobs.select fun row => wanted (record row)).map record).Perm
      ((b.jobs.select fun row => wanted (record row)).map record) := by
  have hrows : ∀ {Row : Type} [JobColumns Row] (rows : List Row),
      (rows.filter fun row => wanted (record row)).map record = (rows.map record).filter wanted := by
    intro Row _ rows
    rw [List.filter_map]
    rfl
  rw [Table.select, Table.select, hrows, hrows]
  exact h.records.filter wanted

/-- The row of a job carries the same record. -/
theorem findRow (h : Same a b) (key : JobKey) :
    (a.findRow key).map record = (b.findRow key).map record := by
  apply h.find fun r => r.key = key
  intro r r' hr hr'
  exact Or.inl (congrArg JobKey.jobId ((of_decide_eq_true hr).trans (of_decide_eq_true hr').symm))

/-- The log of a job is the same. -/
theorem jobLog (h : Same a b) (key : JobKey) : a.jobLog key = b.jobLog key := by
  apply orderBy_eq_of_perm _ (h.events.filter _)
  intro event hevent event' hevent' hsequence
  obtain ⟨hmem, hkey⟩ := List.mem_filter.mp hevent
  obtain ⟨hmem', hkey'⟩ := List.mem_filter.mp hevent'
  -- at most one event of a job has a number
  apply a.events.eq_of_key (fun other => other.key = key ∧ other.sequence = event.sequence) _ hmem hmem'
  · exact decide_eq_true ⟨of_decide_eq_true hkey, rfl⟩
  · exact decide_eq_true ⟨of_decide_eq_true hkey', hsequence.symm⟩
  · intro x y hx hy
    obtain ⟨hxKey, hxSequence⟩ := of_decide_eq_true hx
    obtain ⟨hyKey, hySequence⟩ := of_decide_eq_true hy
    exact ⟨hxKey.trans hyKey.symm, hxSequence.trans hySequence.symm⟩

/-- The views of jobs are the same. -/
theorem view (h : Same a b) : a.view = b.view := by
  funext key
  have hrow := h.findRow key
  rw [JobTables.view, JobTables.view, h.jobLog]
  cases ha : a.findRow key with
  | none =>
    rw [ha] at hrow
    rw [Option.map_eq_none_iff.mp hrow.symm]
    rfl
  | some row =>
    rw [ha, Option.map_some] at hrow
    obtain ⟨row', hrow', hrecord⟩ := Option.map_eq_some_iff.mp hrow.symm
    rw [hrow', Option.map_some, Option.map_some, hrecord]

/-- An update matches as many rows. -/
theorem rowcount (h : Same a b) (key : JobKey) (condition : JobRecord → Bool) :
    a.rowcount key condition = b.rowcount key condition := by
  rw [rowcount_eq, rowcount_eq, h.view]

/-- An update changes the same records. -/
theorem updateJob (h : Same a b) (key : JobKey) (condition : JobRecord → Bool)
    (change : JobRecord → JobRecord) (hchange : KeepsIdentity change) :
    Same (a.updateJob key condition change hchange) (b.updateJob key condition change hchange) := by
  have hrows : ∀ {Row : Type} [JobColumns Row] (rows : List Row),
      (rows.map fun row => if (record row).key = key && condition (record row) then
        setRecord row (change (record row)) else row).map record =
      (rows.map record).map fun r => if r.key = key && condition r then change r else r := by
    intro Row _ rows
    rw [List.map_map, List.map_map]
    apply List.map_congr_left
    intro row _
    simp only [Function.comp_apply]
    split
    · rw [record_setRecord]
    · rfl
  refine ⟨?_, h.events⟩
  unfold JobTables.updateJob
  rw [Table.rows_update, Table.rows_update, hrows, hrows]
  exact h.records.map _

/-- The next event of a job is the same. -/
theorem nextEvent (h : Same a b) (key : JobKey) (kind : String) (payload : Document) (now : Instant) :
    a.nextEvent key kind payload now = b.nextEvent key kind payload now := by
  have hnumbers : (a.events.select fun event => event.key = key).Perm
      (b.events.select fun event => event.key = key) := h.events.filter _
  rw [JobTables.nextEvent, JobTables.nextEvent, nextSequence, nextSequence, maxKey_perm JobEvent.sequence hnumbers]

/-- A job is stored in both or in neither. -/
theorem stored_iff (h : Same a b) (key : JobKey) :
    (∃ row ∈ a.jobs.rows, (record row).key = key) ↔ ∃ row ∈ b.jobs.rows, (record row).key = key := by
  have hrows : ∀ {Row : Type} [JobColumns Row] (rows : List Row),
      (∃ row ∈ rows, (record row).key = key) ↔ ∃ r ∈ rows.map record, r.key = key := by
    intro Row _ rows
    simp
  rw [hrows, hrows]
  constructor
  · rintro ⟨r, hr, hkey⟩
    exact ⟨r, h.records.mem_iff.mp hr, hkey⟩
  · rintro ⟨r, hr, hkey⟩
    exact ⟨r, h.records.mem_iff.mpr hr, hkey⟩

/-- Appending an event appends the same event. -/
theorem appendEvent (h : Same a b) (key : JobKey) (kind : String) (payload : Document) (now : Instant) :
    Same (a.appendEvent key kind payload now) (b.appendEvent key kind payload now) := by
  unfold JobTables.appendEvent
  by_cases hstored : ∃ row ∈ b.jobs.rows, (record row).key = key
  · rw [dif_pos hstored, dif_pos ((h.stored_iff key).mpr hstored)]
    refine ⟨h.records, ?_⟩
    rw [Table.rows_push, Table.rows_push, h.nextEvent]
    exact h.events.append_right _
  · rw [dif_neg hstored, dif_neg (hstored ∘ (h.stored_iff key).mp)]
    exact h

/-- An insert of the same record is refused by both or leads to the same tables. -/
theorem insertRow (h : Same a b) {row : Row} {row' : Row'} (hrow : record row = record row') :
    (a.insertRow row = none ∧ b.insertRow row' = none) ∨
      ∃ a' b', a.insertRow row = some a' ∧ b.insertRow row' = some b' ∧ Same a' b' := by
  have hrows : ∀ {Row : Type} [JobColumns Row] (rows : List Row) (row : Row),
      (∀ old ∈ rows, ¬ JobColumns.Conflict old row) ↔
        ∀ r ∈ rows.map record, ¬ r.Conflict (record row) := by
    intro Row _ rows row
    simp [JobColumns.Conflict]
  have hfree : (∀ old ∈ a.jobs.rows, ¬ JobColumns.Conflict old row) ↔
      ∀ old ∈ b.jobs.rows, ¬ JobColumns.Conflict old row' := by
    rw [hrows, hrows, hrow]
    constructor
    · exact fun hfree r hr => hfree r (h.records.mem_iff.mpr hr)
    · exact fun hfree r hr => hfree r (h.records.mem_iff.mp hr)
  unfold JobTables.insertRow
  by_cases hb : ∀ old ∈ b.jobs.rows, ¬ JobColumns.Conflict old row'
  · rw [dif_pos hb, dif_pos (hfree.mpr hb)]
    refine .inr ⟨_, _, rfl, rfl, ?_, h.events⟩
    rw [Table.rows_push, Table.rows_push, List.map_append, List.map_append, List.map_singleton,
      List.map_singleton, hrow]
    exact h.records.append_right _
  · rw [dif_neg hb, dif_neg (hb ∘ hfree.mp)]
    exact .inl ⟨rfl, rfl⟩

end JobTables.Same

end Tables

/-- The relational database holds what the SQLite file holds, and the tenants that are served can be
given their default rows. -/
structure Simulates (served : String → Prop) (db : Database) (lite : SqliteJobs.State) : Prop where
  tables : db.jobTables.Same lite
  tenants : ∀ tenantId, served tenantId → SqlJobs.Serves db.tenants tenantId

namespace Simulates

variable {core : CoreLibrary} {served : String → Prop} {db : Database} {lite : SqliteJobs.State}

/-- `get` returns the same. -/
theorem get (h : Simulates served db lite) (key : JobKey) : SqlJobs.get db key = SqliteJobs.get lite key := by
  rw [SqlJobs.get, SqlJobs.view, h.tables.view, SqliteJobs.get_eq]

/-- `find_by_idempotency_key` returns the same. -/
theorem findByIdempotencyKey (h : Simulates served db lite) (tenantId idempotencyKey : String) :
    SqlJobs.findByIdempotencyKey db tenantId idempotencyKey =
      SqliteJobs.findByIdempotencyKey lite tenantId idempotencyKey :=
  (h.tables.find (fun r => r.tenantId = tenantId ∧ r.idempotencyKey = some idempotencyKey) fun r r' hr hr' => by
    obtain ⟨htenant, hkey⟩ := of_decide_eq_true hr
    obtain ⟨htenant', hkey'⟩ := of_decide_eq_true hr'
    exact Or.inr ⟨htenant.trans htenant'.symm, hkey.trans hkey'.symm, hkey ▸ nofun⟩).trans (congrFun Option.map_id _)

/-- `list_jobs` returns the same. -/
theorem listJobs (h : Simulates served db lite) (tenantId : String) (status : Option JobStatus)
    (source : Option FindingSource) (limit : ℕ) : SqlJobs.listJobs db tenantId status source limit =
      SqliteJobs.listJobs lite tenantId status source limit := by
  have hselect := h.tables.select (listed tenantId status source)
  rw [show (record : JobRecord → JobRecord) = id from rfl, List.map_id] at hselect
  rw [SqlJobs.listJobs, SqliteJobs.listJobs, List.map_take,
    List.map_insertionSort _ newestFirst JobRow.toJobRecord _ fun _ _ _ _ => Iff.rfl]
  have hsorted := insertionSort_eq_of_perm newestFirst hselect fun r hr r' hr' hbefore hafter => by
    have hmem : ∀ r ∈ (db.jobTables.jobs.select fun row => listed tenantId status source (record row)).map record,
        r ∈ db.jobTables.jobs.rows.map record := fun r hr => List.map_subset _ (List.filter_subset_self _) hr
    exact db.jobTables.record_unique (hmem r hr) (hmem r' hr') (Or.inl (newestFirst_antisymm hbefore hafter))
  exact congrArg (List.take (listLimit limit)) hsorted

/-- Only jobs and audits have changed on the relational side. -/
theorem update (h : Simulates served db lite) {jobTables : JobTables JobRow} {lite' : SqliteJobs.State}
    (hsame : jobTables.Same lite') (auditEvents : List AuditEventRow) :
    Simulates served { db with jobTables, auditEvents } lite' := ⟨hsame, h.tenants⟩

/-- `_required` returns the same. -/
theorem required (h : Simulates served db lite) (key : JobKey) :
    (SqlJobs.required db key = .error (.keyError key.jobId) ∧
      SqliteJobs.required lite key = .error (.keyError key.jobId)) ∨
    ∃ record, SqlJobs.required db key = .ok (db, record) ∧
      SqliteJobs.required lite key = .ok (lite, record) := by
  rw [SqlJobs.required, SqliteJobs.required, h.get]
  cases SqliteJobs.get lite key with
  | none => exact .inl ⟨rfl, rfl⟩
  | some record => exact .inr ⟨record, rfl, rfl⟩

/-- A job has a row in both stores, with the same record, or in neither. -/
theorem findRow (h : Simulates served db lite) (key : JobKey) :
    (db.jobTables.findRow key = none ∧ SqliteJobs.get lite key = none) ∨
      ∃ row, db.jobTables.findRow key = some row ∧ SqliteJobs.get lite key = some row.toJobRecord := by
  have hrow := h.tables.findRow key
  rw [show (record : JobRecord → JobRecord) = id from rfl, Option.map_id, id] at hrow
  rw [SqliteJobs.get, ← hrow]
  cases db.jobTables.findRow key with
  | none => exact .inl ⟨rfl, rfl⟩
  | some row => exact .inr ⟨row, rfl, rfl⟩

variable (core) in
/-- The transaction of `create` is refused by both or creates the same job. -/
theorem insertJob (h : Simulates served db lite) (m : Moment) {tenantId : String} (htenant : served tenantId)
    (source : FindingSource) (payload : Document) (idempotencyKey : Option String) :
    (SqlJobs.insertJob core db m tenantId source payload idempotencyKey = none ∧
      lite.insertRow (.created ⟨tenantId, "job_" ++ m.uuid⟩ source payload idempotencyKey m.now) = none) ∨
    ∃ db' lite', SqlJobs.insertJob core db m tenantId source payload idempotencyKey = some db' ∧
      lite.insertRow (.created ⟨tenantId, "job_" ++ m.uuid⟩ source payload idempotencyKey m.now) =
        some lite' ∧
      Simulates served db' (lite'.appendEvent ⟨tenantId, "job_" ++ m.uuid⟩ "status"
        (statusPayload .queued none none) m.now) := by
  obtain ⟨tenants, hensure, hkept⟩ := SqlJobs.ensureTenant_serves (h.tenants tenantId htenant) m.now
  have htenants : ∀ other, served other → SqlJobs.Serves tenants other := fun other hother =>
    hkept other (h.tenants other hother)
  unfold SqlJobs.insertJob
  rw [hensure]
  let record := JobRecord.created ⟨tenantId, "job_" ++ m.uuid⟩ source payload idempotencyKey m.now
  have hrecord : JobColumns.record (⟨record, SqlJobs.queues source⟩ : JobRow) = record := rfl
  have hinsert := h.tables.insertRow hrecord
  rcases hinsert with ⟨hsql, hlite⟩ | ⟨tables, lite', hsql, hlite, hsame⟩
  · refine .inl ⟨?_, hlite⟩
    change (db.jobTables.insertRow ⟨record, SqlJobs.queues source⟩).bind _ = none
    rw [hsql]
    rfl
  · let db' : Database := { db with
      tenants
      jobTables := tables.appendEvent ⟨tenantId, "job_" ++ m.uuid⟩ "status"
        (statusPayload .queued none none) m.now }
    refine .inr ⟨SqlJobs.audit db' tenantId "job.created" "job" (some ("job_" ++ m.uuid))
      (.obj [("source", .str (core.sourceValue source)), ("queue", .str (SqlJobs.queues source))]) m.now,
      lite', ?_, hlite, ⟨hsame.appendEvent _ _ _ _, htenants⟩⟩
    change (db.jobTables.insertRow ⟨record, SqlJobs.queues source⟩).bind _ = _
    rw [hsql]
    rfl

end Simulates

/-- Both sides return the same and still hold the same. -/
def Agree (served : String → Prop) (a : Database × RepositoryResult) (b : SqliteJobs.State × RepositoryResult) :
    Prop :=
  a.2 = b.2 ∧ Simulates served a.1 b.1

namespace Simulates

variable {core : CoreLibrary} {served : String → Prop} {db : Database} {lite : SqliteJobs.State}

/-- `create` agrees. -/
theorem create (h : Simulates served db lite) (m : Moment) {tenantId : String} (htenant : served tenantId)
    (source : FindingSource) (payload : Document) (idempotencyKey : Option String) :
    Agree served ((SqlJobs.queried core).perform db m (.create tenantId source payload idempotencyKey))
      (SqliteJobs.queried.perform lite m (.create tenantId source payload idempotencyKey)) := by
  have hfind : idempotencyKey.bind (SqlJobs.findByIdempotencyKey db tenantId) =
      idempotencyKey.bind (SqliteJobs.findByIdempotencyKey lite tenantId) := by
    cases idempotencyKey with
    | none => rfl
    | some text => exact h.findByIdempotencyKey tenantId text
  have hsql : (SqlJobs.queried core).create = SqlJobs.create core := rfl
  have hlite : SqliteJobs.queried.create = SqliteJobs.create := rfl
  unfold QueriedRepository.perform
  dsimp only
  rw [hsql, hlite, SqlJobs.create, SqliteJobs.create, hfind]
  cases hfound : idempotencyKey.bind (SqliteJobs.findByIdempotencyKey lite tenantId) with
  | some existing => exact ⟨rfl, h⟩
  | none =>
    rcases h.insertJob core m htenant source payload idempotencyKey with
      ⟨hinsert, hinsert'⟩ | ⟨db', lite', hinsert, hinsert', hsimulates⟩
    · rw [hinsert]
      dsimp only
      rw [hinsert']
      exact ⟨rfl, h⟩
    · rw [hinsert]
      dsimp only
      rw [hinsert', hsimulates.get]
      dsimp only
      cases SqliteJobs.get (lite'.appendEvent ⟨tenantId, "job_" ++ m.uuid⟩ "status"
          (statusPayload .queued none none) m.now) ⟨tenantId, "job_" ++ m.uuid⟩ with
      | none => exact ⟨rfl, h⟩
      | some created => exact ⟨rfl, hsimulates⟩

/-- `mark_running` agrees. -/
theorem markRunning (h : Simulates served db lite) (m : Moment) (key : JobKey) (requireQueued : Bool) :
    Agree served ((SqlJobs.queried core).perform db m (.markRunning key requireQueued))
      (SqliteJobs.queried.perform lite m (.markRunning key requireQueued)) := by
  change Agree served ((SqlJobs.markRunning db m key requireQueued).1,
      .optional (SqlJobs.markRunning db m key requireQueued).2)
    ((SqliteJobs.markRunning lite m key requireQueued).1,
      .optional (SqliteJobs.markRunning lite m key requireQueued).2)
  rw [SqlJobs.markRunning, SqliteJobs.markRunning, h.tables.rowcount]
  split
  · have hsame := (h.tables.updateJob key (JobView.claimable requireQueued) (.startAttempt m.now)
      (startAttempt_keeps m.now)).appendEvent key "status" (statusPayload .running none none) m.now
    have hsimulates := h.update hsame db.auditEvents
    exact ⟨congrArg RepositoryResult.optional (hsimulates.get key), hsimulates⟩
  · exact ⟨rfl, h⟩

/-- A changed job is read back the same. -/
theorem reread (h : Simulates served db lite) {before : Database} {before' : SqliteJobs.State}
    (hbefore : Simulates served before before') (key : JobKey) :
    Agree served (outcome before .record (SqlJobs.required db key))
      (outcome before' .record (SqliteJobs.required lite key)) := by
  rcases h.required key with ⟨hsql, hlite⟩ | ⟨record, hsql, hlite⟩
  · rw [hsql, hlite]
    exact ⟨rfl, hbefore⟩
  · rw [hsql, hlite]
    exact ⟨rfl, h⟩

/-- `transition` agrees. -/
theorem transition (h : Simulates served db lite) (m : Moment) (key : JobKey) (status : JobStatus)
    (resultCount : Option ℕ) (errorCode errorMessage : Option String) :
    Agree served ((SqlJobs.queried core).perform db m (.transition key status resultCount errorCode errorMessage))
      (SqliteJobs.queried.perform lite m (.transition key status resultCount errorCode errorMessage)) := by
  have hsql : (SqlJobs.queried core).transition = SqlJobs.transition := rfl
  have hlite : SqliteJobs.queried.transition = SqliteJobs.transition := rfl
  unfold QueriedRepository.perform
  dsimp only
  rw [hsql, hlite, SqlJobs.transition, SqliteJobs.transition]
  rcases h.findRow key with ⟨hrow, hget⟩ | ⟨row, hrow, hget⟩
  · rw [hrow, hget]
    exact ⟨rfl, h⟩
  · rw [hrow, hget]
    have hsame := (h.tables.updateJob key (fun _ => true)
      (.writeStatus m.now status resultCount errorCode errorMessage)
      (writeStatus_keeps m.now status resultCount errorCode errorMessage)).appendEvent key "status"
        (statusPayload status errorCode errorMessage) m.now
    exact reread (h.update hsame _) h key

/-- `append_event` agrees. -/
theorem appendEvent (h : Simulates served db lite) (m : Moment) (key : JobKey) (kind : String)
    (payload : Document) :
    Agree served ((SqlJobs.queried core).perform db m (.appendEvent key kind payload))
      (SqliteJobs.queried.perform lite m (.appendEvent key kind payload)) := by
  have hsql : (SqlJobs.queried core).appendEvent = SqlJobs.appendEvent := rfl
  have hlite : SqliteJobs.queried.appendEvent = SqliteJobs.appendEvent := rfl
  unfold QueriedRepository.perform
  dsimp only
  rw [hsql, hlite, SqlJobs.appendEvent, SqliteJobs.appendEvent]
  rcases h.findRow key with ⟨hrow, hget⟩ | ⟨row, hrow, hget⟩
  · rw [hrow, hget]
    exact ⟨rfl, h⟩
  · rw [hrow, hget]
    exact ⟨congrArg RepositoryResult.event (h.tables.nextEvent key kind payload m.now),
      h.update (h.tables.appendEvent key kind payload m.now) db.auditEvents⟩

/-- `request_cancel` agrees. -/
theorem requestCancel (h : Simulates served db lite) (m : Moment) (key : JobKey) :
    Agree served ((SqlJobs.queried core).perform db m (.requestCancel key))
      (SqliteJobs.queried.perform lite m (.requestCancel key)) := by
  have hsql : (SqlJobs.queried core).requestCancel = SqlJobs.requestCancel := rfl
  have hlite : SqliteJobs.queried.requestCancel = SqliteJobs.requestCancel := rfl
  unfold QueriedRepository.perform
  dsimp only
  rw [hsql, hlite, SqlJobs.requestCancel, SqliteJobs.requestCancel]
  rcases h.findRow key with ⟨hrow, hget⟩ | ⟨row, hrow, hget⟩
  · rw [hrow, hget]
    exact ⟨rfl, h⟩
  · rw [hrow, hget]
    dsimp only
    by_cases hterminal : row.status.terminal = true
    · rw [if_pos hterminal, if_pos hterminal]
      exact ⟨rfl, h⟩
    · rw [if_neg hterminal, if_neg hterminal]
      have hsame := (h.tables.updateJob key (fun _ => true) (.flagCancel m.now row.status)
        (flagCancel_keeps m.now row.status)).appendEvent key "cancel_requested"
          (statusPayload (JobRecord.cancelStatus row.status) none none) m.now
      exact reread (h.update hsame _) h key

variable (core) in
/-- Every call agrees. -/
theorem perform (h : Simulates served db lite) (m : Moment) (call : RepositoryCall)
    (hcall : ∀ tenantId ∈ call.ensured, served tenantId) :
    Agree served ((SqlJobs.queried core).perform db m call) (SqliteJobs.queried.perform lite m call) := by
  cases call with
  | create => exact h.create m (hcall _ rfl) _ _ _
  | get key => exact ⟨congrArg RepositoryResult.optional (h.get key), h⟩
  | listJobs => exact ⟨congrArg RepositoryResult.records (h.listJobs _ _ _ _), h⟩
  | findByIdempotencyKey =>
    exact ⟨congrArg RepositoryResult.optional (h.findByIdempotencyKey _ _), h⟩
  | markRunning => exact h.markRunning m _ _
  | transition => exact h.transition m _ _ _ _ _
  | appendEvent => exact h.appendEvent m _ _ _
  | listEvents key afterSequence limit =>
    refine ⟨congrArg RepositoryResult.events ?_, h⟩
    change SqlJobs.listEvents db key _ limit = SqliteJobs.listEvents lite key _ limit
    rw [SqlJobs.listEvents, SqliteJobs.listEvents, h.tables.jobLog]
  | setDispatchId key dispatchId =>
    exact ⟨rfl, h.update (h.tables.updateJob key (fun _ => true) (.recordDispatch m.now dispatchId)
      (recordDispatch_keeps m.now dispatchId)) db.auditEvents⟩
  | requestCancel => exact h.requestCancel m _

/-- Every list of calls returns the same, and leaves stores that hold the same. -/
theorem performAll (h : Simulates served db lite) (calls : List (RepositoryCall × Moment))
    (hcalls : ∀ call ∈ calls, ∀ tenantId ∈ call.1.ensured, served tenantId) :
    ((SqlJobs.queried core).performAll db calls).2 = (SqliteJobs.queried.performAll lite calls).2 ∧
      Simulates served ((SqlJobs.queried core).performAll db calls).1 (SqliteJobs.queried.performAll lite calls).1 := by
  induction calls generalizing db lite with
  | nil => exact ⟨rfl, h⟩
  | cons call rest ih =>
    obtain ⟨hresult, hsimulates⟩ := h.perform core call.2 call.1 (hcalls call List.mem_cons_self)
    obtain ⟨hresults, hafter⟩ := ih hsimulates fun other hother => hcalls other (List.mem_cons_of_mem call hother)
    exact ⟨congrArg₂ List.cons hresult hresults, hafter⟩

end Simulates

/-- Calls with portable payloads return the same, and leave stores that hold the same. -/
theorem Simulates.performAllBound {core : CoreLibrary} {served : String → Prop} {db : Database}
    {lite : SqliteJobs.State} (h : Simulates served db lite) {spelling : Spelling} {nesting : ℕ}
    {calls : List (RepositoryCall × Moment)} (hcalls : ∀ call ∈ calls, ∀ tenantId ∈ call.1.ensured, served tenantId)
    (hpayloads : ∀ call ∈ calls, ∀ payload ∈ call.1.payload, Portable spelling nesting payload) :
    ((SqlJobs.binding core spelling nesting).performAllBound db calls).2 =
        ((SqliteJobs.binding spelling nesting).performAllBound lite calls).2 ∧
      Simulates served ((SqlJobs.binding core spelling nesting).performAllBound db calls).1
        ((SqliteJobs.binding spelling nesting).performAllBound lite calls).1 := by
  have hbound : ∀ (layout : Json.Layout) (unwritable : PayloadError), ∀ call ∈ calls, ∀ payload ∈ call.1.payload,
      ∃ text, bindPayload layout unwritable nesting (spelling.document payload) = .ok text := by
    intro layout unwritable call hcall payload hpayload
    obtain ⟨text, htext, -⟩ := (hpayloads call hcall payload hpayload).bound layout unwritable
    exact ⟨text, htext⟩
  obtain ⟨hresults, hafter⟩ := @Simulates.performAll core _ _ _ h calls hcalls
  rw [(SqlJobs.binding core spelling nesting).performAllBound_eq (hbound ⟨true, true⟩ .statementError),
    (SqliteJobs.binding spelling nesting).performAllBound_eq (hbound .compact .dumps)]
  exact ⟨congrArg (List.map Except.ok) hresults, hafter⟩

/-- From empty stores, every list of calls whose payloads both can bind returns or raises the same on the
relational and on the SQLite job repository. -/
theorem backends_equivalent (core : CoreLibrary) (spelling : Spelling) (nesting : ℕ)
    (calls : List (RepositoryCall × Moment))
    (hpayloads : ∀ call ∈ calls, ∀ payload ∈ call.1.payload, Portable spelling nesting payload) :
    ((SqlJobs.binding core spelling nesting).performAllBound (SqlJobs.queried core).empty calls).2 =
      ((SqliteJobs.binding spelling nesting).performAllBound SqliteJobs.queried.empty calls).2 :=
  (@Simulates.performAllBound core (fun _ => True) _ _
    ⟨⟨List.Perm.refl _, List.Perm.refl _⟩, fun _ _ => Or.inr fun _ hrow => absurd hrow List.not_mem_nil⟩ spelling
    nesting calls (fun _ _ _ _ => trivial) hpayloads).1

/-- A job that is created, found again by its key, and given a note. -/
def notedJob : List (RepositoryCall × Moment) :=
  [(.create "tenant-a" .soc (.obj [("range", .str "10.0.0.0/8")]) (some "request"), ⟨0, "1"⟩),
    (.create "tenant-a" .soc (.obj []) (some "request"), ⟨1, "2"⟩),
    (.appendEvent ⟨"tenant-a", "job_1"⟩ "note" (.obj [("text", .str "\u00e9")]), ⟨2, "-"⟩),
    (.appendEvent ⟨"tenant-a", "job_2"⟩ "note" (.obj []), ⟨3, "-"⟩)]

/-- The theorem applies to that job. -/
theorem backends_equivalent_notedJob :
    ((SqlJobs.binding FindingDict.core FindingDict.plainSpelling 1000).performAllBound
        (SqlJobs.queried FindingDict.core).empty notedJob).2 =
      ((SqliteJobs.binding FindingDict.plainSpelling 1000).performAllBound SqliteJobs.queried.empty notedJob).2 := by
  refine backends_equivalent FindingDict.core FindingDict.plainSpelling 1000 notedJob ?_
  have hempty : Portable FindingDict.plainSpelling 1000 (.obj []) :=
    ⟨.obj List.nodup_nil (List.forall_mem_nil _) (List.forall_mem_nil _), rfl⟩
  have hmember : ∀ name value : String, Portable FindingDict.plainSpelling 1000 (.obj [(name, .str value)]) := by
    intro name value
    have hscalar : ∀ text : String, Json.IsScalar (.of text) := by
      intro text c hc
      obtain ⟨char, -, rfl⟩ := List.mem_map.mp hc
      exact char.valid
    exact ⟨.obj (List.nodup_singleton _) (List.forall_mem_singleton.mpr (hscalar name))
      (List.forall_mem_singleton.mpr (.str (hscalar value))), rfl⟩
  intro call hcall payload hpayload
  simp only [notedJob, List.mem_cons, List.not_mem_nil, or_false] at hcall
  rcases hcall with rfl | rfl | rfl | rfl
  · cases hpayload
    exact hmember _ _
  · cases hpayload
    exact hempty
  · cases hpayload
    exact hmember _ _
  · cases hpayload
    exact hempty

/-- The request of a job with the given payload. -/
def requested (payload : Document) : List (RepositoryCall × Moment) := [(.create "tenant-a" .soc payload none, ⟨0, "1"⟩)]

/-- What the two repositories return for such a request. -/
def requestedResults (payload : Document) :
    List (Except PayloadError RepositoryResult) × List (Except PayloadError RepositoryResult) :=
  (((SqlJobs.binding FindingDict.core FindingDict.surrogateSpelling 1000).performAllBound
      (SqlJobs.queried FindingDict.core).empty (requested payload)).2,
    ((SqliteJobs.binding FindingDict.surrogateSpelling 1000).performAllBound
      SqliteJobs.queried.empty (requested payload)).2)

/-- The repositories differ on two payloads. One has a surrogate that stands alone, which the relational repository
stores and the other cannot bind; one has an integer of too many digits, for which SQLAlchemy wraps the error. -/
theorem backends_equivalent_unportable :
    FindingDict.surrogateSpelling.document (.obj [("a", .str "\ufffd")]) = .obj [([97], .str [0xd800])] ∧
      (∃ record, requestedResults (.obj [("a", .str "\ufffd")]) =
        ([.ok (.created record true)], [.error .unicodeEncodeError])) ∧
      (requestedResults (.obj [("a", .str "\ufffd")])).1 ≠ (requestedResults (.obj [("a", .str "\ufffd")])).2 ∧
      requestedResults (.obj [("a", .int (Int.ofNat (10 ^ JsonText.maxDigits)))]) =
        ([.error .statementError], [.error .dumps]) := by
  refine ⟨rfl, ⟨_, rfl⟩, nofun, ?_⟩
  generalize hvalue : 10 ^ JsonText.maxDigits = value
  have hlarge : ¬ value < 10 ^ JsonText.maxDigits := hvalue ▸ Nat.lt_irrefl _
  clear hvalue
  have hunwritable : (FindingDict.surrogateSpelling.document (.obj [("a", .int (Int.ofNat value))])).writable 1000 =
      false := by
    have habs : (Int.ofNat value).natAbs = value := rfl
    simp only [Spelling.document, Json.spelled, Json.spelledMembers, Json.writable, Json.writableEntries, habs, hlarge,
      decide_false, Bool.false_and, Bool.and_false]
  unfold requestedResults requested
  simp only [BindingRepository.performAllBound]
  rw [BindingRepository.performBound_refused _ _ rfl (SqlJobs.bind_unwritable FindingDict.core hunwritable),
    BindingRepository.performBound_refused _ _ rfl (SqliteJobs.bind_unwritable hunwritable)]

end SharedIntegration

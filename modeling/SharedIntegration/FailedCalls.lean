import SharedIntegration.SqliteTransactions
import Mathlib.Data.Fintype.EquivFin

/-!
# What failed calls leave behind

A call of `SQLiteJobRepository` that raises after it has written leaves its writes open, and the next commit on the
connection makes them durable, whoever's call that is. Such a call leaves no trace exactly if it had not changed
anything yet, or if it was rolled back and nothing had been left open before it.
-/

namespace SharedIntegration

open Relational

namespace SqliteTransactions

open SqliteJobs (State)

/-- A call with its moment and its faults. -/
structure Made where
  call : RepositoryCall
  moment : Moment
  faults : Faults

/-- What a call leaves of the connection. -/
def Made.after (made : Made) (connection : Connection State) : Connection State :=
  (perform made.faults made.moment made.call connection).2

/-- What calls leave, one after another. -/
def performAll (connection : Connection State) (calls : List Made) : Connection State :=
  calls.foldl (fun connection made => made.after connection) connection

/-- Whatever is called later, the durable jobs and events are those of a run in which the call was not made. -/
def NoTrace (made : Made) (connection : Connection State) : Prop :=
  ∀ later, (performAll (made.after connection) later).committed = (performAll connection later).committed

variable (faults : Faults) (m : Moment)

/-- What the `INSERT` of a job raises. -/
def insertFault (connection : Connection State) (record : JobRecord) : Option SqliteFault :=
  (faults .write).or (if (connection.working.insertRow record).isNone then some .integrityError else none)

/-- What the statements of `create` that can be rolled back raise. -/
def creationFault (connection : Connection State) (record : JobRecord) : Option SqliteFault :=
  (insertFault faults connection record).or
    ((faults .nextSequence).or ((faults .insertEvent).or (faults .commit)))

/-- The condition on `create`: its first lookup fails, or it is rolled back and nothing was open before, or it is
not rolled back but the `INSERT` itself fails. -/
def CreateHarmless (connection : Connection State) (record : JobRecord) : Prop :=
  (record.idempotencyKey ≠ none ∧ faults .lookup ≠ none) ∨
    if creationFault faults connection record = some .integrityError ∧ faults .rollback = none then
      connection.working = connection.committed
    else insertFault faults connection record ≠ none

/-- The condition on an `UPDATE` of a stored job and its event: the update fails, or it writes what is there
already and the event fails. -/
def UpdateHarmless (change : JobRecord → JobRecord) (record : JobRecord) : Prop :=
  faults .write ≠ none ∨ change record = record ∧ (faults .nextSequence ≠ none ∨ faults .insertEvent ≠ none)

/-- The condition under which a call that raises leaves no trace. -/
def Harmless (connection : Connection State) : RepositoryCall → Prop
  | .get _ | .listJobs _ _ _ _ | .findByIdempotencyKey _ _ | .listEvents _ _ _ => True
  | .create tenantId source payload idempotencyKey =>
    CreateHarmless faults connection (.created ⟨tenantId, "job_" ++ m.uuid⟩ source payload idempotencyKey m.now)
  | .markRunning key requireQueued =>
    faults .write ≠ none ∨ connection.working.rowcount key (JobView.claimable requireQueued) ≠ 1
  | .transition key status resultCount errorCode errorMessage => faults .lookup ≠ none ∨
    ∀ record, SqliteJobs.get connection.working key = some record →
      UpdateHarmless faults (.writeStatus m.now status resultCount errorCode errorMessage) record
  | .appendEvent key _ _ => faults .lookup ≠ none ∨ SqliteJobs.get connection.working key = none ∨
    faults .nextSequence ≠ none ∨ faults .insertEvent ≠ none
  | .setDispatchId key dispatchId => faults .write ≠ none ∨
    ∀ record, SqliteJobs.get connection.working key = some record → record.recordDispatch m.now dispatchId = record
  | .requestCancel key => faults .lookup ≠ none ∨
    ∀ record, SqliteJobs.get connection.working key = some record →
      UpdateHarmless faults (.flagCancel m.now record.status) record

variable {faults m} {connection connection' : Connection State} {error : Raised} {key : JobKey}

/-! ### Traces are open or durable writes -/

/-- Some job id is not among finitely many. -/
theorem exists_unknown (ids : List String) : ∃ id, id ∉ ids := by
  obtain ⟨id, hid⟩ := Infinite.exists_notMem_finset ids.toFinset
  exact ⟨id, fun hmem => hid (List.mem_toFinset.mpr hmem)⟩

/-- A call that only commits. -/
def committing (id : String) : Made := ⟨.setDispatchId ⟨"", id⟩ "", ⟨0, ""⟩, noFaults⟩

/-- It makes the open writes durable, if its job is not stored. -/
theorem after_committing {id : String} (hid : id ∉ connection.working.jobs.rows.map JobRecord.id) :
    (committing id).after connection = .clean connection.working := by
  have hmissing : ∀ record, SqliteJobs.get connection.working ⟨"", id⟩ = some record →
      (fun _ => true) record = true → record.recordDispatch 0 "" = record := by
    intro record hget
    obtain ⟨hmem, hkey⟩ := Table.find_eq_some hget
    exact absurd (List.mem_map.mpr ⟨record, hmem, congrArg JobKey.jobId (of_decide_eq_true hkey)⟩) hid
  have hsame := (SqliteJobs.updateJob_eq_iff (recordDispatch_keeps 0 "")).mpr hmissing
  change Connection.clean (connection.working.updateJob ⟨"", id⟩ (fun _ => true) (.recordDispatch 0 "")
    (recordDispatch_keeps 0 "")) = _
  rw [hsame]

/-- A call leaves no trace exactly if it leaves the connection as it was. -/
theorem noTrace_iff {made : Made} : NoTrace made connection ↔ made.after connection = connection := by
  constructor
  · intro h
    obtain ⟨id, hid⟩ := exists_unknown ((made.after connection).working.jobs.rows.map JobRecord.id ++
      connection.working.jobs.rows.map JobRecord.id)
    rw [List.mem_append, not_or] at hid
    have hcommitted : (made.after connection).committed = connection.committed := h []
    have hworking : ((committing id).after (made.after connection)).committed =
        ((committing id).after connection).committed := h [committing id]
    rw [after_committing hid.1, after_committing hid.2] at hworking
    exact congrArg₂ Connection.mk hcommitted hworking
  · intro h later
    rw [h]

/-! ### The statements of one call -/

/-- A statement raises on its fault. -/
theorem at_eq_some {statement : Statement} (h : faults.at statement = some error) :
    ∃ fault, faults statement = some fault ∧ fault.raised = error := Option.map_eq_some_iff.mp h

/-- A statement that raises on its fault has one. -/
theorem ne_none_of_at {statement : Statement} (h : faults.at statement = some error) : faults statement ≠ none := by
  obtain ⟨fault, hfault, -⟩ := at_eq_some h
  rw [hfault]
  exact Option.some_ne_none fault

/-- A statement does not raise without a fault. -/
theorem eq_none_of_at {statement : Statement} (h : faults.at statement = none) : faults statement = none :=
  Option.map_eq_none_iff.mp h

/-- `_required` raises without a trace: on a fault, or if the job is not stored. -/
theorem required_raises {statement : Statement}
    (h : required faults statement key connection = (.error error, connection')) : connection' = connection ∧
      (faults statement ≠ none ∨ SqliteJobs.get connection.working key = none) := by
  rcases Session.bind_raises.mp h with hselect | ⟨found, between, hselect, hrest⟩
  · obtain ⟨rfl, hfault⟩ := Session.select_raises.mp hselect
    exact ⟨rfl, .inl (ne_none_of_at hfault)⟩
  · obtain ⟨-, rfl, rfl⟩ := Session.select_returns.mp hselect
    cases hget : SqliteJobs.get between.working key with
    | some record =>
      rw [hget] at hrest
      cases hrest
    | none =>
      rw [hget] at hrest
      cases hrest
      exact ⟨rfl, .inr rfl⟩

/-- `_required` returns the stored job. -/
theorem required_returns {statement : Statement} {record : JobRecord}
    (h : required faults statement key connection = (.ok record, connection')) :
    connection' = connection ∧ faults statement = none ∧ SqliteJobs.get connection.working key = some record := by
  obtain ⟨found, between, hselect, hrest⟩ := Session.bind_returns.mp h
  obtain ⟨hfault, rfl, rfl⟩ := Session.select_returns.mp hselect
  cases hget : SqliteJobs.get between.working key with
  | some found =>
    rw [hget] at hrest
    cases hrest
    exact ⟨rfl, eq_none_of_at hfault, rfl⟩
  | none =>
    rw [hget] at hrest
    cases hrest

/-- `_append_event_locked` raises without a trace. -/
theorem appendEventLocked_raises {kind : String} {payload : Document}
    (h : appendEventLocked faults m key kind payload connection = (.error error, connection')) :
    connection' = connection ∧ ((faults.at .nextSequence).or (faults.at .insertEvent)) = some error := by
  rcases Session.bind_raises.mp h with hselect | ⟨event, between, hselect, hrest⟩
  · obtain ⟨rfl, hfault⟩ := Session.select_raises.mp hselect
    exact ⟨rfl, by rw [hfault, Option.some_or]⟩
  · obtain ⟨hnone, -, rfl⟩ := Session.select_returns.mp hselect
    rcases Session.bind_raises.mp hrest with hchange | ⟨done, after, -, hpure⟩
    · obtain ⟨rfl, hfault⟩ := Session.change_raises.mp hchange
      exact ⟨rfl, by rw [hnone, Option.none_or, hfault]⟩
    · cases hpure

/-- `_append_event_locked` that returns has written the event. -/
theorem appendEventLocked_returns {kind : String} {payload : Document} {event : JobEvent}
    (h : appendEventLocked faults m key kind payload connection = (.ok event, connection')) :
    faults.at .nextSequence = none ∧ faults.at .insertEvent = none ∧
      connection' = { connection with working := connection.working.appendEvent key kind payload m.now } := by
  obtain ⟨next, between, hselect, hrest⟩ := Session.bind_returns.mp h
  obtain ⟨hnext, -, rfl⟩ := Session.select_returns.mp hselect
  obtain ⟨done, after, hchange, hpure⟩ := Session.bind_returns.mp hrest
  obtain ⟨hinsert, rfl⟩ := Session.change_returns.mp hchange
  cases hpure
  exact ⟨hnext, hinsert, rfl⟩

/-- A written event shows, whether it is durable or not. -/
theorem appendEvent_ne {db db' : State} {record : JobRecord} (hget : SqliteJobs.get db key = some record)
    (hevents : db.events.rows = db'.events.rows) (kind : String) (payload : Document) (now : Instant) :
    db.appendEvent key kind payload now ≠ db' := by
  intro hsame
  have hlength := SqliteJobs.length_appendEvent hget kind payload now
  rw [hsame, hevents] at hlength
  omega

/-- An update of a stored job with its event that raises leaves no trace exactly under its condition. -/
theorem writeJob_raises {change : JobRecord → JobRecord} {hchange : KeepsIdentity change} {kind : String}
    {payload : Document} {record : JobRecord} (hget : SqliteJobs.get connection.working key = some record)
    (h : writeJob faults m key change hchange kind payload connection = (.error error, connection')) :
    connection' = connection ↔ UpdateHarmless faults change record := by
  rcases Session.bind_raises.mp h with hwrite | ⟨done, between, hwrite, hrest⟩
  · obtain ⟨rfl, hfault⟩ := Session.change_raises.mp hwrite
    exact iff_of_true rfl (.inl (ne_none_of_at hfault))
  · obtain ⟨hnone, rfl⟩ := Session.change_returns.mp hwrite
    have hwritten := eq_none_of_at hnone
    obtain ⟨record', hstored⟩ := SqliteJobs.exists_get_updateJob hget (fun _ => true) hchange
    have hshows := @appendEvent_ne key _ connection.working record' hstored rfl kind payload m.now
    rcases Session.bind_raises.mp hrest with hevent | ⟨event, appended, hevent, hrest⟩
    · obtain ⟨rfl, hfault⟩ := appendEventLocked_raises hevent
      have hfails : faults .nextSequence ≠ none ∨ faults .insertEvent ≠ none := by
        rcases Option.or_eq_some_iff.mp hfault with hnext | ⟨-, hinsert⟩
        · exact .inl (ne_none_of_at hnext)
        · exact .inr (ne_none_of_at hinsert)
      have hupdate := @SqliteJobs.updateJob_eq_iff connection.working key (fun _ => true) change hchange
      constructor
      · intro hsame
        have hworking := hupdate.mp (congrArg Connection.working hsame)
        exact .inr ⟨hworking record hget rfl, hfails⟩
      · rintro (hwrite | ⟨hrecord, -⟩)
        · exact absurd hwritten hwrite
        · have hsame := hupdate.mpr fun other hother _ =>
            Option.some.inj (hget.symm.trans hother) ▸ hrecord
          rw [hsame]
    · obtain ⟨hnext, hinsert, rfl⟩ := appendEventLocked_returns hevent
      have hnot : ¬ UpdateHarmless faults change record := by
        rintro (hwrite | ⟨-, hfails | hfails⟩)
        · exact hwrite hwritten
        · exact hfails (eq_none_of_at hnext)
        · exact hfails (eq_none_of_at hinsert)
      refine iff_of_false (fun hsame => hshows ?_) hnot
      rcases Session.bind_raises.mp hrest with hcommit | ⟨done, durable, hcommit, hrest⟩
      · obtain ⟨rfl, -⟩ := Session.commit_raises.mp hcommit
        exact congrArg Connection.working hsame
      · obtain ⟨-, rfl⟩ := Session.commit_returns.mp hcommit
        obtain ⟨rfl, -⟩ := required_raises hrest
        exact congrArg Connection.working hsame

/-! ### The calls -/

/-- A call that reads its job first raises without a trace there, and then as the rest of it does. -/
theorem required_bind_raises {Value : Type} {rest : JobRecord → Calling Value} {harmless : JobRecord → Prop}
    (hrest : ∀ record, SqliteJobs.get connection.working key = some record →
      rest record connection = (.error error, connection') → (connection' = connection ↔ harmless record))
    (h : (required faults .lookup key >>= rest) connection = (.error error, connection')) :
    connection' = connection ↔ faults .lookup ≠ none ∨
      ∀ record, SqliteJobs.get connection.working key = some record → harmless record := by
  rcases Session.bind_raises.mp h with hlookup | ⟨record, between, hlookup, hraises⟩
  · obtain ⟨rfl, hfault | hmissing⟩ := required_raises hlookup
    · exact iff_of_true rfl (.inl hfault)
    · refine iff_of_true rfl (.inr fun record hget => ?_)
      rw [hmissing] at hget
      cases hget
  · obtain ⟨rfl, hnone, hget⟩ := required_returns hlookup
    rw [hrest record hget hraises]
    constructor
    · exact fun hharmless => .inr fun other hother => Option.some.inj (hget.symm.trans hother) ▸ hharmless
    · rintro (hfault | hall)
      · exact absurd hnone hfault
      · exact hall record hget

/-- `transition` that raises leaves no trace exactly under its condition. -/
theorem transition_raises {status : JobStatus} {resultCount : Option ℕ} {errorCode errorMessage : Option String}
    (h : transition faults m key status resultCount errorCode errorMessage connection = (.error error, connection')) :
    connection' = connection ↔
      Harmless faults m connection (.transition key status resultCount errorCode errorMessage) :=
  required_bind_raises (fun _ hget hwrite => writeJob_raises hget hwrite) h

/-- `request_cancel` that raises leaves no trace exactly under its condition. -/
theorem requestCancel_raises (h : requestCancel faults m key connection = (.error error, connection')) :
    connection' = connection ↔ Harmless faults m connection (.requestCancel key) := by
  refine required_bind_raises (fun record hget hwrite => ?_) h
  by_cases hterminal : record.status.terminal = true
  · rw [if_pos hterminal] at hwrite
    cases hwrite
  · rw [if_neg hterminal] at hwrite
    exact writeJob_raises hget hwrite

/-- `append_event` that raises leaves no trace exactly under its condition. -/
theorem appendEvent_raises {kind : String} {payload : Document}
    (h : appendEvent faults m key kind payload connection = (.error error, connection')) :
    connection' = connection ↔ Harmless faults m connection (.appendEvent key kind payload) := by
  have hraises : connection' = connection ↔ faults .lookup ≠ none ∨
      ∀ record, SqliteJobs.get connection.working key = some record →
        faults .nextSequence ≠ none ∨ faults .insertEvent ≠ none := by
    refine required_bind_raises (fun record hget hrest => ?_) h
    rcases Session.bind_raises.mp hrest with hevent | ⟨event, appended, hevent, hrest⟩
    · obtain ⟨rfl, hfault⟩ := appendEventLocked_raises hevent
      rcases Option.or_eq_some_iff.mp hfault with hnext | ⟨-, hinsert⟩
      · exact iff_of_true rfl (.inl (ne_none_of_at hnext))
      · exact iff_of_true rfl (.inr (ne_none_of_at hinsert))
    · obtain ⟨hnext, hinsert, rfl⟩ := appendEventLocked_returns hevent
      have hnot : ¬ (faults .nextSequence ≠ none ∨ faults .insertEvent ≠ none) := by
        rintro (hfault | hfault)
        · exact hfault (eq_none_of_at hnext)
        · exact hfault (eq_none_of_at hinsert)
      refine iff_of_false (fun hsame => ?_) hnot
      rcases Session.bind_raises.mp hrest with hcommit | ⟨done, durable, -, hpure⟩
      · obtain ⟨rfl, -⟩ := Session.commit_raises.mp hcommit
        exact appendEvent_ne hget rfl kind payload m.now (congrArg Connection.working hsame)
      · cases hpure
  refine hraises.trans (or_congr_right ?_)
  cases SqliteJobs.get connection.working key with
  | none => simp
  | some record => simp

/-- `set_dispatch_id` that raises leaves no trace exactly under its condition. -/
theorem setDispatchId_raises {dispatchId : String}
    (h : setDispatchId faults m key dispatchId connection = (.error error, connection')) :
    connection' = connection ↔ Harmless faults m connection (.setDispatchId key dispatchId) := by
  rcases Session.bind_raises.mp h with hwrite | ⟨done, between, hwrite, hcommit⟩
  · obtain ⟨rfl, hfault⟩ := Session.change_raises.mp hwrite
    exact iff_of_true rfl (.inl (ne_none_of_at hfault))
  · obtain ⟨hnone, rfl⟩ := Session.change_returns.mp hwrite
    obtain ⟨rfl, -⟩ := Session.commit_raises.mp hcommit
    have hupdate := @SqliteJobs.updateJob_eq_iff connection.working key (fun _ => true) _
      (recordDispatch_keeps m.now dispatchId)
    constructor
    · intro hsame
      exact .inr fun record hget => hupdate.mp (congrArg Connection.working hsame) record hget rfl
    · rintro (hfault | hall)
      · exact absurd (eq_none_of_at hnone) hfault
      · have hsame := hupdate.mpr fun record hget _ => hall record hget
        rw [hsame]

/-- `mark_running` that raises leaves no trace exactly under its condition. -/
theorem markRunning_raises {requireQueued : Bool}
    (h : markRunning faults m key requireQueued connection = (.error error, connection')) :
    connection' = connection ↔ Harmless faults m connection (.markRunning key requireQueued) := by
  rcases Session.bind_raises.mp h with hwrite | ⟨rowcount, between, hwrite, hrest⟩
  · obtain ⟨rfl, hfault | ⟨-, hraises⟩⟩ := Session.execute_raises.mp hwrite
    · exact iff_of_true rfl (.inl (ne_none_of_at hfault))
    · cases hraises
  · obtain ⟨hnone, tables, htables, rfl⟩ := Session.execute_returns.mp hwrite
    cases htables
    by_cases hcount : connection.working.rowcount key (JobView.claimable requireQueued) = 1
    · rw [if_neg (not_not.mpr hcount)] at hrest
      have hnot : ¬ Harmless faults m connection (.markRunning key requireQueued) := by
        rintro (hfault | hother)
        · exact hfault (eq_none_of_at hnone)
        · exact hother hcount
      obtain ⟨record, hget, hclaimable⟩ := SqliteJobs.exists_get_of_rowcount hcount
      obtain ⟨record', hstored⟩ := SqliteJobs.exists_get_updateJob hget (JobView.claimable requireQueued)
        (startAttempt_keeps m.now)
      have hshows := @appendEvent_ne key _ connection.working record' hstored rfl "status"
        (statusPayload .running none none) m.now
      refine iff_of_false (fun hsame => ?_) hnot
      rcases Session.bind_raises.mp hrest with hevent | ⟨event, appended, hevent, hrest⟩
      · obtain ⟨rfl, -⟩ := appendEventLocked_raises hevent
        have hrecord := (SqliteJobs.updateJob_eq_iff (startAttempt_keeps m.now)).mp (congrArg Connection.working hsame)
          record hget hclaimable
        have hattempt : record.attempt + 1 = record.attempt := congrArg JobRecord.attempt hrecord
        omega
      · obtain ⟨-, -, rfl⟩ := appendEventLocked_returns hevent
        rcases Session.bind_raises.mp hrest with hcommit | ⟨done, durable, hcommit, hrest⟩
        · obtain ⟨rfl, -⟩ := Session.commit_raises.mp hcommit
          exact hshows (congrArg Connection.working hsame)
        · obtain ⟨-, rfl⟩ := Session.commit_returns.mp hcommit
          rcases Session.bind_raises.mp hrest with hreload | ⟨record, reloaded, -, hpure⟩
          · obtain ⟨rfl, -⟩ := required_raises hreload
            exact hshows (congrArg Connection.working hsame)
          · cases hpure
    · rw [if_pos hcount] at hrest
      rcases Session.bind_raises.mp hrest with hcommit | ⟨done, durable, -, hpure⟩
      · obtain ⟨rfl, -⟩ := Session.commit_raises.mp hcommit
        rw [SqliteJobs.updateJob_of_rowcount (startAttempt_keeps m.now) hcount]
        exact iff_of_true rfl (.inr hcount)
      · cases hpure

/-! ### Creation -/

/-- A job that is inserted shows, with its event or without. -/
theorem insertRow_ne {db db' : State} {record : JobRecord} (hinsert : db.insertRow record = some db') :
    db' ≠ db ∧ ∀ kind payload now, db'.appendEvent key kind payload now ≠ db := by
  have hlength : db'.jobs.rows.length = db.jobs.rows.length + 1 := by
    unfold JobTables.insertRow at hinsert
    split at hinsert
    · cases hinsert
      exact List.length_append
    · cases hinsert
  have hother : ∀ other : State, other.jobs = db'.jobs → other ≠ db := by
    intro other hjobs hsame
    rw [← hjobs, hsame] at hlength
    omega
  refine ⟨hother db' rfl, fun kind payload now => hother _ ?_⟩
  unfold JobTables.appendEvent
  split
  · rfl
  · rfl

variable {source : FindingSource} {payload : Document} {idempotencyKey : Option String}

/-- The `INSERT` raises on a fault or on a conflict. -/
theorem execute_insertRow_raises {record : JobRecord}
    (h : Session.execute (faults.at .write) (insertRow record) connection = (.error error, connection')) :
    connection' = connection ∧ ∃ fault, insertFault faults connection record = some fault ∧ fault.raised = error := by
  obtain ⟨rfl, hfault | ⟨hnone, hraises⟩⟩ := Session.execute_raises.mp h
  · obtain ⟨fault, hfault, hraised⟩ := at_eq_some hfault
    exact ⟨rfl, fault, by rw [insertFault, hfault, Option.some_or], hraised⟩
  · unfold insertRow at hraises
    cases hinsert : JobTables.insertRow connection'.working record with
    | some inserted =>
      rw [hinsert] at hraises
      cases hraises
    | none =>
      rw [hinsert] at hraises
      cases hraises
      refine ⟨rfl, .integrityError, ?_, rfl⟩
      rw [insertFault, eq_none_of_at hnone, hinsert]
      rfl

/-- The `INSERT` returns if there is neither. -/
theorem execute_insertRow_returns {record : JobRecord} {done : Unit}
    (h : Session.execute (faults.at .write) (insertRow record) connection = (.ok done, connection')) :
    insertFault faults connection record = none ∧
      ∃ inserted, connection.working.insertRow record = some inserted ∧
        connection' = { connection with working := inserted } := by
  obtain ⟨hnone, inserted, hreturns, rfl⟩ := Session.execute_returns.mp h
  unfold insertRow at hreturns
  cases hinsert : JobTables.insertRow connection.working record with
  | none =>
    rw [hinsert] at hreturns
    cases hreturns
  | some found =>
    rw [hinsert] at hreturns
    cases hreturns
    refine ⟨?_, inserted, rfl, rfl⟩
    rw [insertFault, eq_none_of_at hnone, hinsert]
    rfl

/-- What the `try` statement of `create` leaves open when it raises. -/
theorem insertJob_raises
    (h : insertJob faults m key source payload idempotencyKey connection = (.error error, connection')) :
    (∃ fault, creationFault faults connection (.created key source payload idempotencyKey m.now) = some fault ∧
      fault.raised = error) ∧ connection'.committed = connection.committed ∧
    (connection' = connection ↔
      insertFault faults connection (.created key source payload idempotencyKey m.now) ≠ none) := by
  rcases Session.bind_raises.mp h with hinsert | ⟨done, between, hinsert, hrest⟩
  · obtain ⟨rfl, fault, hfault, hraised⟩ := execute_insertRow_raises hinsert
    refine ⟨⟨fault, by rw [creationFault, hfault, Option.some_or], hraised⟩, rfl, iff_of_true rfl ?_⟩
    rw [hfault]
    exact Option.some_ne_none fault
  · obtain ⟨hnone, inserted, hinserted, rfl⟩ := execute_insertRow_returns hinsert
    obtain ⟨hshows, hshowsEvent⟩ := @insertRow_ne key _ _ _ hinserted
    rcases Session.bind_raises.mp hrest with hevent | ⟨event, appended, hevent, hcommit⟩
    · obtain ⟨rfl, hfault⟩ := appendEventLocked_raises hevent
      refine ⟨?_, rfl, iff_of_false (fun hsame => hshows (congrArg Connection.working hsame)) (not_not.mpr hnone)⟩
      rw [creationFault, hnone, Option.none_or, ← Option.or_assoc]
      unfold Faults.at at hfault
      rw [← Option.map_or] at hfault
      obtain ⟨fault, hfault, hraised⟩ := Option.map_eq_some_iff.mp hfault
      exact ⟨fault, by rw [hfault, Option.some_or], hraised⟩
    · obtain ⟨hnext, hinsertEvent, rfl⟩ := appendEventLocked_returns hevent
      obtain ⟨rfl, hfault⟩ := Session.commit_raises.mp hcommit
      obtain ⟨fault, hfault, hraised⟩ := at_eq_some hfault
      refine ⟨⟨fault, ?_, hraised⟩, rfl,
        iff_of_false (fun hsame => hshowsEvent _ _ _ (congrArg Connection.working hsame)) (not_not.mpr hnone)⟩
      rw [creationFault, hnone, eq_none_of_at hnext, eq_none_of_at hinsertEvent, hfault]
      rfl

/-- What the `try` statement of `create` leaves when it returns. -/
theorem insertJob_returns {done : Unit}
    (h : insertJob faults m key source payload idempotencyKey connection = (.ok done, connection')) :
    creationFault faults connection (.created key source payload idempotencyKey m.now) = none ∧
      insertFault faults connection (.created key source payload idempotencyKey m.now) = none ∧
        connection'.working ≠ connection.working := by
  obtain ⟨inserting, between, hinsert, hrest⟩ := Session.bind_returns.mp h
  obtain ⟨hnone, inserted, hinserted, rfl⟩ := execute_insertRow_returns hinsert
  obtain ⟨event, appended, hevent, hcommit⟩ := Session.bind_returns.mp hrest
  obtain ⟨hnext, hinsertEvent, rfl⟩ := appendEventLocked_returns hevent
  obtain ⟨hcommitted, rfl⟩ := Session.commit_returns.mp hcommit
  refine ⟨?_, hnone, (@insertRow_ne key _ _ _ hinserted).2 _ _ _⟩
  rw [creationFault, hnone, eq_none_of_at hnext, eq_none_of_at hinsertEvent, eq_none_of_at hcommitted]
  rfl

/-- A lookup by an idempotency key raises without a trace, on a fault. -/
theorem find_raises {statement : Statement} {tenantId : String}
    (h : find faults statement tenantId idempotencyKey connection = (.error error, connection')) :
    connection' = connection ∧ idempotencyKey ≠ none ∧ faults statement ≠ none := by
  cases idempotencyKey with
  | none => cases h
  | some text =>
    obtain ⟨rfl, hfault⟩ := Session.select_raises.mp h
    exact ⟨rfl, Option.some_ne_none text, ne_none_of_at hfault⟩

/-- A lookup by an idempotency key that returns has had no fault. -/
theorem find_returns {statement : Statement} {tenantId : String} {found : Option JobRecord}
    (h : find faults statement tenantId idempotencyKey connection = (.ok found, connection')) :
    connection' = connection ∧ ¬ (idempotencyKey ≠ none ∧ faults statement ≠ none) := by
  cases idempotencyKey with
  | none =>
    cases h
    exact ⟨rfl, fun hfault => hfault.1 rfl⟩
  | some text =>
    obtain ⟨hnone, -, rfl⟩ := Session.select_returns.mp h
    exact ⟨rfl, fun hfault => hfault.2 (eq_none_of_at hnone)⟩

/-- After an integrity error, `create` raises with everything rolled back, or in the rollback. -/
theorem recover_raises {tenantId : String}
    (h : recover faults tenantId idempotencyKey connection = (.error error, connection')) :
    (faults .rollback ≠ none ∧ connection' = connection) ∨
      faults .rollback = none ∧ connection' = .clean connection.committed := by
  rcases Session.bind_raises.mp h with hrollback | ⟨done, between, hrollback, hrest⟩
  · obtain ⟨rfl, hfault⟩ := Session.rollback_raises.mp hrollback
    exact .inl ⟨ne_none_of_at hfault, rfl⟩
  · obtain ⟨hnone, rfl⟩ := Session.rollback_returns.mp hrollback
    refine .inr ⟨eq_none_of_at hnone, ?_⟩
    rcases Session.bind_raises.mp hrest with hfind | ⟨found, after, hfind, hlast⟩
    · exact (find_raises hfind).1
    · obtain ⟨rfl, -⟩ := find_returns hfind
      cases found with
      | some existing => cases hlast
      | none =>
        cases hlast
        rfl

/-- The `try` statement of `create` and its handler raise without a trace exactly if the rollback finds nothing
else to undo, or the `INSERT` fails and nothing is rolled back. -/
theorem insertOrFind_raises
    (h : insertOrFind faults m key source payload idempotencyKey connection = (.error error, connection')) :
    connection' = connection ↔
      if creationFault faults connection (.created key source payload idempotencyKey m.now) = some .integrityError ∧
        faults .rollback = none then connection.working = connection.committed
      else insertFault faults connection (.created key source payload idempotencyKey m.now) ≠ none := by
  obtain ⟨first, between, htry, hhandle⟩ := Session.rescue_raises.mp h
  have hinsert : insertJob faults m key source payload idempotencyKey connection = (.error first, between) := by
    rcases Session.bind_raises.mp htry with hinsert | ⟨done, after, -, hpure⟩
    · exact hinsert
    · cases hpure
  obtain ⟨⟨fault, hfault, hraised⟩, hcommitted, htrace⟩ := insertJob_raises hinsert
  subst hraised
  cases fault with
  | otherError =>
    cases hhandle
    rw [hfault, if_neg fun hboth => absurd hboth.1 (by decide)]
    exact htrace
  | integrityError =>
    have hrecover : recover faults key.tenantId idempotencyKey between = (.error error, connection') := by
      rcases Session.bind_raises.mp hhandle with hrecover | ⟨existing, after, -, hpure⟩
      · exact hrecover
      · cases hpure
    rcases recover_raises hrecover with ⟨hrollback, rfl⟩ | ⟨hrollback, rfl⟩
    · rw [if_neg fun hboth => hrollback hboth.2]
      exact htrace
    · rw [if_pos ⟨hfault, hrollback⟩, hcommitted]
      constructor
      · exact fun hsame => (congrArg Connection.working hsame).symm
      · exact fun hclean => congrArg (Connection.mk connection.committed) hclean.symm

/-- The `try` statement of `create` that inserts a job leaves a trace. -/
theorem insertOrFind_returns
    (h : insertOrFind faults m key source payload idempotencyKey connection = (.ok none, connection')) :
    creationFault faults connection (.created key source payload idempotencyKey m.now) = none ∧
      insertFault faults connection (.created key source payload idempotencyKey m.now) = none ∧
        connection'.working ≠ connection.working := by
  rcases Session.rescue_returns.mp h with htry | ⟨first, between, -, hhandle⟩
  · obtain ⟨done, after, hinsert, hpure⟩ := Session.bind_returns.mp htry
    cases hpure
    exact insertJob_returns hinsert
  · unfold handle at hhandle
    split at hhandle
    · obtain ⟨existing, after, -, hpure⟩ := Session.bind_returns.mp hhandle
      cases hpure
    · cases hhandle

/-- `create` that raises leaves no trace exactly under its condition. -/
theorem create_raises {tenantId : String}
    (h : create faults m tenantId source payload idempotencyKey connection = (.error error, connection')) :
    connection' = connection ↔ Harmless faults m connection (.create tenantId source payload idempotencyKey) := by
  rcases Session.bind_raises.mp h with hlookup | ⟨found, between, hlookup, hrest⟩
  · obtain ⟨rfl, hfault⟩ := find_raises hlookup
    exact iff_of_true rfl (.inl hfault)
  · obtain ⟨rfl, hlooked⟩ := find_returns hlookup
    cases found with
    | some existing => cases hrest
    | none =>
      refine Iff.trans ?_ (or_iff_right hlooked).symm
      rcases Session.bind_raises.mp hrest with hinsert | ⟨won, after, hinsert, hreload⟩
      · exact insertOrFind_raises hinsert
      · cases won with
        | some existing => cases hreload
        | none =>
          obtain ⟨hnoFault, hinserted, hshows⟩ := insertOrFind_returns hinsert
          have hafter : connection' = after := by
            rcases Session.bind_raises.mp hreload with hselect | ⟨created, reloaded, hselect, hlast⟩
            · exact (Session.select_raises.mp hselect).1
            · obtain ⟨-, -, rfl⟩ := Session.select_returns.mp hselect
              cases created with
              | some record => cases hlast
              | none =>
                cases hlast
                rfl
          change _ ↔ if creationFault faults between (.created ⟨tenantId, "job_" ++ m.uuid⟩ source payload idempotencyKey
              m.now) = some .integrityError ∧ faults .rollback = none then between.working = between.committed
            else insertFault faults between (.created ⟨tenantId, "job_" ++ m.uuid⟩ source payload idempotencyKey m.now) ≠
              none
          rw [hafter, hnoFault, if_neg fun hboth => absurd hboth.1 (by decide)]
          exact iff_of_false (fun hsame => hshows (congrArg Connection.working hsame)) (not_not.mpr hinserted)

/-- A call that raises leaves the connection as it was exactly under its condition. -/
theorem perform_raises {call : RepositoryCall} (h : perform faults m call connection = (.error error, connection')) :
    connection' = connection ↔ Harmless faults m connection call := by
  have hread : ∀ {answer : State → RepositoryResult},
      read faults answer connection = (.error error, connection') → connection' = connection :=
    fun hread => (Session.select_raises.mp hread).1
  have hlast : ∀ {Value : Type} {session : Calling Value} {result : Value → RepositoryResult},
      (session >>= fun value => pure (result value)) connection = (.error error, connection') →
        session connection = (.error error, connection') := by
    intro Value session result hbind
    rcases Session.bind_raises.mp hbind with hsession | ⟨value, between, -, hpure⟩
    · exact hsession
    · cases hpure
  cases call with
  | get key => exact iff_of_true (hread h) trivial
  | listJobs tenantId status source limit => exact iff_of_true (hread h) trivial
  | findByIdempotencyKey tenantId idempotencyKey => exact iff_of_true (hread h) trivial
  | listEvents key afterSequence limit => exact iff_of_true (hread h) trivial
  | create tenantId source payload idempotencyKey => exact create_raises (hlast h)
  | markRunning key requireQueued => exact markRunning_raises (hlast h)
  | transition key status resultCount errorCode errorMessage => exact transition_raises (hlast h)
  | appendEvent key kind payload => exact appendEvent_raises (hlast h)
  | setDispatchId key dispatchId => exact setDispatchId_raises (hlast h)
  | requestCancel key => exact requestCancel_raises (hlast h)

/-- The calls of a run that returned. -/
def returned : Connection State → List Made → List Made
  | _, [] => []
  | connection, made :: rest =>
    match (perform made.faults made.moment made.call connection).1 with
    | .ok _ => made :: returned (made.after connection) rest
    | .error _ => returned (made.after connection) rest

/-- Every call of a run that raises meets its condition. -/
def AllHarmless : Connection State → List Made → Prop
  | _, [] => True
  | connection, made :: rest =>
    (∀ error, (perform made.faults made.moment made.call connection).1 = .error error →
      Harmless made.faults made.moment connection made.call) ∧ AllHarmless (made.after connection) rest

/-- A run whose failed calls all meet their condition ends as the run of the calls that returned. -/
theorem performAll_returned {calls : List Made} (h : AllHarmless connection calls) :
    performAll connection calls = performAll connection (returned connection calls) := by
  induction calls generalizing connection with
  | nil => rfl
  | cons made rest ih =>
    obtain ⟨hharmless, hrest⟩ := h
    unfold returned
    cases hresult : (perform made.faults made.moment made.call connection).1 with
    | ok result => exact ih hrest
    | error error =>
      have hsame : made.after connection = connection :=
        (perform_raises (Prod.ext hresult rfl)).mpr (hharmless error hresult)
      have htail := ih hrest
      rw [hsame] at htail
      change performAll (made.after connection) rest = performAll connection (returned (made.after connection) rest)
      rw [hsame]
      exact htail

end SqliteTransactions

/-- A call of the SQLite repository that raises leaves no trace, whatever is called later, exactly if it had
changed nothing yet or was rolled back with nothing else open. -/
theorem failed_call_leaves_no_trace_iff (connection : Connection SqliteJobs.State) (made : SqliteTransactions.Made)
    {error : Raised} (hraised : (SqliteTransactions.perform made.faults made.moment made.call connection).1 = .error error) :
    SqliteTransactions.NoTrace made connection ↔
      SqliteTransactions.Harmless made.faults made.moment connection made.call := by
  rw [SqliteTransactions.noTrace_iff]
  exact SqliteTransactions.perform_raises (Prod.ext hraised rfl)

namespace SqliteTransactions

/-- One job that is queued. -/
def oneQueued : SqliteJobs.State :=
  (SqliteJobs.queried.perform .empty ⟨0, "1"⟩ (.create "tenant-a" .soc (.obj []) none)).1

/-- A cancellation whose `UPDATE` fails. -/
def failedCancel : Made :=
  ⟨.requestCancel ⟨"tenant-a", "job_1"⟩, ⟨1, "2"⟩, fun statement => if statement = .write then some .otherError else none⟩

/-- The theorem applies to it: it leaves no trace. -/
theorem failed_call_leaves_no_trace_iff_failedCancel : NoTrace failedCancel (.clean oneQueued) :=
  (@failed_call_leaves_no_trace_iff (.clean oneQueued) failedCancel .database rfl).mpr
    (.inr fun _ _ => .inl (Option.some_ne_none SqliteFault.otherError))

/-- A claim whose event cannot be inserted. -/
def interruptedClaim : Made :=
  ⟨.markRunning ⟨"tenant-a", "job_1"⟩ true, ⟨1, "2"⟩,
    fun statement => if statement = .insertEvent then some .otherError else none⟩

/-- The next call, of another tenant. -/
def unrelatedCall : Made := ⟨.create "tenant-b" .soc (.obj []) none, ⟨2, "3"⟩, noFaults⟩

set_option maxRecDepth 8000 in
/-- The next call of another tenant makes the new status durable, without its event. -/
theorem interruptedClaim_leaves_trace :
    (perform interruptedClaim.faults interruptedClaim.moment interruptedClaim.call (.clean oneQueued)).1 =
      .error .database ∧
    ((performAll (interruptedClaim.after (.clean oneQueued)) [unrelatedCall]).committed.view
      ⟨"tenant-a", "job_1"⟩).map (fun v => (v.record.status, v.record.attempt, v.log.length)) = some (.running, 1, 1) ∧
    ¬ NoTrace interruptedClaim (.clean oneQueued) := by
  have hdurable : ((performAll (interruptedClaim.after (.clean oneQueued)) [unrelatedCall]).committed.view
      ⟨"tenant-a", "job_1"⟩).map (fun v => (v.record.status, v.record.attempt, v.log.length)) =
        some (.running, 1, 1) := by
    decide +kernel
  refine ⟨rfl, hdurable, fun h => ?_⟩
  rw [h [unrelatedCall]] at hdurable
  revert hdurable
  decide +kernel

end SqliteTransactions

end SharedIntegration

import SharedIntegration.Core
import SharedIntegration.Library.Ordering

/-!
# Scan jobs, their records and their event logs

A job is seen by every backend as a record and a log. The operations of a repository act
on one job at a time; this file states what each does to the record and to the log, with
the event it appends.
-/

namespace SharedIntegration

/-- `JobStatus`. -/
inductive JobStatus
  | queued | running | succeeded | failed | cancelled | timedOut
deriving DecidableEq, Repr

namespace JobStatus

/-- The stored text of a status. -/
def value : JobStatus → String
  | queued => "queued"
  | running => "running"
  | succeeded => "succeeded"
  | failed => "failed"
  | cancelled => "cancelled"
  | timedOut => "timed_out"

/-- `JobStatus.terminal`. -/
def terminal : JobStatus → Bool
  | succeeded | failed | cancelled | timedOut => true
  | queued | running => false

end JobStatus

/-- A job is addressed by its tenant and its id together. -/
structure JobKey where
  tenantId : String
  jobId : String
deriving DecidableEq, Repr

/-- `JobRecord`. -/
structure JobRecord where
  id : String
  tenantId : String
  source : FindingSource
  payload : Document
  status : JobStatus
  createdAt : Instant
  updatedAt : Instant
  idempotencyKey : Option String
  dispatchId : Option String
  attempt : ℕ
  cancelRequested : Bool
  resultCount : ℕ
  errorCode : Option String
  errorMessage : Option String

namespace JobRecord

/-- The key a record is stored under. -/
def key (record : JobRecord) : JobKey := ⟨record.tenantId, record.id⟩

/-- The columns written by `create`. -/
def created (key : JobKey) (source : FindingSource) (payload : Document)
    (idempotencyKey : Option String) (now : Instant) : JobRecord where
  id := key.jobId
  tenantId := key.tenantId
  source := source
  payload := payload
  status := .queued
  createdAt := now
  updatedAt := now
  idempotencyKey := idempotencyKey
  dispatchId := none
  attempt := 0
  cancelRequested := false
  resultCount := 0
  errorCode := none
  errorMessage := none

/-- The columns written by `mark_running`. -/
def startAttempt (now : Instant) (record : JobRecord) : JobRecord :=
  { record with
    status := .running
    attempt := record.attempt + 1
    updatedAt := now
    errorCode := none
    errorMessage := none }

/-- The columns written by `transition`, whatever was stored. -/
def writeStatus (now : Instant) (status : JobStatus) (resultCount : Option ℕ)
    (errorCode errorMessage : Option String) (record : JobRecord) : JobRecord :=
  { record with
    status := status
    updatedAt := now
    resultCount := resultCount.getD record.resultCount
    errorCode := errorCode
    errorMessage := errorMessage }

/-- The status `request_cancel` writes for a job it read with the given status. -/
def cancelStatus (current : JobStatus) : JobStatus :=
  if current = .queued then .cancelled else current

/-- The columns written by `request_cancel` after reading the given status. -/
def flagCancel (now : Instant) (current : JobStatus) (record : JobRecord) : JobRecord :=
  { record with
    cancelRequested := true
    status := cancelStatus current
    updatedAt := now }

/-- The columns written by `set_dispatch_id`. -/
def recordDispatch (now : Instant) (dispatchId : String) (record : JobRecord) : JobRecord :=
  { record with dispatchId := some dispatchId, updatedAt := now }

end JobRecord

/-- `JobEvent`. -/
structure JobEvent where
  sequence : ℕ
  jobId : String
  tenantId : String
  kind : String
  payload : Document
  createdAt : Instant

/-- The key of the job an event belongs to. -/
def JobEvent.key (event : JobEvent) : JobKey := ⟨event.tenantId, event.jobId⟩

/-- `COALESCE(MAX(sequence), 0) + 1`. -/
def nextSequence (log : List JobEvent) : ℕ := Relational.maxKey JobEvent.sequence log + 1

/-- A nullable text column as JSON. -/
def nullable : Option String → Document
  | none => .null
  | some text => .str text

/-- The payload of a status event; an empty error code counts as no error. -/
def statusPayload (status : JobStatus) (errorCode errorMessage : Option String) : Document :=
  match errorCode with
  | some code =>
    if code = "" then .obj [("status", .str status.value)]
    else .obj [("status", .str status.value),
      ("error", .obj [("code", .str code), ("message", nullable errorMessage)])]
  | none => .obj [("status", .str status.value)]

/-- One job as a repository shows it: its record and its event log in sequence order. -/
structure JobView where
  record : JobRecord
  log : List JobEvent

namespace JobView

variable (view : JobView)

/-- `_append_event` on the job's own log. -/
def append (kind : String) (payload : Document) (now : Instant) : JobView :=
  { view with log := view.log ++
      [⟨nextSequence view.log, view.record.id, view.record.tenantId, kind, payload, now⟩] }

/-- A newly created job: queued, with the status event that says so. -/
def created (key : JobKey) (source : FindingSource) (payload : Document)
    (idempotencyKey : Option String) (now : Instant) : JobView :=
  JobView.append ⟨.created key source payload idempotencyKey now, []⟩ "status"
    (statusPayload .queued none none) now

/-- The condition of the `UPDATE` in `mark_running`. -/
def claimable (requireQueued : Bool) (record : JobRecord) : Bool :=
  record.status = (if requireQueued then .queued else .running) && !record.cancelRequested

/-- `mark_running` on a claimable job. -/
def markRunning (now : Instant) : JobView :=
  JobView.append { view with record := view.record.startAttempt now } "status"
    (statusPayload .running none none) now

/-- `transition`. -/
def transition (now : Instant) (status : JobStatus) (resultCount : Option ℕ)
    (errorCode errorMessage : Option String) : JobView :=
  JobView.append
    { view with record := view.record.writeStatus now status resultCount errorCode errorMessage }
    "status" (statusPayload status errorCode errorMessage) now

/-- `set_dispatch_id`. -/
def setDispatchId (now : Instant) (dispatchId : String) : JobView :=
  { view with record := view.record.recordDispatch now dispatchId }

/-- The write of `request_cancel`, for the status it has read. -/
def writeCancel (now : Instant) (current : JobStatus) : JobView :=
  JobView.append { view with record := view.record.flagCancel now current } "cancel_requested"
    (statusPayload (JobRecord.cancelStatus current) none none) now

/-- `request_cancel`: a terminal job is left alone. -/
def requestCancel (now : Instant) : JobView :=
  if view.record.status.terminal then view else view.writeCancel now view.record.status

@[simp] theorem append_record (kind : String) (payload : Document) (now : Instant) :
    (view.append kind payload now).record = view.record := rfl

@[simp] theorem append_log (kind : String) (payload : Document) (now : Instant) :
    (view.append kind payload now).log = view.log ++
      [⟨nextSequence view.log, view.record.id, view.record.tenantId, kind, payload, now⟩] := rfl

end JobView

end SharedIntegration

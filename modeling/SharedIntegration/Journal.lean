import SharedIntegration.RepositoryCalls
import SharedIntegration.JobLog
import SharedIntegration.FindingDict

/-!
# The event log as a journal of the job row

Row and log of a job are written by different statements of the same operation. Read backwards,
the log tells the row: the last recorded status, how often the job was started, whether a
cancellation was requested, and the error of the last status event.
-/

namespace SharedIntegration

open AppendLog

/-- A status event, as opposed to a request to cancel. -/
def JobEvent.isStatus (event : JobEvent) : Bool := event.kind = "status"

/-- An event that records a status. -/
def JobEvent.recordsStatus (event : JobEvent) : Bool :=
  event.kind = "status" ∨ event.kind = "cancel_requested"

/-- A status event that records a start. -/
def JobEvent.isStart (event : JobEvent) : Bool := event.isStatus && event.status? = some .running

/-- A field of the error an event carries. -/
def JobEvent.error? (event : JobEvent) (field : String) : Option String :=
  ((event.payload.get? "error").bind fun error => error.get? field).bind Json.asStr?

/-- The log of the job tells its row. -/
structure JobView.Journal (v : JobView) : Prop where
  numbered : Numbered JobEvent.sequence v.log
  status : ∃ event, (v.log.filter JobEvent.recordsStatus).getLast? = some event ∧
    event.status? = some v.record.status
  attempt : v.record.attempt = (v.log.filter JobEvent.isStart).length
  cancelRequested : v.record.cancelRequested = true ↔ ∃ event ∈ v.log, event.kind = "cancel_requested"
  error : ∃ event, (v.log.filter JobEvent.isStatus).getLast? = some event ∧
    nonEmpty v.record.errorCode = event.error? "code" ∧ v.record.errorMessage = event.error? "message"

/-- The domain of the journal: transitions end a job, an error message comes with an error code,
and workers append events of other kinds. -/
def RepositoryCall.Proper : RepositoryCall → Prop
  | .transition _ status _ errorCode errorMessage =>
    status.terminal = true ∧ (errorMessage ≠ none → nonEmpty errorCode ≠ none)
  | .appendEvent _ kind _ => kind ≠ "status" ∧ kind ≠ "cancel_requested"
  | _ => True

namespace JobView

/-- The event a view appends is the last of its log. -/
theorem getLast_filter_append (p : JobEvent → Bool) (log : List JobEvent) (event : JobEvent) :
    ((log ++ [event]).filter p).getLast? =
      if p event then some event else (log.filter p).getLast? := by
  cases hp : p event with
  | true => simp [List.filter_append, hp]
  | false => simp [List.filter_append, hp]

/-- The event of a written status carries its error. -/
theorem error_of_statusPayload {status : JobStatus} {errorCode errorMessage : Option String}
    (hmessage : errorMessage ≠ none → nonEmpty errorCode ≠ none) (event : JobEvent)
    (hpayload : event.payload = statusPayload status errorCode errorMessage) :
    nonEmpty errorCode = event.error? "code" ∧ errorMessage = event.error? "message" := by
  unfold JobEvent.error?
  rw [hpayload]
  cases errorCode with
  | none =>
    have hnone : errorMessage = none := by
      by_contra hsome
      exact hmessage hsome rfl
    rw [hnone]
    exact ⟨rfl, rfl⟩
  | some code =>
    by_cases hcode : code = ""
    · have hnone : errorMessage = none := by
        by_contra hsome
        exact hmessage hsome (by simp [nonEmpty, hcode])
      rw [hnone]
      simp only [statusPayload, if_pos hcode]
      exact ⟨by simp [nonEmpty, hcode]; rfl, rfl⟩
    · simp only [statusPayload, if_neg hcode]
      have hkept : nonEmpty (some code) = some code := by simp [nonEmpty, Option.filter, hcode]
      rw [hkept]
      refine ⟨rfl, ?_⟩
      cases errorMessage <;> rfl

/-- A new job is told by its first event. -/
theorem journal_created (key : JobKey) (source : FindingSource) (payload : Document)
    (idempotencyKey : Option String) (now : Instant) :
    (created key source payload idempotencyKey now).Journal := by
  refine ⟨rfl, ⟨_, rfl, rfl⟩, rfl, ?_, ⟨_, rfl, rfl, rfl⟩⟩
  constructor
  · exact fun hrequested => nomatch hrequested
  · rintro ⟨event, hevent, hkind⟩
    rw [List.mem_singleton.mp hevent] at hkind
    have hdifferent : "status" ≠ "cancel_requested" := by decide
    exact absurd hkind hdifferent

/-- The next event continues the numbering. -/
theorem Journal.numbered_append {v : JobView} (h : v.Journal) (record : JobRecord) (kind : String)
    (payload : Document) (now : Instant) :
    Numbered JobEvent.sequence (JobView.append { v with record } kind payload now).log := by
  refine h.numbered.concat ?_
  rw [nextSequence, h.numbered.maxKey_eq]

/-- Appending a worker's event changes nothing that the journal tells. -/
theorem Journal.append {v : JobView} (h : v.Journal) {kind : String}
    (hkind : kind ≠ "status" ∧ kind ≠ "cancel_requested") (payload : Document) (now : Instant) :
    (v.append kind payload now).Journal := by
  obtain ⟨hstatus, hcancel⟩ := hkind
  refine ⟨h.numbered_append _ kind payload now, ?_, ?_, ?_, ?_⟩
  · rw [append_log, getLast_filter_append, if_neg (by simp [JobEvent.recordsStatus, hstatus, hcancel])]
    exact h.status
  · rw [append_log, List.filter_append, List.length_append, append_record, h.attempt]
    simp [JobEvent.isStart, JobEvent.isStatus, hstatus]
  · rw [append_log, append_record, h.cancelRequested]
    simp [hcancel]
  · rw [append_log, getLast_filter_append, if_neg (by simp [JobEvent.isStatus, hstatus])]
    exact h.error

/-- A status event with the columns that it tells. -/
theorem Journal.writeStatus {v : JobView} (h : v.Journal) (record : JobRecord)
    {errorCode errorMessage : Option String} (now : Instant)
    (hmessage : errorMessage ≠ none → nonEmpty errorCode ≠ none)
    (hattempt : record.attempt = v.record.attempt + if record.status = .running then 1 else 0)
    (hcancel : record.cancelRequested = v.record.cancelRequested) (hcode : record.errorCode = errorCode)
    (herror : record.errorMessage = errorMessage) :
    (JobView.append { v with record } "status" (statusPayload record.status errorCode errorMessage)
      now).Journal := by
  have hstatus : ∀ event : JobEvent, event.kind = "status" →
      event.payload = statusPayload record.status errorCode errorMessage →
      event.status? = some record.status := by
    intro event hkind hpayload
    rw [JobEvent.status?, if_pos (.inl hkind), hpayload]
    exact status_of_statusPayload _ _ _
  refine ⟨h.numbered_append _ _ _ _, ?_, ?_, ?_, ?_⟩
  · rw [append_log, getLast_filter_append, if_pos (by simp [JobEvent.recordsStatus])]
    exact ⟨_, rfl, hstatus _ rfl rfl⟩
  · rw [append_log, List.filter_append, List.length_append, append_record, hattempt, h.attempt]
    congr 1
    rw [List.filter_singleton, JobEvent.isStart, hstatus _ rfl rfl]
    by_cases hrunning : record.status = .running <;> simp [JobEvent.isStatus, hrunning]
  · rw [append_log, append_record, hcancel, h.cancelRequested]
    simp
  · rw [append_log, getLast_filter_append, if_pos (by simp [JobEvent.isStatus])]
    refine ⟨_, rfl, ?_⟩
    rw [append_record, hcode, herror]
    exact error_of_statusPayload hmessage _ rfl

/-- The event of a cancellation with the columns that it tells. -/
theorem Journal.writeCancel {v : JobView} (h : v.Journal) (now : Instant) :
    (v.writeCancel now v.record.status).Journal := by
  refine ⟨h.numbered_append _ _ _ _, ?_, ?_, ?_, ?_⟩
  · rw [JobView.writeCancel, append_log, getLast_filter_append, if_pos (by simp [JobEvent.recordsStatus])]
    refine ⟨_, rfl, ?_⟩
    rw [JobEvent.status?, if_pos (.inr rfl)]
    exact status_of_statusPayload (JobRecord.cancelStatus v.record.status) none none
  · rw [JobView.writeCancel, append_log, List.filter_append, List.length_append]
    have hnone : List.filter JobEvent.isStart [⟨nextSequence v.log, v.record.id, v.record.tenantId,
        "cancel_requested", statusPayload (JobRecord.cancelStatus v.record.status) none none, now⟩] = [] := by
      simp [JobEvent.isStart, JobEvent.isStatus]
    have hattempt := h.attempt
    rw [← Nat.add_zero (List.filter JobEvent.isStart v.log).length] at hattempt
    exact hattempt.trans (congrArg (_ + List.length ·) hnone.symm)
  · rw [JobView.writeCancel, append_log]
    refine ⟨fun _ => ⟨_, List.mem_append_right _ (List.mem_singleton.mpr rfl), rfl⟩, fun _ => rfl⟩
  · rw [JobView.writeCancel, append_log, getLast_filter_append, if_neg (by simp [JobEvent.isStatus])]
    exact h.error

/-- Starting an attempt is told. -/
theorem Journal.markRunning {v : JobView} (h : v.Journal) (now : Instant) :
    (v.markRunning now).Journal :=
  h.writeStatus (v.record.startAttempt now) now (fun hmessage => absurd rfl hmessage) rfl rfl rfl rfl

/-- A transition that ends the job is told. -/
theorem Journal.transition {v : JobView} (h : v.Journal) (now : Instant) {status : JobStatus}
    (resultCount : Option ℕ) {errorCode errorMessage : Option String} (hterminal : status.terminal = true)
    (hmessage : errorMessage ≠ none → nonEmpty errorCode ≠ none) :
    (v.transition now status resultCount errorCode errorMessage).Journal := by
  refine h.writeStatus (v.record.writeStatus now status resultCount errorCode errorMessage) now
    hmessage ?_ rfl rfl rfl
  change v.record.attempt = v.record.attempt + if status = .running then 1 else 0
  rw [if_neg, Nat.add_zero]
  rintro rfl
  cases hterminal

/-- A request to cancel is told. -/
theorem Journal.requestCancel {v : JobView} (h : v.Journal) (now : Instant) :
    (v.requestCancel now).Journal := by
  unfold JobView.requestCancel
  split
  · exact h
  · exact h.writeCancel now

end JobView

namespace JobRepository

variable {Store : Type} {repository : JobRepository Store}

/-- Every log tells its row. -/
def Told (repository : JobRepository Store) (w : Store) : Prop :=
  ∀ key v, repository.view w key = some v → v.Journal

/-- Nothing is told of an empty repository. -/
theorem told_empty (repository : JobRepository Store) : repository.Told repository.empty := by
  intro key v hv
  rw [repository.view_empty] at hv
  cases hv

/-- Replacing one told job by another. -/
theorem Told.update {w w' : Store} (hw : repository.Told w) {key : JobKey} {v : JobView}
    (hview : repository.view w' = Function.update (repository.view w) key (some v)) (hv : v.Journal) :
    repository.Told w' := by
  intro other u hu
  by_cases hother : other = key
  · rw [hview, hother, Function.update_self, Option.some.injEq] at hu
    exact hu ▸ hv
  · rw [hview, Function.update_of_ne hother] at hu
    exact hw other u hu

/-- Creating a job is told. -/
theorem Told.create {w w' : Store} (hw : repository.Told w) {m : Moment} {tenantId : String}
    {source : FindingSource} {payload : Document} {idempotencyKey : Option String} {record : JobRecord}
    {isNew : Bool} (h : repository.create w m tenantId source payload idempotencyKey =
      .ok (w', record, isNew)) : repository.Told w' := by
  obtain ⟨-, rfl, -⟩ | ⟨-, -, -, -, hview⟩ := repository.create_ok h
  · exact hw
  · exact hw.update hview (JobView.journal_created _ _ _ _ _)

/-- Claiming a job is told. -/
theorem Told.markRunning {w : Store} (hw : repository.Told w) (m : Moment) (key : JobKey)
    (requireQueued : Bool) : repository.Told (repository.markRunning w m key requireQueued).1 := by
  by_cases hclaim : ∃ v, repository.view w key = some v ∧ JobView.claimable requireQueued v.record = true
  · obtain ⟨v, hv, hclaimable⟩ := hclaim
    exact hw.update (repository.markRunning_claimed m requireQueued hv hclaimable).2
      ((hw key v hv).markRunning m.now)
  · rw [repository.markRunning_refused m requireQueued]
    · exact hw
    · intro v hv
      by_contra hclaimable
      exact hclaim ⟨v, hv, Bool.not_eq_false _ ▸ hclaimable⟩

/-- Recording a dispatch is told. -/
theorem Told.setDispatchId {w : Store} (hw : repository.Told w) (m : Moment) (key : JobKey)
    (dispatchId : String) : repository.Told (repository.setDispatchId w m key dispatchId) := by
  have hview := repository.setDispatchId_view w m key dispatchId
  cases hv : repository.view w key with
  | none =>
    rw [hv, Option.map_none] at hview
    intro other u hu
    rw [view_of_missing hv hview] at hu
    exact hw other u hu
  | some v =>
    rw [hv, Option.map_some] at hview
    have hjournal := hw key v hv
    exact hw.update hview ⟨hjournal.numbered, hjournal.status, hjournal.attempt,
      hjournal.cancelRequested, hjournal.error⟩

end JobRepository

namespace QueriedRepository

variable {Store : Type} {repository : QueriedRepository Store}

/-- Every proper call leaves every job told. -/
theorem told_perform {w : Store} {m : Moment} {call : RepositoryCall} (hw : repository.Told w)
    (hproper : call.Proper) : repository.Told (repository.perform w m call).1 := by
  cases call with
  | get | listJobs | findByIdempotencyKey | listEvents => exact hw
  | create tenantId source payload idempotencyKey =>
    unfold perform
    dsimp only
    cases hcreate : repository.create w m tenantId source payload idempotencyKey with
    | ok created => exact hw.create hcreate
    | error error => exact hw
  | markRunning key requireQueued => exact hw.markRunning m key requireQueued
  | transition key status resultCount errorCode errorMessage =>
    unfold perform
    dsimp only
    cases hv : repository.view w key with
    | none =>
      rw [repository.transition_missing m status resultCount errorCode errorMessage hv]
      exact hw
    | some v =>
      obtain ⟨w', htransition, hview⟩ :=
        repository.transition_ok m status resultCount errorCode errorMessage hv
      rw [htransition]
      exact hw.update hview ((hw key v hv).transition m.now resultCount hproper.1 hproper.2)
  | appendEvent key kind payload =>
    unfold perform
    dsimp only
    cases hv : repository.view w key with
    | none =>
      rw [repository.appendEvent_missing m kind payload hv]
      exact hw
    | some v =>
      obtain ⟨w', event, happend, hview⟩ := repository.appendEvent_ok m kind payload hv
      rw [happend]
      exact hw.update hview ((hw key v hv).append hproper payload m.now)
  | setDispatchId key dispatchId => exact hw.setDispatchId m key dispatchId
  | requestCancel key =>
    unfold perform
    dsimp only
    cases hv : repository.view w key with
    | none =>
      rw [repository.requestCancel_missing m hv]
      exact hw
    | some v =>
      obtain ⟨w', hcancel, hview⟩ := repository.requestCancel_ok m hv
      rw [hcancel]
      exact hw.update hview ((hw key v hv).requestCancel m.now)

end QueriedRepository

/-- After every list of proper calls on a job repository, every log tells its row, with an empty
error code counted as none. -/
theorem log_tells_row {Store : Type} (repository : QueriedRepository Store)
    (calls : List (RepositoryCall × Moment)) (hproper : ∀ call ∈ calls, call.1.Proper) (key : JobKey)
    (v : JobView) (hv : repository.view (repository.performAll repository.empty calls).1 key = some v) :
    v.Journal :=
  repository.performAll_invariant repository.Told RepositoryCall.Proper
    (fun _ _ _ hw hcall => QueriedRepository.told_perform hw hcall)
    (JobRepository.told_empty repository.toJobRepository) hproper key v hv

/-- A job that is started, cancelled and fails. -/
def startedAndFailed : List (RepositoryCall × Moment) :=
  let key : JobKey := ⟨"tenant-a", "job_1"⟩
  [(.create "tenant-a" .soc (.obj []) none, ⟨0, "1"⟩), (.markRunning key true, ⟨1, "2"⟩),
    (.appendEvent key "finding" (.obj []), ⟨2, "3"⟩), (.requestCancel key, ⟨3, "4"⟩),
    (.transition key .failed none (some "INTERNAL_ERROR") (some "broken"), ⟨4, "5"⟩)]

/-- The theorem applies to that job on both backends. -/
theorem log_tells_row_startedAndFailed :
    (∃ v, SqliteJobs.queried.view (SqliteJobs.queried.performAll SqliteJobs.queried.empty
      startedAndFailed).1 ⟨"tenant-a", "job_1"⟩ = some v ∧ v.log.length = 5 ∧ v.Journal) ∧
    ∃ v, (SqlJobs.queried FindingDict.core).view ((SqlJobs.queried FindingDict.core).performAll
      (SqlJobs.queried FindingDict.core).empty startedAndFailed).1 ⟨"tenant-a", "job_1"⟩ = some v ∧
      v.log.length = 5 ∧ v.Journal := by
  have hproper : ∀ call ∈ startedAndFailed, call.1.Proper := by
    intro call hcall
    simp only [startedAndFailed, List.mem_cons, List.not_mem_nil, or_false] at hcall
    rcases hcall with rfl | rfl | rfl | rfl | rfl
    · trivial
    · trivial
    · exact ⟨by decide, by decide⟩
    · trivial
    · exact ⟨rfl, fun _ => by decide⟩
  refine ⟨?_, ?_⟩
  · have hreach : ∃ v ∈ SqliteJobs.queried.view (SqliteJobs.queried.performAll SqliteJobs.queried.empty
        startedAndFailed).1 ⟨"tenant-a", "job_1"⟩, v.log.length = 5 := by decide +kernel
    obtain ⟨v, hv, hlength⟩ := hreach
    exact ⟨v, hv, hlength, log_tells_row SqliteJobs.queried startedAndFailed hproper _ v hv⟩
  · have hreach : ∃ v ∈ (SqlJobs.queried FindingDict.core).view ((SqlJobs.queried
        FindingDict.core).performAll (SqlJobs.queried FindingDict.core).empty startedAndFailed).1
          ⟨"tenant-a", "job_1"⟩, v.log.length = 5 := by decide +kernel
    obtain ⟨v, hv, hlength⟩ := hreach
    exact ⟨v, hv, hlength, log_tells_row (SqlJobs.queried FindingDict.core) startedAndFailed hproper _ v hv⟩

/-- A transition with an empty error code stores that code and records no error. -/
theorem log_omits_empty_code :
    ∃ v ∈ SqliteJobs.queried.view (SqliteJobs.queried.performAll SqliteJobs.queried.empty
        [(.create "tenant-a" .soc (.obj []) none, ⟨0, "1"⟩),
          (.transition ⟨"tenant-a", "job_1"⟩ .failed none (some "") none, ⟨1, "2"⟩)]).1
        ⟨"tenant-a", "job_1"⟩,
      v.record.errorCode = some "" ∧
      (v.log.filter JobEvent.isStatus).getLast?.bind (JobEvent.error? · "code") = none := by
  decide +kernel

end SharedIntegration

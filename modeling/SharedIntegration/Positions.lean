import SharedIntegration.Cursors
import SharedIntegration.EventStream
import SharedIntegration.Exchange

/-!
# Positions that clients supply

The cursor of `GET /v1/findings` and the `Last-Event-ID` of an event stream are texts that become integers
and then parameters of a statement. A `ValueError` on the way is answered with 400; an integer that the
database cannot hold is only noticed by its driver.
-/

namespace SharedIntegration

open Transition FindingLifecycle

/-- How `list_findings` ends. -/
inductive FindingsOutcome
  | page (items : List FindingLifecycleRecord) (nextCursor : Option String)
  | refused (answer : JsonAnswer)
  | raised (error : ListingError)

/-- `list_findings` with a registry that has `list_page`. -/
def listFindings (core : CoreLibrary) (decimal : Char → Option ℕ) (db : Database) (tenantId : String)
    (cursor : Option String) (limit : ℕ) (source : Option FindingSource) (severity : Option FindingSeverity)
    (status : Option FindingStatus) (requestId : String) : FindingsOutcome :=
  match listPageAt core decimal db tenantId cursor limit source severity status with
  | .ok (records, next) => .page records next
  | .error (.valueError _) =>
    .refused (errorAnswer 400 "INVALID_CURSOR" "The finding cursor is invalid" requestId false [])
  | .error (.outOfRange value) => .raised (.outOfRange value)

/-- A page, or an answer with status 400. -/
def FindingsOutcome.Answered : FindingsOutcome → Prop
  | .page _ _ => True
  | .refused answer => answer.statusCode = 400
  | .raised _ => False

/-- A listing is answered exactly if its cursor does not decode to an integer beyond the database. -/
theorem listFindings_answered_iff (core : CoreLibrary) (decimal : Char → Option ℕ) (db : Database)
    (tenantId : String) (cursor : Option String) (limit : ℕ) (source : Option FindingSource)
    (severity : Option FindingSeverity) (status : Option FindingStatus) (requestId : String) :
    (listFindings core decimal db tenantId cursor limit source severity status requestId).Answered ↔
      ∀ text ∈ cursor, ∀ rowId ∈ decodeCursor decimal text, rowId < integerBound := by
  unfold listFindings
  cases cursor with
  | none =>
    rw [listPageAt_ok rfl]
    exact ⟨fun _ text htext => absurd htext (by simp), fun _ => trivial⟩
  | some text =>
    simp only [Option.mem_some_iff, forall_eq']
    cases hdecode : decodeCursor decimal text with
    | none =>
      rw [listPageAt_error (pageStart_invalid hdecode)]
      exact ⟨fun _ rowId hrowId => absurd hrowId (by simp), fun _ => rfl⟩
    | some rowId =>
      simp only [Option.mem_some_iff, forall_eq']
      by_cases hbound : rowId < integerBound
      · rw [listPageAt_ok (pageStart_ok hdecode hbound)]
        exact ⟨fun _ => hbound, fun _ => trivial⟩
      · rw [listPageAt_error (pageStart_outOfRange hdecode hbound)]
        exact ⟨fun hraised => hraised.elim, fun hlt => absurd hlt hbound⟩

/-! ### Event streams -/

/-- `_error` about a job. -/
def jobError (statusCode : ℕ) (code message requestId jobId : String) : JsonAnswer where
  statusCode := statusCode
  content := .obj [("error", .obj ([("code", .str code), ("message", .str message), ("retryable", .bool false)] ++
    (if requestId = "" then [] else [("request_id", .str requestId)]) ++
    if jobId = "" then [] else [("job_id", .str jobId)]))]
  headers := []

/-- How `scan_events` begins. -/
inductive EventsOutcome
  | stream (stream : EventStream)
  | refused (answer : JsonAnswer)

/-- `int(last_event_id or "0")`; nothing is a `ValueError`. -/
def eventPosition (decimal : Char → Option ℕ) (lastEventId : Option String) : Option ℤ :=
  PyString.limitedInt? decimal ((lastEventId.filter (· ≠ "")).getD "0").toList

/-- `scan_events`. -/
def scanEvents {Store : Type} (repository : JobRepository Store) (decimal : Char → Option ℕ) (store : Store)
    (key : JobKey) (lastEventId : Option String) (requestId : String) : EventsOutcome :=
  match repository.get store key with
  | none => .refused (jobError 404 "JOB_NOT_FOUND" "Scan job not found" requestId key.jobId)
  | some _ =>
    match eventPosition decimal lastEventId with
    | none => .refused (jobError 400 "INVALID_EVENT_ID" "Last-Event-ID must be an integer" requestId key.jobId)
    | some after => .stream (.opened key after)

/-- The database holds the numbers of the job's events. -/
def LogFits {Store : Type} (repository : JobRepository Store) (store : Store) (key : JobKey) : Prop :=
  ∀ v ∈ repository.view store key, ∀ event ∈ v.log, event.sequence < integerBound

/-- No statement of the stream is refused by the driver, whatever others commit meanwhile, as long as the database
holds the numbers of the events. -/
def RunsToEnd {Store : Type} (repository : JobRepository Store) (watch : Watch Store) : Prop :=
  ∀ schedule s, runSteps (Watch.step repository) watch schedule = some s →
    LogFits repository s.store s.stream.key → s.stream.pc = .listing →
      ∃ bound, bindInteger s.stream.sequence = .ok bound

/-- An answer with status 400, or a stream that runs to its normal end. -/
def EventsOutcome.Answered {Store : Type} (repository : JobRepository Store) (store : Store) : EventsOutcome → Prop
  | .stream opened => RunsToEnd repository ⟨store, opened⟩
  | .refused answer => answer.statusCode = 400

/-- The stream asks for events behind its start or behind one that is stored. -/
theorem Watch.Following.sequence_eq {Store : Type} {repository : JobRepository Store} {key : JobKey} {start : ℕ}
    {log : List JobEvent} {s : Watch Store} (h : Following repository key start log s) :
    s.stream.sequence = start ∨ ∃ v ∈ repository.view s.store key, ∃ event ∈ v.log,
      event.sequence = s.stream.sequence := by
  obtain ⟨v, hv, -, hdelivered⟩ := h.delivered
  have hnumbers := hdelivered.numbers (h.logged key v hv).numbered
  rcases List.eq_nil_or_concat s.stream.sent with hnil | ⟨front, last, hlast⟩
  · left
    rw [h.cursor, hnil]
    rfl
  · right
    rw [List.concat_eq_append] at hlast
    have hmem : last ∈ v.log := by
      apply List.mem_of_mem_drop
      apply hdelivered.subset
      rw [hlast]
      exact List.mem_append_right front List.mem_cons_self
    refine ⟨v, hv, last, hmem, ?_⟩
    rw [h.cursor, hlast]
    rw [hlast, List.map_append, List.length_append, List.length_singleton, ← List.range'_append_1] at hnumbers
    have hend := (List.append_inj' hnumbers rfl).2
    simp only [List.map_cons, List.map_nil, List.range'_one, List.cons.injEq, and_true] at hend
    rw [hend, List.length_append, List.length_singleton]
    omega

variable {Store : Type} (repository : JobRepository Store) (operations : List (Commit × Moment)) {key : JobKey}

/-- A stream of a stored job runs to its end exactly if its start fits into the database. -/
theorem runsToEnd_iff (hstored : (repository.view (repository.commitAll repository.empty operations) key).isSome)
    (hfits : LogFits repository (repository.commitAll repository.empty operations) key) (after : ℤ) :
    RunsToEnd repository ⟨repository.commitAll repository.empty operations, .opened key after⟩ ↔
      after < integerBound := by
  have hpos : after < integerBound ↔ after.toNat < integerBound := by
    have hbound : 0 < integerBound := by decide
    omega
  rw [hpos]
  constructor
  · intro hruns
    exact (bindInteger_ok_iff _).mp (hruns [] _ rfl hfits rfl)
  · intro hstart schedule s hrun hfits' _
    rw [bindInteger_ok_iff]
    have hlogged := (JobRepository.wellLogged_empty repository).commitAll operations
    obtain ⟨v₀, hv₀⟩ := Option.isSome_iff_exists.mp hstored
    have hfollowing := Watch.following_run hlogged hv₀ hrun
    rcases hfollowing.sequence_eq with hsame | ⟨v, hv, event, hevent, hsame⟩
    · rw [hsame]
      exact hstart
    · rw [← hsame]
      exact hfits' v (hfollowing.key_eq ▸ hv) event hevent

/-- An event stream of a stored job is answered exactly if `Last-Event-ID` is no integer beyond the database. -/
theorem scanEvents_answered_iff
    (hstored : (repository.view (repository.commitAll repository.empty operations) key).isSome)
    (hfits : LogFits repository (repository.commitAll repository.empty operations) key)
    (decimal : Char → Option ℕ) (lastEventId : Option String) (requestId : String) :
    (scanEvents repository decimal (repository.commitAll repository.empty operations) key lastEventId
        requestId).Answered repository (repository.commitAll repository.empty operations) ↔
      ∀ after ∈ eventPosition decimal lastEventId, after < integerBound := by
  obtain ⟨v, hv⟩ := Option.isSome_iff_exists.mp hstored
  have hget : repository.get (repository.commitAll repository.empty operations) key = some v.record := by
    rw [repository.get_eq, hv, Option.map_some]
  unfold scanEvents
  rw [hget]
  cases hposition : eventPosition decimal lastEventId with
  | none => exact ⟨fun _ after hafter => absurd hafter (by simp), fun _ => rfl⟩
  | some after =>
    simp only [Option.mem_some_iff, forall_eq']
    exact runsToEnd_iff repository operations hstored hfits after

/-- Positions that clients supply are answered with a page, a stream or 400 exactly if they do not stand for an
integer that the database cannot hold. -/
theorem client_positions_answered_iff (decimal : Char → Option ℕ) :
    (∀ core db tenantId cursor limit source severity status requestId,
      (listFindings core decimal db tenantId cursor limit source severity status requestId).Answered ↔
        ∀ text ∈ cursor, ∀ rowId ∈ decodeCursor decimal text, rowId < integerBound) ∧
    ∀ (Store : Type) (repository : JobRepository Store) (operations : List (Commit × Moment)) (key : JobKey)
      (lastEventId : Option String) (requestId : String),
      (repository.view (repository.commitAll repository.empty operations) key).isSome →
      LogFits repository (repository.commitAll repository.empty operations) key →
      ((scanEvents repository decimal (repository.commitAll repository.empty operations) key lastEventId
          requestId).Answered repository (repository.commitAll repository.empty operations) ↔
        ∀ after ∈ eventPosition decimal lastEventId, after < integerBound) :=
  ⟨fun core => listFindings_answered_iff core decimal,
    fun _ repository operations _ lastEventId requestId hstored hfits =>
      scanEvents_answered_iff repository operations hstored hfits decimal lastEventId requestId⟩

/-- The values of the ASCII digits. -/
def asciiDecimal (c : Char) : Option ℕ := if c.isDigit then some (c.toNat - 48) else none

/-- They are read. -/
theorem asciiDecimal_reads : PyString.ReadsAscii asciiDecimal := by
  unfold PyString.ReadsAscii
  decide

/-- Behind a separator, that `int` does not take for whitespace, no number is too large. -/
example : decodeCursor asciiDecimal "HDkyMjMzNzIwMzY4NTQ3NzU4MDg" = none := by decide +kernel

/-- A stored job with one event. -/
def storedJob : Database := FindingDict.backend.commitAll FindingDict.backend.empty (createdJob [])

set_option maxRecDepth 4000 in
/-- It is stored, and the database holds the number of its event. -/
theorem storedJob_fits : (FindingDict.backend.view storedJob ⟨"tenant-a", "job_1"⟩).isSome ∧
    LogFits FindingDict.backend.toJobRepository storedJob ⟨"tenant-a", "job_1"⟩ := by
  have hfits : ∀ v ∈ FindingDict.backend.view storedJob ⟨"tenant-a", "job_1"⟩, ∀ event ∈ v.log,
      event.sequence < integerBound := by decide
  exact ⟨by decide, hfits⟩

/-- The theorem applies to a stream of that job behind its second event. -/
theorem client_positions_answered_iff_secondEvent :
    (scanEvents FindingDict.backend.toJobRepository asciiDecimal storedJob ⟨"tenant-a", "job_1"⟩ (some " 2")
      "request-1").Answered FindingDict.backend.toJobRepository storedJob := by
  refine ((client_positions_answered_iff asciiDecimal).2 Database FindingDict.backend.toJobRepository (createdJob [])
    ⟨"tenant-a", "job_1"⟩ (some " 2") "request-1" storedJob_fits.1 storedJob_fits.2).mpr ?_
  have hposition : eventPosition asciiDecimal (some " 2") = some 2 := by decide
  rw [hposition]
  intro after hafter
  rw [← Option.some.inj hafter]
  decide

/-- A cursor and a `Last-Event-ID` of `2 ^ 63` end in an exception. -/
theorem client_positions_raise :
    (¬ ∀ core db tenantId cursor limit source severity status requestId,
      (listFindings core asciiDecimal db tenantId cursor limit source severity status requestId).Answered) ∧
    ¬ ∀ lastEventId, (scanEvents FindingDict.backend.toJobRepository asciiDecimal storedJob ⟨"tenant-a", "job_1"⟩
      lastEventId "request-1").Answered FindingDict.backend.toJobRepository storedJob := by
  constructor
  · intro hall
    have hanswered := hall FindingDict.core Database.empty "tenant-a" (some (encodeCursor integerBound)) 100 none none
      none "request-1"
    have hdecode : decodeCursor asciiDecimal (encodeCursor integerBound) = some integerBound :=
      decodeCursor_encodeCursor asciiDecimal_reads (by decide) (by decide +kernel)
    have hlt := (listFindings_answered_iff FindingDict.core asciiDecimal Database.empty "tenant-a" _ 100 none none
      none "request-1").mp hanswered _ rfl _ hdecode
    exact lt_irrefl _ hlt
  · intro hall
    have hposition : eventPosition asciiDecimal (some "9223372036854775808") = some (integerBound : ℤ) := by
      decide +kernel
    have hlt := (scanEvents_answered_iff FindingDict.backend.toJobRepository (createdJob []) storedJob_fits.1
      storedJob_fits.2 asciiDecimal (some "9223372036854775808") "request-1").mp (hall _) _ hposition
    exact lt_irrefl _ hlt

end SharedIntegration

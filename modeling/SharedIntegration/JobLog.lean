import SharedIntegration.RunMoves
import SharedIntegration.Library.AppendLog

/-!
# The event log of a job

Every operation of a repository appends at most one event to the log of a job, under the next
sequence number. An operation that writes the status of a job records that status in the event
it appends, so the log of a job always contains its stored status.
-/

namespace SharedIntegration

open AppendLog

/-- `JobStatus(value)`. -/
def JobStatus.ofValue? (value : String) : Option JobStatus :=
  [.queued, .running, .succeeded, .failed, .cancelled, .timedOut].find? fun status : JobStatus =>
    status.value = value

/-- The text of a status is read back. -/
@[simp] theorem JobStatus.ofValue?_value (status : JobStatus) : ofValue? status.value = some status := by
  cases status <;> decide

/-- The status an event records, if it belongs to a write of the status. -/
def JobEvent.status? (event : JobEvent) : Option JobStatus :=
  if event.kind = "status" ∨ event.kind = "cancel_requested" then
    ((event.payload.get? "status").bind Json.asStr?).bind JobStatus.ofValue?
  else none

/-- A status payload carries its status. -/
theorem status_of_statusPayload (status : JobStatus) (errorCode errorMessage : Option String) :
    (((statusPayload status errorCode errorMessage).get? "status").bind Json.asStr?).bind
      JobStatus.ofValue? = some status := by
  cases errorCode with
  | none => exact JobStatus.ofValue?_value status
  | some code =>
    unfold statusPayload
    dsimp only
    split <;> exact JobStatus.ofValue?_value status

/-- One committed operation of a repository; workers append events of their own kinds only. -/
inductive Commit
  | create (tenantId : String) (source : FindingSource) (payload : Document)
      (idempotencyKey : Option String)
  | markRunning (key : JobKey) (requireQueued : Bool)
  | transition (key : JobKey) (status : JobStatus) (resultCount : Option ℕ)
      (errorCode errorMessage : Option String)
  | appendEvent (key : JobKey) (kind : String) (payload : Document) (hkind : kind ∈ workerKinds)
  | setDispatchId (key : JobKey) (dispatchId : String)
  | requestCancel (key : JobKey)
  | cancelWrite (key : JobKey) (current : JobStatus)

/-- The job an operation addresses, unless it creates a new one. -/
def Commit.key : Commit → Option JobKey
  | .create .. => none
  | .markRunning key _ | .transition key .. | .appendEvent key .. | .setDispatchId key _
  | .requestCancel key | .cancelWrite key _ => some key

/-- The status an operation records for a job it finds in this state. -/
def Commit.records (v : JobView) : Commit → Option JobStatus
  | .markRunning _ requireQueued =>
    if JobView.claimable requireQueued v.record then some .running else none
  | .transition _ status .. => some status
  | .requestCancel _ =>
    if v.record.status.terminal then none else some (JobRecord.cancelStatus v.record.status)
  | .cancelWrite _ current => some (JobRecord.cancelStatus current)
  | .create .. | .appendEvent .. | .setDispatchId .. => none

namespace JobRepository

variable {Store : Type} (repository : JobRepository Store)

/-- The state an operation leaves; one that raises has changed nothing. -/
def commit (w : Store) (m : Moment) : Commit → Store
  | .create tenantId source payload idempotencyKey =>
    match repository.create w m tenantId source payload idempotencyKey with
    | .ok (w', _) => w'
    | .error _ => w
  | .markRunning key requireQueued => (repository.markRunning w m key requireQueued).1
  | .transition key status resultCount errorCode errorMessage =>
    match repository.transition w m key status resultCount errorCode errorMessage with
    | .ok (w', _) => w'
    | .error _ => w
  | .appendEvent key kind payload _ =>
    match repository.appendEvent w m key kind payload with
    | .ok (w', _) => w'
    | .error _ => w
  | .setDispatchId key dispatchId => repository.setDispatchId w m key dispatchId
  | .requestCancel key =>
    match repository.requestCancel w m key with
    | .ok (w', _) => w'
    | .error _ => w
  | .cancelWrite key current =>
    match repository.unlockedCancel with
    | some write => write w m key current
    | none => w

/-- What an operation does to one stored job: nothing that concerns its log and status, or one
event under the next sequence number, which records the status if there is one to record. -/
inductive Logged (v v' : JobView) (recorded : Option JobStatus) : Prop
  | quiet (hlog : v'.log = v.log) (hstatus : v'.record.status = v.record.status)
  | worker (event : JobEvent) (hlog : v'.log = v.log ++ [event])
      (hsequence : event.sequence = nextSequence v.log) (hevent : event.status? = none)
      (hstatus : v'.record.status = v.record.status)
  | status (event : JobEvent) (hlog : v'.log = v.log ++ [event])
      (hsequence : event.sequence = nextSequence v.log)
      (hevent : event.status? = some v'.record.status) (hrecorded : recorded = some v'.record.status)

/-- A write of the status appends the event that records it. -/
theorem Logged.of_status {v v' : JobView} {kind : String} {errorCode errorMessage : Option String}
    {now : Instant} (hkind : kind = "status" ∨ kind = "cancel_requested")
    (hlog : v'.log = v.log ++ [⟨nextSequence v.log, v.record.id, v.record.tenantId, kind,
      statusPayload v'.record.status errorCode errorMessage, now⟩]) :
    Logged v v' (some v'.record.status) := by
  refine .status _ hlog rfl ?_ rfl
  rw [JobEvent.status?, if_pos hkind]
  exact status_of_statusPayload _ _ _

/-- A worker's own event records no status. -/
theorem Logged.of_worker (v : JobView) {kind : String} (hkind : kind ∈ workerKinds)
    (payload : Document) (now : Instant) : Logged v (v.append kind payload now) none := by
  refine .worker _ rfl rfl ?_ rfl
  have hother : ¬ (kind = "status" ∨ kind = "cancel_requested") := by
    rintro (rfl | rfl) <;> exact absurd hkind (by decide)
  rw [JobEvent.status?, if_neg hother]

variable {repository}

/-- What an operation does to the views of jobs: nothing, a new job, or a change of one job. -/
inductive Committed (repository : JobRepository Store) (w w' : Store) (m : Moment)
    (operation : Commit) : Prop
  | same (hview : repository.view w' = repository.view w)
  | created {key source payload idempotencyKey} (hnone : repository.view w key = none)
      (hview : repository.view w' = Function.update (repository.view w) key
        (some (.created key source payload idempotencyKey m.now)))
  | changed {key v v'} (hkey : operation.key = some key) (hv : repository.view w key = some v)
      (hview : repository.view w' = Function.update (repository.view w) key (some v'))
      (hlogged : Logged v v' (operation.records v))

/-- A missing job that is replaced by nothing. -/
theorem view_of_missing {w w' : Store} {key : JobKey} (hnone : repository.view w key = none)
    (hview : repository.view w' = Function.update (repository.view w) key none) :
    repository.view w' = repository.view w := by
  rw [hview, ← hnone, Function.update_eq_self]

/-- Every operation has one of these effects. -/
theorem commit_committed (repository : JobRepository Store) (w : Store) (m : Moment) (operation : Commit) :
    Committed repository w (repository.commit w m operation) m operation := by
  cases operation with
  | create tenantId source payload idempotencyKey =>
    unfold commit
    dsimp only
    split
    · next w' result hcreate =>
      obtain ⟨record, isNew⟩ := result
      obtain ⟨-, rfl, -⟩ | ⟨-, -, hnone, -, hview⟩ := repository.create_ok hcreate
      · exact .same rfl
      · exact .created hnone hview
    · exact .same rfl
  | markRunning key requireQueued =>
    unfold commit
    dsimp only
    cases hv : repository.view w key with
    | none =>
      rw [repository.markRunning_refused m requireQueued (by simp [hv])]
      exact .same rfl
    | some v =>
      cases hclaimable : JobView.claimable requireQueued v.record with
      | true =>
        refine .changed rfl hv (repository.markRunning_claimed m requireQueued hv hclaimable).2 ?_
        rw [Commit.records, hclaimable, if_pos rfl]
        exact .of_status (.inl rfl) rfl
      | false =>
        rw [repository.markRunning_refused m requireQueued (by simp [hv, hclaimable])]
        exact .same rfl
  | transition key status resultCount errorCode errorMessage =>
    unfold commit
    dsimp only
    cases hv : repository.view w key with
    | none =>
      rw [repository.transition_missing m status resultCount errorCode errorMessage hv]
      exact .same rfl
    | some v =>
      obtain ⟨w', htransition, hview⟩ :=
        repository.transition_ok m status resultCount errorCode errorMessage hv
      rw [htransition]
      exact .changed rfl hv hview (.of_status (.inl rfl) rfl)
  | appendEvent key kind payload hkind =>
    unfold commit
    dsimp only
    cases hv : repository.view w key with
    | none =>
      rw [repository.appendEvent_missing m kind payload hv]
      exact .same rfl
    | some v =>
      obtain ⟨w', event, happend, hview⟩ := repository.appendEvent_ok m kind payload hv
      rw [happend]
      exact .changed rfl hv hview (.of_worker v hkind payload m.now)
  | setDispatchId key dispatchId =>
    have hview := repository.setDispatchId_view w m key dispatchId
    cases hv : repository.view w key with
    | none =>
      rw [hv] at hview
      exact .same (view_of_missing hv hview)
    | some v =>
      rw [hv, Option.map_some] at hview
      exact .changed rfl hv hview (.quiet rfl rfl)
  | requestCancel key =>
    unfold commit
    dsimp only
    cases hv : repository.view w key with
    | none =>
      rw [repository.requestCancel_missing m hv]
      exact .same rfl
    | some v =>
      obtain ⟨w', hcancel, hview⟩ := repository.requestCancel_ok m hv
      rw [hcancel]
      refine .changed rfl hv hview ?_
      rw [Commit.records, JobView.requestCancel]
      split
      · exact .quiet rfl rfl
      · exact .of_status (.inr rfl) rfl
  | cancelWrite key current =>
    unfold commit
    dsimp only
    split
    · next write hwrite =>
      have hview := repository.unlockedCancel_view hwrite w m key current
      cases hv : repository.view w key with
      | none =>
        rw [hv] at hview
        exact .same (view_of_missing hv hview)
      | some v =>
        rw [hv, Option.map_some] at hview
        exact .changed rfl hv hview (.of_status (.inr rfl) rfl)
    · exact .same rfl

/-- What every operation does to a stored job. -/
theorem commit_logged {w : Store} {key : JobKey} {v : JobView} (m : Moment) (operation : Commit)
    (hv : repository.view w key = some v) :
    ∃ v', repository.view (repository.commit w m operation) key = some v' ∧
      Logged v v' (if operation.key = some key then operation.records v else none) := by
  cases commit_committed repository w m operation with
  | same hview => exact ⟨v, by rw [hview, hv], .quiet rfl rfl⟩
  | @created key' source payload idempotencyKey hnone hview =>
    refine ⟨v, ?_, .quiet rfl rfl⟩
    rw [hview, Function.update_of_ne, hv]
    rintro rfl
    rw [hv] at hnone
    cases hnone
  | @changed key' u u' hkey hu hview hlogged =>
    by_cases hsame : key' = key
    · subst hsame
      rw [hv, Option.some.injEq] at hu
      subst hu
      rw [if_pos hkey]
      exact ⟨u', by rw [hview, Function.update_self], hlogged⟩
    · exact ⟨v, by rw [hview, Function.update_of_ne (Ne.symm hsame), hv], .quiet rfl rfl⟩

end JobRepository

/-- A log numbered without gaps that records the stored status. -/
structure JobView.WellLogged (v : JobView) : Prop where
  numbered : Numbered JobEvent.sequence v.log
  recorded : ∃ event ∈ v.log, event.status? = some v.record.status

/-- A new job is well logged. -/
theorem JobView.wellLogged_created (key : JobKey) (source : FindingSource) (payload : Document)
    (idempotencyKey : Option String) (now : Instant) :
    (JobView.created key source payload idempotencyKey now).WellLogged := by
  refine ⟨rfl, _, List.mem_singleton.mpr rfl, ?_⟩
  rw [JobEvent.status?, if_pos (.inl rfl)]
  exact status_of_statusPayload .queued none none

namespace JobRepository

/-- A logged change only appends. -/
theorem Logged.log_prefix {v v' : JobView} {recorded : Option JobStatus} (h : Logged v v' recorded) :
    v.log <+: v'.log := by
  cases h with
  | quiet hlog => rw [hlog]
  | worker event hlog | status event hlog => exact ⟨[event], hlog.symm⟩

/-- A logged change keeps a job well logged. -/
theorem Logged.wellLogged {v v' : JobView} {recorded : Option JobStatus} (h : Logged v v' recorded)
    (hv : v.WellLogged) : v'.WellLogged := by
  obtain ⟨last, hlast, hstatus'⟩ := hv.recorded
  cases h with
  | quiet hlog hstatus =>
    refine ⟨by rw [hlog]; exact hv.numbered, last, by rw [hlog]; exact hlast, ?_⟩
    rw [hstatus, hstatus']
  | worker event hlog hsequence hevent hstatus =>
    have hnext : event.sequence = v.log.length + 1 := by
      rw [hsequence, nextSequence, hv.numbered.maxKey_eq]
    refine ⟨by rw [hlog]; exact hv.numbered.concat hnext, last, by rw [hlog]; simp [hlast], ?_⟩
    rw [hstatus, hstatus']
  | status event hlog hsequence hevent hrecorded =>
    have hnext : event.sequence = v.log.length + 1 := by
      rw [hsequence, nextSequence, hv.numbered.maxKey_eq]
    refine ⟨by rw [hlog]; exact hv.numbered.concat hnext, event, by rw [hlog]; simp, hevent⟩

variable {Store : Type} (repository : JobRepository Store)

/-- Perform operations one after another. -/
def commitAll (w : Store) (operations : List (Commit × Moment)) : Store :=
  operations.foldl (fun w operation => repository.commit w operation.2 operation.1) w

/-- Every stored job is well logged. -/
def WellLogged (w : Store) : Prop :=
  ∀ key v, repository.view w key = some v → v.WellLogged

variable {repository}

/-- Every operation leaves every job well logged. -/
theorem WellLogged.commit {w : Store} (hw : repository.WellLogged w) (m : Moment)
    (operation : Commit) : repository.WellLogged (repository.commit w m operation) := by
  intro key v hv
  cases commit_committed repository w m operation with
  | same hview =>
    rw [hview] at hv
    exact hw key v hv
  | @created key' source payload idempotencyKey hnone hview =>
    by_cases hsame : key = key'
    · rw [hview, hsame, Function.update_self, Option.some.injEq] at hv
      rw [← hv]
      exact JobView.wellLogged_created key' source payload idempotencyKey m.now
    · rw [hview, Function.update_of_ne hsame] at hv
      exact hw key v hv
  | @changed key' u u' hkey hu hview hlogged =>
    by_cases hsame : key = key'
    · rw [hview, hsame, Function.update_self, Option.some.injEq] at hv
      rw [← hv]
      exact hlogged.wellLogged (hw key' u hu)
    · rw [hview, Function.update_of_ne hsame] at hv
      exact hw key v hv

/-- Every sequence of operations leaves every job well logged. -/
theorem WellLogged.commitAll {w : Store} (hw : repository.WellLogged w)
    (operations : List (Commit × Moment)) : repository.WellLogged (repository.commitAll w operations) := by
  induction operations generalizing w with
  | nil => exact hw
  | cons operation rest ih => exact ih (hw.commit operation.2 operation.1)

/-- An empty repository stores no job. -/
theorem wellLogged_empty (repository : JobRepository Store) :
    repository.WellLogged repository.empty := by
  intro key v hv
  rw [repository.view_empty] at hv
  cases hv

end JobRepository

end SharedIntegration

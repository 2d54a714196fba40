import SharedIntegration.Jobs
import Mathlib.Logic.Function.Basic

/-!
# The job repository protocol

`JobRepository` lists the durable job operations that the API and the workers call, over an
arbitrary state of the backend. Its fields also say what the protocol promises: each job has
a view, and each operation changes the view of the job it addresses as the row-level
operations of a job do and leaves every other job alone.
-/

namespace SharedIntegration

/-- What one call draws from its surroundings: a clock reading and a fresh `uuid4().hex`. -/
structure Moment where
  now : Instant
  uuid : String

/-- Exceptions a repository call can raise. -/
inductive RepositoryError
  | keyError (jobId : String)
  | integrityError
  | runtimeError (message : String)
deriving DecidableEq, Repr

/-- The text of the exception. -/
def RepositoryError.message : RepositoryError → String
  | .keyError jobId => "'" ++ jobId ++ "'"
  | .integrityError => "IntegrityError"
  | .runtimeError message => message

/-- The tenant-scoped job operations of a backend and what they do to each job.

`unlockedCancel` is the second half of `request_cancel` for a backend that does not hold the
row between reading and writing it; a backend that locks the row has none. `unlockedAppend`
says that `append_event` may lose the sequence number it read to another process. -/
structure JobRepository (Store : Type) where
  empty : Store
  create : Store → Moment → (tenantId : String) → FindingSource → (payload : Document) →
    (idempotencyKey : Option String) → Except RepositoryError (Store × JobRecord × Bool)
  get : Store → JobKey → Option JobRecord
  markRunning : Store → Moment → JobKey → (requireQueued : Bool) → Store × Option JobRecord
  transition : Store → Moment → JobKey → JobStatus → (resultCount : Option ℕ) →
    (errorCode errorMessage : Option String) → Except RepositoryError (Store × JobRecord)
  appendEvent : Store → Moment → JobKey → (kind : String) → (payload : Document) →
    Except RepositoryError (Store × JobEvent)
  listEvents : Store → JobKey → (afterSequence limit : ℕ) → List JobEvent
  setDispatchId : Store → Moment → JobKey → (dispatchId : String) → Store
  requestCancel : Store → Moment → JobKey → Except RepositoryError (Store × JobRecord)
  unlockedCancel : Option (Store → Moment → JobKey → JobStatus → Store)
  unlockedAppend : Bool
  view : Store → JobKey → Option JobView
  view_empty : ∀ key, view empty key = none
  view_key : ∀ {w key v}, view w key = some v → v.record.key = key
  get_eq : ∀ w key, get w key = (view w key).map JobView.record
  listEvents_eq : ∀ {w key v} after limit, view w key = some v →
    listEvents w key after limit = (v.log.filter fun e => after < e.sequence).take limit
  create_ok : ∀ {w m tenantId source payload idempotencyKey w' record isNew},
    create w m tenantId source payload idempotencyKey = .ok (w', record, isNew) →
      (isNew = false ∧ w' = w ∧ record.tenantId = tenantId ∧ get w record.key = some record) ∨
      (isNew = true ∧ record.tenantId = tenantId ∧ view w record.key = none ∧
        record = (JobView.created record.key source payload idempotencyKey m.now).record ∧
        view w' = Function.update (view w) record.key
          (some (JobView.created record.key source payload idempotencyKey m.now)))
  markRunning_claimed : ∀ {w key v} m requireQueued, view w key = some v →
    JobView.claimable requireQueued v.record = true →
      (markRunning w m key requireQueued).2 = some (v.markRunning m.now).record ∧
      view (markRunning w m key requireQueued).1 =
        Function.update (view w) key (some (v.markRunning m.now))
  markRunning_refused : ∀ {w key} m requireQueued,
    (∀ v, view w key = some v → JobView.claimable requireQueued v.record = false) →
      markRunning w m key requireQueued = (w, none)
  transition_ok : ∀ {w key v} m status resultCount errorCode errorMessage, view w key = some v →
    ∃ w', transition w m key status resultCount errorCode errorMessage =
        .ok (w', (v.transition m.now status resultCount errorCode errorMessage).record) ∧
      view w' = Function.update (view w) key
        (some (v.transition m.now status resultCount errorCode errorMessage))
  transition_missing : ∀ {w key} m status resultCount errorCode errorMessage,
    view w key = none → transition w m key status resultCount errorCode errorMessage =
      .error (.keyError key.jobId)
  appendEvent_ok : ∀ {w key v} m kind payload, view w key = some v →
    ∃ w' event, appendEvent w m key kind payload = .ok (w', event) ∧
      view w' = Function.update (view w) key (some (v.append kind payload m.now))
  appendEvent_missing : ∀ {w key} m kind payload, view w key = none →
    appendEvent w m key kind payload = .error (.keyError key.jobId)
  setDispatchId_view : ∀ w m key dispatchId, view (setDispatchId w m key dispatchId) =
    Function.update (view w) key ((view w key).map fun v => v.setDispatchId m.now dispatchId)
  requestCancel_ok : ∀ {w key v} m, view w key = some v →
    ∃ w', requestCancel w m key = .ok (w', (v.requestCancel m.now).record) ∧
      view w' = Function.update (view w) key (some (v.requestCancel m.now))
  requestCancel_missing : ∀ {w key} m, view w key = none →
    requestCancel w m key = .error (.keyError key.jobId)
  unlockedCancel_view : ∀ {write}, unlockedCancel = some write → ∀ w m key current,
    view (write w m key current) =
      Function.update (view w) key ((view w key).map fun v => v.writeCancel m.now current)

/-- `mark_running` claims a stored job, or returns nothing and leaves it alone. -/
theorem JobRepository.markRunning_cases {Store : Type} (repository : JobRepository Store) {w : Store} {key : JobKey}
    {v : JobView} (m : Moment) (requireQueued : Bool) (hv : repository.view w key = some v) :
    (JobView.claimable requireQueued v.record = true ∧
      ∃ w', repository.markRunning w m key requireQueued = (w', some (v.markRunning m.now).record) ∧
        repository.view w' = Function.update (repository.view w) key (some (v.markRunning m.now))) ∨
    (JobView.claimable requireQueued v.record = false ∧
      repository.markRunning w m key requireQueued = (w, none)) := by
  cases hclaimable : JobView.claimable requireQueued v.record with
  | true =>
    obtain ⟨hrecord, hview⟩ := repository.markRunning_claimed m requireQueued hv hclaimable
    exact .inl ⟨rfl, _, Prod.ext rfl hrecord, hview⟩
  | false =>
    refine .inr ⟨rfl, repository.markRunning_refused m requireQueued fun v' hv' => ?_⟩
    cases hv.symm.trans hv'
    exact hclaimable

end SharedIntegration

import SharedIntegration.SqlJobs
import SharedIntegration.SqliteJobs
import Mathlib.Data.String.Basic

/-!
# Calls of a job repository and their results

The ten operations of the repository protocol as data, so that a client is a list of calls, and
what a backend returns for each. A call that raises leaves the store as it was.
-/

namespace SharedIntegration

open Relational

/-- One call of `JobRepository`. -/
inductive RepositoryCall
  | create (tenantId : String) (source : FindingSource) (payload : Document)
      (idempotencyKey : Option String)
  | get (key : JobKey)
  | listJobs (tenantId : String) (status : Option JobStatus) (source : Option FindingSource) (limit : ℕ)
  | findByIdempotencyKey (tenantId idempotencyKey : String)
  | markRunning (key : JobKey) (requireQueued : Bool)
  | transition (key : JobKey) (status : JobStatus) (resultCount : Option ℕ)
      (errorCode errorMessage : Option String)
  | appendEvent (key : JobKey) (kind : String) (payload : Document)
  | listEvents (key : JobKey) (afterSequence : ℤ) (limit : ℕ)
  | setDispatchId (key : JobKey) (dispatchId : String)
  | requestCancel (key : JobKey)

/-- The tenant that a call makes sure of. -/
def RepositoryCall.ensured : RepositoryCall → Option String
  | .create tenantId _ _ _ => some tenantId
  | _ => none

/-- What a call returns or raises. -/
inductive RepositoryResult
  | created (record : JobRecord) (isNew : Bool)
  | record (record : JobRecord)
  | optional (record : Option JobRecord)
  | records (records : List JobRecord)
  | event (event : JobEvent)
  | events (events : List JobEvent)
  | unit
  | raised (error : RepositoryError)

/-- The end of a call that may raise: one that does leaves the store as it was. -/
def outcome {Store Value : Type} (w : Store) (wrap : Value → RepositoryResult) :
    Except RepositoryError (Store × Value) → Store × RepositoryResult
  | .ok (w', value) => (w', wrap value)
  | .error error => (w, .raised error)

/-- A job repository with the reads that only its clients use. -/
structure QueriedRepository (Store : Type) extends JobRepository Store where
  listJobs : Store → (tenantId : String) → (status : Option JobStatus) →
    (source : Option FindingSource) → (limit : ℕ) → List JobRecord
  findByIdempotencyKey : Store → (tenantId idempotencyKey : String) → Option JobRecord

namespace QueriedRepository

variable {Store : Type} (repository : QueriedRepository Store)

/-- Perform a call. Sequence numbers are positive, so a negative bound selects like zero. -/
def perform (w : Store) (m : Moment) : RepositoryCall → Store × RepositoryResult
  | .create tenantId source payload idempotencyKey =>
    outcome w (fun created => .created created.1 created.2)
      (repository.create w m tenantId source payload idempotencyKey)
  | .get key => (w, .optional (repository.get w key))
  | .listJobs tenantId status source limit => (w, .records (repository.listJobs w tenantId status source limit))
  | .findByIdempotencyKey tenantId idempotencyKey =>
    (w, .optional (repository.findByIdempotencyKey w tenantId idempotencyKey))
  | .markRunning key requireQueued =>
    let (w', record) := repository.markRunning w m key requireQueued
    (w', .optional record)
  | .transition key status resultCount errorCode errorMessage =>
    outcome w .record (repository.transition w m key status resultCount errorCode errorMessage)
  | .appendEvent key kind payload =>
    outcome w .event (repository.appendEvent w m key kind payload)
  | .listEvents key afterSequence limit =>
    (w, .events (repository.listEvents w key afterSequence.toNat limit))
  | .setDispatchId key dispatchId => (repository.setDispatchId w m key dispatchId, .unit)
  | .requestCancel key =>
    outcome w .record (repository.requestCancel w m key)

/-- Perform calls one after another: the store they leave and their results in order. -/
def performAll (w : Store) : List (RepositoryCall × Moment) → Store × List RepositoryResult
  | [] => (w, [])
  | (call, m) :: rest =>
    let (w', result) := repository.perform w m call
    let (w'', results) := performAll w' rest
    (w'', result :: results)

/-- A property of stores that every call keeps is kept by a list of calls. -/
theorem performAll_invariant (Inv : Store → Prop) (admits : RepositoryCall → Prop)
    (hstep : ∀ w m call, Inv w → admits call → Inv (repository.perform w m call).1)
    {w : Store} (hw : Inv w) {calls : List (RepositoryCall × Moment)}
    (hcalls : ∀ call ∈ calls, admits call.1) : Inv (repository.performAll w calls).1 := by
  induction calls generalizing w with
  | nil => exact hw
  | cons call rest ih =>
    exact ih (hstep w call.2 call.1 hw (hcalls call List.mem_cons_self))
      fun other hother => hcalls other (List.mem_cons_of_mem call hother)

end QueriedRepository

/-- The filters of `list_jobs`. -/
def listed (tenantId : String) (status : Option JobStatus) (source : Option FindingSource)
    (record : JobRecord) : Bool :=
  record.tenantId = tenantId && status.all (fun status => record.status = status) &&
    source.all fun source => record.source = source

/-- `ORDER BY created_at DESC, id DESC`; texts of UTC datetimes sort like the datetimes. -/
def newestFirst (a b : JobRecord) : Prop :=
  b.createdAt < a.createdAt ∨ b.createdAt = a.createdAt ∧ b.id ≤ a.id

instance : DecidableRel newestFirst := fun a b =>
  inferInstanceAs (Decidable (b.createdAt < a.createdAt ∨ b.createdAt = a.createdAt ∧ b.id ≤ a.id))

/-- Any two jobs are in this order or the other. -/
instance : Std.Total newestFirst where
  total a b := by
    rcases lt_trichotomy a.createdAt b.createdAt with hlt | heq | hgt
    · exact Or.inr (Or.inl hlt)
    · rcases le_total a.id b.id with hle | hle
      · exact Or.inr (Or.inr ⟨heq, hle⟩)
      · exact Or.inl (Or.inr ⟨heq.symm, hle⟩)
    · exact Or.inl (Or.inl hgt)

/-- The order is transitive. -/
instance : IsTrans JobRecord newestFirst where
  trans a b c hab hbc := by
    rcases hab with hlt | ⟨heq, hle⟩
    · rcases hbc with hlt' | ⟨heq', -⟩
      · exact Or.inl (hlt'.trans hlt)
      · exact Or.inl (heq' ▸ hlt)
    · rcases hbc with hlt' | ⟨heq', hle'⟩
      · exact Or.inl (heq ▸ hlt')
      · exact Or.inr ⟨heq'.trans heq, hle'.trans hle⟩

/-- Jobs that come before one another are created at the same time and have the same id. -/
theorem newestFirst_antisymm {a b : JobRecord} (hab : newestFirst a b) (hba : newestFirst b a) : a.id = b.id := by
  rcases hab with hlt | ⟨heq, hle⟩
  · rcases hba with hlt' | ⟨heq', -⟩
    · exact absurd hlt' (lt_asymm hlt)
    · exact absurd heq'.symm (ne_of_lt hlt)
  · rcases hba with hlt' | ⟨-, hle'⟩
    · exact absurd heq (ne_of_gt hlt')
    · exact le_antisymm hle' hle

/-- `max(1, min(limit, 200))`. -/
def listLimit (limit : ℕ) : ℕ := max 1 (min limit 200)

namespace SqlJobs

/-- `list_jobs`. -/
def listJobs (db : Database) (tenantId : String) (status : Option JobStatus)
    (source : Option FindingSource) (limit : ℕ) : List JobRecord :=
  (((db.jobTables.jobs.select fun row => listed tenantId status source row.toJobRecord).insertionSort
    fun a b => newestFirst a.toJobRecord b.toJobRecord).take (listLimit limit)).map JobRow.toJobRecord

/-- `SQLAlchemyJobRepository` with all of its reads. -/
def queried (core : CoreLibrary) : QueriedRepository Database where
  toJobRepository := sqlAlchemyJobRepository core
  listJobs := listJobs
  findByIdempotencyKey := findByIdempotencyKey

end SqlJobs

namespace SqliteJobs

/-- `list_jobs`. -/
def listJobs (db : State) (tenantId : String) (status : Option JobStatus)
    (source : Option FindingSource) (limit : ℕ) : List JobRecord :=
  ((db.jobs.select (listed tenantId status source)).insertionSort newestFirst).take (listLimit limit)

/-- `SQLiteJobRepository` with all of its reads. -/
def queried : QueriedRepository State where
  toJobRepository := sqliteJobRepository
  listJobs := listJobs
  findByIdempotencyKey := findByIdempotencyKey

end SqliteJobs

end SharedIntegration

import SharedIntegration.ColumnTypes
import SharedIntegration.RepositoryCalls

/-!
# Payloads on their way into the columns

A payload of a caller becomes the text of a column. `SQLiteJobRepository` leaves characters outside ASCII in
that text, so a surrogate that stands alone cannot be bound; the JSON type of SQLAlchemy escapes them. A
document that can be written and has no such surrogate in it is bound by both and read back as it was. What
only PostgreSQL refuses, null characters and texts that are wider than their column, is left out.
-/

namespace SharedIntegration

open Relational

/-- What keeps a payload from being bound: `json.dumps` raises, SQLAlchemy wraps what it raises, or the text
has no encoding. -/
inductive PayloadError
  | dumps
  | statementError
  | unicodeEncodeError
deriving DecidableEq

/-- The text of a column of JSON, which the driver encodes. -/
def bindPayload (layout : Json.Layout) (unwritable : PayloadError) (nesting : ℕ) (payload : JsonValue) :
    Except PayloadError PyText :=
  match Json.dumpsText layout nesting payload with
  | none => .error unwritable
  | some text => if (PyText.encodeUtf8 text).isSome then .ok text else .error .unicodeEncodeError

/-- `_json` of the SQLite repository, and the parameter that it is passed as. -/
def SqliteJobs.bind (nesting : ℕ) (payload : JsonValue) : Except PayloadError PyText :=
  bindPayload .compact .dumps nesting payload

/-- The parameter of a `JSON` column, by the default serializer. -/
def SqlJobs.bind (nesting : ℕ) (payload : JsonValue) : Except PayloadError PyText :=
  bindPayload ⟨true, true⟩ .statementError nesting payload

/-- A payload that can be written, with encodable strings and unique names. -/
structure Portable (spelling : Spelling) (nesting : ℕ) (payload : Document) : Prop where
  readable : (spelling.document payload).Readable
  writable : (spelling.document payload).writable nesting = true

/-- Such a payload is bound with either layout, and the column is read back as the payload. -/
theorem Portable.bound {spelling : Spelling} {nesting : ℕ} {payload : Document} (h : Portable spelling nesting payload)
    (layout : Json.Layout) (unwritable : PayloadError) :
    ∃ text, bindPayload layout unwritable nesting (spelling.document payload) = .ok text ∧
      JsonText.loads nesting text = .ok (spelling.document payload) := by
  have hdumps : Json.dumpsText layout nesting (spelling.document payload) =
      some (Json.write layout (spelling.document payload)) := if_pos h.writable
  obtain ⟨bytes, hbytes, -⟩ := PyText.readText_write layout h.readable
  refine ⟨_, ?_, Json.loads_dumpsText h.readable hdumps⟩
  rw [bindPayload, hdumps]
  dsimp only
  rw [hbytes]
  rfl

/-- The payload that a call is given. -/
def RepositoryCall.payload : RepositoryCall → Option Document
  | .create _ _ payload _ | .appendEvent _ _ payload => some payload
  | _ => none

/-- A job repository with the column that payloads are bound to, and with what decides before that whether a
tenant can have a job. -/
structure BindingRepository (Store : Type) extends QueriedRepository Store where
  bind : Document → Except PayloadError PyText
  admits : Store → (tenantId : String) → Bool

namespace BindingRepository

variable {Store : Type} (repository : BindingRepository Store)

/-- The payload that a call binds: `create` has found no match by then, and `append_event` has found its job. -/
def binds (w : Store) : RepositoryCall → Option Document
  | .create tenantId _ payload idempotencyKey =>
    if (idempotencyKey.bind (repository.findByIdempotencyKey w tenantId)).isNone && repository.admits w tenantId then
      some payload
    else none
  | .appendEvent key _ payload => (repository.get w key).map fun _ => payload
  | _ => none

/-- Perform a call whose payload has to be bound. A payload that is bound is stored as the document that it
is; what a column with unpaired surrogates is read back as is not modelled. -/
def performBound (w : Store) (m : Moment) (call : RepositoryCall) : Store × Except PayloadError RepositoryResult :=
  match (repository.binds w call).map repository.bind with
  | some (.error error) => (w, .error error)
  | _ =>
    let (w', result) := repository.perform w m call
    (w', .ok result)

/-- Perform calls one after another. -/
def performAllBound (w : Store) : List (RepositoryCall × Moment) → Store × List (Except PayloadError RepositoryResult)
  | [] => (w, [])
  | (call, m) :: rest =>
    let (w', result) := repository.performBound w m call
    let (w'', results) := performAllBound w' rest
    (w'', result :: results)

/-- No call binds another payload than its own. -/
theorem binds_eq_some {w : Store} {call : RepositoryCall} {payload : Document}
    (h : repository.binds w call = some payload) : call.payload = some payload := by
  cases call with
  | create tenantId source given idempotencyKey =>
    simp only [binds] at h
    split at h
    · exact h
    · cases h
  | appendEvent key kind given =>
    simp only [binds, Option.map_eq_some_iff] at h
    obtain ⟨record, -, rfl⟩ := h
    rfl
  | _ => cases h

/-- A call whose payload can be bound does what it does without columns. -/
theorem performBound_eq {w : Store} {m : Moment} {call : RepositoryCall}
    (h : ∀ payload ∈ call.payload, ∃ text, repository.bind payload = .ok text) :
    repository.performBound w m call = ((repository.perform w m call).1, .ok (repository.perform w m call).2) := by
  unfold performBound
  split
  · next error herror =>
    obtain ⟨payload, hbinds, hbind⟩ := Option.map_eq_some_iff.mp herror
    obtain ⟨text, htext⟩ := h payload (repository.binds_eq_some hbinds)
    rw [htext] at hbind
    cases hbind
  · rfl

/-- A call whose payload cannot be bound raises, and leaves the store as it was. -/
theorem performBound_refused {w : Store} {call : RepositoryCall} {payload : Document} {error : PayloadError}
    (m : Moment) (hbinds : repository.binds w call = some payload) (hbind : repository.bind payload = .error error) :
    repository.performBound w m call = (w, .error error) := by
  rw [performBound, hbinds, Option.map_some, hbind]

/-- Calls one after another whose payloads can be bound do what they do without columns. -/
theorem performAllBound_eq {w : Store} {calls : List (RepositoryCall × Moment)}
    (h : ∀ call ∈ calls, ∀ payload ∈ call.1.payload, ∃ text, repository.bind payload = .ok text) :
    repository.performAllBound w calls =
      ((repository.performAll w calls).1, (repository.performAll w calls).2.map .ok) := by
  induction calls generalizing w with
  | nil => rfl
  | cons call rest ih =>
    rw [performAllBound, repository.performBound_eq (h call List.mem_cons_self)]
    dsimp only
    rw [ih fun other hother => h other (List.mem_cons_of_mem call hother)]
    rfl

end BindingRepository

/-- `SQLAlchemyJobRepository` with its `JSON` columns; a tenant gets its row before the job is inserted. -/
def SqlJobs.binding (core : CoreLibrary) (spelling : Spelling) (nesting : ℕ) : BindingRepository Database where
  toQueriedRepository := SqlJobs.queried core
  bind payload := SqlJobs.bind nesting (spelling.document payload)
  admits db tenantId := (SqlJobs.ensureTenant db.tenants tenantId 0).isSome

/-- `SQLiteJobRepository` with its columns of JSON text. -/
def SqliteJobs.binding (spelling : Spelling) (nesting : ℕ) : BindingRepository SqliteJobs.State where
  toQueriedRepository := SqliteJobs.queried
  bind payload := SqliteJobs.bind nesting (spelling.document payload)
  admits _ _ := true

section Unwritable

variable {spelling : Spelling} {nesting : ℕ} {payload : Document}

/-- A document that cannot be written is not bound. -/
theorem bindPayload_unwritable (layout : Json.Layout) (unwritable : PayloadError)
    (h : (spelling.document payload).writable nesting = false) :
    bindPayload layout unwritable nesting (spelling.document payload) = .error unwritable := by
  rw [bindPayload, Json.dumpsText, h]
  rfl

/-- SQLAlchemy wraps the error of a document that cannot be written. -/
theorem SqlJobs.bind_unwritable (core : CoreLibrary) (h : (spelling.document payload).writable nesting = false) :
    (SqlJobs.binding core spelling nesting).bind payload = .error .statementError :=
  bindPayload_unwritable ⟨true, true⟩ .statementError h

/-- The SQLite repository raises it as it is. -/
theorem SqliteJobs.bind_unwritable (h : (spelling.document payload).writable nesting = false) :
    (SqliteJobs.binding spelling nesting).bind payload = .error .dumps :=
  bindPayload_unwritable .compact .dumps h

end Unwritable

end SharedIntegration

import Mathlib.Tactic.TypeStar

/-!
# Sessions on one connection

A connection sees its own open writes beside what is durable. A statement that fails changes nothing, but leaves
the writes before it open; a commit makes everything that is open durable, and a rollback undoes it. A session is
a sequence of statements, which raises at the first that fails unless it is rescued.
-/

/-- What is durable, and what a connection sees: the same tables with its open writes. -/
structure Connection (Tables : Type*) where
  committed : Tables
  working : Tables

/-- A connection without open writes. -/
def Connection.clean {Tables : Type*} (tables : Tables) : Connection Tables := ⟨tables, tables⟩

/-- A sequence of statements that returns a value or raises. -/
def Session (Tables Error Value : Type) : Type := Connection Tables → Except Error Value × Connection Tables

namespace Session

variable {Tables Error Value Next : Type}

instance : Monad (Session Tables Error) where
  pure value := fun connection => (.ok value, connection)
  bind session next := fun connection =>
    match session connection with
    | (.ok value, connection) => next value connection
    | (.error error, connection) => (.error error, connection)

/-- Raise an error. -/
def raise (error : Error) : Session Tables Error Value := fun connection => (.error error, connection)

/-- A statement that reads and changes what the connection sees, or raises; a fault makes it raise. -/
def execute (fault : Option Error) (statement : Tables → Except Error (Tables × Value)) :
    Session Tables Error Value := fun connection =>
  match fault with
  | some error => (.error error, connection)
  | none =>
    match statement connection.working with
    | .ok (tables, value) => (.ok value, { connection with working := tables })
    | .error error => (.error error, connection)

/-- A statement that only reads. -/
def select (fault : Option Error) (read : Tables → Value) : Session Tables Error Value :=
  execute fault fun tables => .ok (tables, read tables)

/-- A statement that only writes. -/
def change (fault : Option Error) (write : Tables → Tables) : Session Tables Error Unit :=
  execute fault fun tables => .ok (write tables, ())

/-- Make the open writes durable. -/
def commit (fault : Option Error) : Session Tables Error Unit := fun connection =>
  match fault with
  | some error => (.error error, connection)
  | none => (.ok (), .clean connection.working)

/-- Undo the open writes. -/
def rollback (fault : Option Error) : Session Tables Error Unit := fun connection =>
  match fault with
  | some error => (.error error, connection)
  | none => (.ok (), .clean connection.committed)

/-- Go on with a handler where a session raises. -/
def rescue (session : Session Tables Error Value) (handler : Error → Session Tables Error Value) :
    Session Tables Error Value := fun connection =>
  match session connection with
  | (.ok value, connection) => (.ok value, connection)
  | (.error error, connection) => handler error connection

variable {connection connection' : Connection Tables} {error : Error} {value : Value} {fault : Option Error}

/-- A session goes on after a part that returned. -/
theorem bind_of_returns {session : Session Tables Error Value} {next : Value → Session Tables Error Next}
    (h : session connection = (.ok value, connection')) : (session >>= next) connection = next value connection' := by
  change (match session connection with
    | (.ok value, connection) => next value connection
    | (.error error, connection) => (.error error, connection)) = _
  rw [h]

/-- A session in two parts raises in one of them. -/
theorem bind_raises {session : Session Tables Error Value} {next : Value → Session Tables Error Next} :
    (session >>= next) connection = (.error error, connection') ↔
      session connection = (.error error, connection') ∨
        ∃ value between, session connection = (.ok value, between) ∧ next value between = (.error error, connection') := by
  change (match session connection with
    | (.ok value, connection) => next value connection
    | (.error error, connection) => (.error error, connection)) = _ ↔ _
  cases session connection with
  | mk result between =>
    cases result with
    | ok value =>
      constructor
      · exact fun hnext => .inr ⟨value, between, rfl, hnext⟩
      · rintro (hfirst | ⟨_, _, hfirst, hnext⟩)
        · cases hfirst
        · cases hfirst
          exact hnext
    | error other => simp

/-- A session in two parts raises where its first part does. -/
theorem bind_of_raises {session : Session Tables Error Value} {next : Value → Session Tables Error Next}
    (h : session connection = (.error error, connection')) :
    (session >>= next) connection = (.error error, connection') := bind_raises.mpr (.inl h)

/-- A session in two parts returns after both. -/
theorem bind_returns {session : Session Tables Error Value} {next : Value → Session Tables Error Next} {result : Next} :
    (session >>= next) connection = (.ok result, connection') ↔
      ∃ value between, session connection = (.ok value, between) ∧ next value between = (.ok result, connection') := by
  change (match session connection with
    | (.ok value, connection) => next value connection
    | (.error error, connection) => (.error error, connection)) = _ ↔ _
  cases session connection with
  | mk result between =>
    cases result with
    | ok value =>
      constructor
      · exact fun hnext => ⟨value, between, rfl, hnext⟩
      · rintro ⟨_, _, hfirst, hnext⟩
        cases hfirst
        exact hnext
    | error other => simp

/-- A statement raises on a fault or of its own, and changes nothing then. -/
theorem execute_raises {statement : Tables → Except Error (Tables × Value)} :
    execute fault statement connection = (.error error, connection') ↔
      connection' = connection ∧ (fault = some error ∨ fault = none ∧ statement connection.working = .error error) := by
  unfold execute
  cases fault with
  | some other => simp [eq_comm, and_comm]
  | none =>
    cases statement connection.working with
    | ok done => simp
    | error other => simp [eq_comm, and_comm]

/-- A statement returns if there is no fault and it does not raise of its own. -/
theorem execute_returns {statement : Tables → Except Error (Tables × Value)} :
    execute fault statement connection = (.ok value, connection') ↔
      fault = none ∧ ∃ tables, statement connection.working = .ok (tables, value) ∧
        connection' = { connection with working := tables } := by
  unfold execute
  cases fault with
  | some other => simp
  | none =>
    cases statement connection.working with
    | ok done =>
      obtain ⟨tables, result⟩ := done
      constructor
      · intro hdone
        cases hdone
        exact ⟨rfl, tables, rfl, rfl⟩
      · rintro ⟨-, _, hdone, rfl⟩
        cases hdone
        rfl
    | error other => simp

/-- A read raises on a fault. -/
theorem select_raises {read : Tables → Value} :
    select fault read connection = (.error error, connection') ↔ connection' = connection ∧ fault = some error := by
  simp [select, execute_raises]

/-- A read returns what it sees. -/
theorem select_returns {read : Tables → Value} : select fault read connection = (.ok value, connection') ↔
    fault = none ∧ value = read connection.working ∧ connection' = connection := by
  rw [select, execute_returns]
  constructor
  · rintro ⟨hfault, _, hread, rfl⟩
    cases hread
    exact ⟨hfault, rfl, rfl⟩
  · rintro ⟨hfault, rfl, rfl⟩
    exact ⟨hfault, _, rfl, rfl⟩

/-- A write raises on a fault. -/
theorem change_raises {write : Tables → Tables} :
    change fault write connection = (.error error, connection') ↔ connection' = connection ∧ fault = some error := by
  simp [change, execute_raises]

/-- A write that returns is open. -/
theorem change_returns {write : Tables → Tables} {done : Unit} : change fault write connection = (.ok done, connection') ↔
    fault = none ∧ connection' = { connection with working := write connection.working } := by
  simp [change, execute_returns]

/-- A commit raises on a fault. -/
theorem commit_raises :
    commit fault connection = (.error error, connection') ↔ connection' = connection ∧ fault = some error := by
  unfold commit
  cases fault with
  | some other => simp [eq_comm, and_comm]
  | none => simp

/-- A commit that returns leaves nothing open. -/
theorem commit_returns {done : Unit} : commit fault connection = (.ok done, connection') ↔
    fault = none ∧ connection' = .clean connection.working := by
  unfold commit
  cases fault with
  | some other => simp
  | none => simp [eq_comm]

/-- A rollback raises on a fault. -/
theorem rollback_raises :
    rollback fault connection = (.error error, connection') ↔ connection' = connection ∧ fault = some error := by
  unfold rollback
  cases fault with
  | some other => simp [eq_comm, and_comm]
  | none => simp

/-- A rollback that returns has undone what was open. -/
theorem rollback_returns {done : Unit} : rollback fault connection = (.ok done, connection') ↔
    fault = none ∧ connection' = .clean connection.committed := by
  unfold rollback
  cases fault with
  | some other => simp
  | none => simp [eq_comm]

/-- A rescued session raises where its handler does. -/
theorem rescue_raises {session : Session Tables Error Value} {handler : Error → Session Tables Error Value} :
    rescue session handler connection = (.error error, connection') ↔
      ∃ first between, session connection = (.error first, between) ∧
        handler first between = (.error error, connection') := by
  unfold rescue
  cases session connection with
  | mk result between =>
    cases result with
    | ok value => simp
    | error other =>
      constructor
      · exact fun hhandled => ⟨other, between, rfl, hhandled⟩
      · rintro ⟨_, _, hfirst, hhandled⟩
        cases hfirst
        exact hhandled

/-- A rescued session returns what it or its handler does. -/
theorem rescue_returns {session : Session Tables Error Value} {handler : Error → Session Tables Error Value} :
    rescue session handler connection = (.ok value, connection') ↔
      session connection = (.ok value, connection') ∨ ∃ first between, session connection = (.error first, between) ∧
        handler first between = (.ok value, connection') := by
  unfold rescue
  cases session connection with
  | mk result between =>
    cases result with
    | ok value => simp
    | error other =>
      constructor
      · exact fun hhandled => .inr ⟨other, between, rfl, hhandled⟩
      · rintro (hfirst | ⟨_, _, hfirst, hhandled⟩)
        · cases hfirst
        · cases hfirst
          exact hhandled

end Session

import SharedIntegration.IdentityCalls
import SharedIntegration.Library.Transition

/-!
# The identity exchange

`exchange_identity` as a sequence of transactions: between any two of them other exchanges and
administrative operations may run. The rate limiter's answer is an input of the system, and so
are the values that the clock, `uuid4` and `secrets` give; the latter two never repeat one.
-/

namespace SharedIntegration

open Relational PyString Transition

/-- `IdentityExchangeRequest`. -/
structure IdentityExchangeRequest where
  issuer : String
  subject : String
  email : Option String
  displayName : Option String
  requestedTenantId : String

/-- The length limits of the request fields. -/
def IdentityExchangeRequest.valid (body : IdentityExchangeRequest) : Bool :=
  let between := fun (least most : ℕ) (text : String) => decide (least ≤ text.length ∧ text.length ≤ most)
  between 1 512 body.issuer && between 1 255 body.subject && body.email.all (between 0 320) &&
    body.displayName.all (between 0 255) && between 1 128 body.requestedTenantId

/-- A JSON response. -/
structure JsonAnswer where
  statusCode : ℕ
  content : Document
  headers : List (String × String)

/-- `_error`. -/
def errorAnswer (statusCode : ℕ) (code message requestId : String) (retryable : Bool)
    (headers : List (String × String)) : JsonAnswer where
  statusCode := statusCode
  content := .obj [("error", .obj ([("code", .str code), ("message", .str message), ("retryable", .bool retryable)] ++
    if requestId = "" then [] else [("request_id", .str requestId)]))]
  headers := headers

namespace Exchange

/-- An exchange request: its body, its bearer token and its request id. -/
structure Request where
  body : IdentityExchangeRequest
  token : Option String
  requestId : String

/-- `_safe_bridge_prefix`. -/
def safeBridgePrefix (token : Option String) : String :=
  match token.bind fun token => partition? '.' token.toList with
  | none => "unknown"
  | some (first, _) => if isPrefix "igb_" first then String.ofList first else "unknown"

/-- The local variables of the handler. -/
structure Locals where
  client : Option IdentityClientPrincipal
  user : Option UserRow
  issued : Option IssuedUserSession

/-- Where the handler stands: the transaction that comes next, and what earlier ones returned. -/
inductive Pc
  | checkingLimit
  | recordingLimit (retryAfter : ℕ)
  | authenticating
  | recordingFailure
  | lookingUp (client : IdentityClientPrincipal)
  | writing (client : IdentityClientPrincipal) (draw : IdentityDraw) (row : Option UserRow)
  | recovering (client : IdentityClientPrincipal) (draw : IdentityDraw)
  | issuing (client : IdentityClientPrincipal) (user : UserRow)
  | recordingDenial (client : IdentityClientPrincipal) (user : UserRow)
  | reauthenticating (client : IdentityClientPrincipal) (user : UserRow) (issued : IssuedUserSession)
  | revoking (client : IdentityClientPrincipal) (user : UserRow) (issued : IssuedUserSession)
  | answered (answer : JsonAnswer) (locals : Locals)

/-- What the handler has bound to its local variables. -/
def Pc.locals : Pc → Locals
  | .checkingLimit | .recordingLimit _ | .authenticating | .recordingFailure => ⟨none, none, none⟩
  | .lookingUp client | .writing client _ _ | .recovering client _ => ⟨some client, none, none⟩
  | .issuing client user | .recordingDenial client user => ⟨some client, some user, none⟩
  | .reauthenticating client user issued | .revoking client user issued => ⟨some client, some user, some issued⟩
  | .answered _ locals => locals

/-- A call of the handler. -/
structure Call where
  request : Request
  pc : Pc

/-- The actor that the audit events of a client name. -/
def clientActor (client : IdentityClientPrincipal) : String := "identity_client:" ++ client.identityClientId

/-- `_record_exchange_failure`. -/
def recordFailure (db : IdentityDatabase) (draw : IdentityDraw) (request : Request) (actor reason : String) :
    IdentityDatabase :=
  match Identity.recordAuthEvent db draw request.body.requestedTenantId actor "auth.exchange" "failure"
    (some request.requestId) [("reason", .str reason)] with
  | .ok (db', _) => db'
  | .error _ => db

/-- The answer to a request that the limiter rejects. -/
def rateLimited (request : Request) (retryAfter : ℕ) : JsonAnswer :=
  errorAnswer 429 "RATE_LIMITED" "Too many authentication attempts" request.requestId false
    [("Retry-After", toString retryAfter)]

/-- The answer without an identity repository. -/
def unavailable (request : Request) : JsonAnswer :=
  errorAnswer 503 "AUTH_SERVICE_UNAVAILABLE" "Authentication service unavailable" request.requestId true []

/-- The answer to a client that is not accepted. -/
def authenticationFailed (request : Request) : JsonAnswer :=
  errorAnswer 401 "AUTHENTICATION_FAILED" "Authentication failed" request.requestId false
    [("WWW-Authenticate", "Bearer")]

/-- The answer to a body that is not accepted. -/
def validationFailed (request : Request) : JsonAnswer :=
  errorAnswer 422 "VALIDATION_ERROR" "Request validation failed" request.requestId false []

/-- The answer to a user who is not let in. -/
def accessDenied (request : Request) : JsonAnswer :=
  errorAnswer 403 "ACCESS_DENIED" "Access denied" request.requestId false []

/-- The answer of the server to an exception that the handler does not catch. -/
def serverError : JsonAnswer := ⟨500, .str "Internal Server Error", []⟩

/-- The answer that hands out the session. -/
def exchanged (issued : IssuedUserSession) (role : String) : JsonAnswer where
  statusCode := 200
  content := .obj [("session_token", .str issued.token), ("token_type", .str "Bearer"),
    ("expires_at", .str (PyTime.isoformat issued.expiresAt)), ("tenant_id", .str issued.tenantId),
    ("user_id", .str issued.userId), ("role", .str role)]
  headers := [("Cache-Control", "no-store")]

/-- The call on arrival; a body that does not validate is answered at once. -/
def Call.arrive (request : Request) : Call :=
  ⟨request, if request.body.valid then .checkingLimit else .answered (validationFailed request) ⟨none, none, none⟩⟩

/-- What follows the limiter's answer; without a repository there is nothing to record. -/
def Call.limit (configured : Bool) (call : Call) (retryAfter : Option ℕ) : Option Call :=
  match call.pc, retryAfter with
  | .checkingLimit, some seconds =>
    some ⟨call.request, if configured then .recordingLimit seconds
      else .answered (rateLimited call.request seconds) ⟨none, none, none⟩⟩
  | .checkingLimit, none =>
    some ⟨call.request, if configured then .authenticating
      else .answered (unavailable call.request) ⟨none, none, none⟩⟩
  | _, _ => none

/-- The next transaction of a call. -/
def Call.advance (lib : SecretLibrary) (db : IdentityDatabase) (draw : IdentityDraw) (call : Call) :
    Option (IdentityDatabase × Pc) :=
  let request := call.request
  let body := request.body
  let bridge := "identity_client:" ++ safeBridgePrefix request.token
  match call.pc with
  | .checkingLimit | .answered _ _ => none
  | .recordingLimit seconds => some (recordFailure db draw request bridge "rate_limited",
      .answered (rateLimited request seconds) call.pc.locals)
  | .authenticating =>
    match Identity.authenticateIdentityClient lib db draw.now (request.token.getD "") (some body.issuer) with
    | (db', none) => some (db', .recordingFailure)
    | (db', some client) => some (db', .lookingUp client)
  | .recordingFailure => some (recordFailure db draw request bridge "authentication_failed",
      .answered (authenticationFailed request) call.pc.locals)
  | .lookingUp client =>
    match Identity.checkProfile body.issuer body.subject body.email body.displayName with
    | .error _ => some (db, .answered (validationFailed request) call.pc.locals)
    | .ok (issuer, subject) => some (db, .writing client draw (Identity.userNamed db issuer subject))
  | .writing client started row =>
    match Identity.writeProfile db started row (strip body.issuer) (strip body.subject) body.email
      body.displayName with
    | some (db', user) => some (db', .issuing client user)
    | none => some (db, .recovering client started)
  | .recovering client started =>
    match Identity.recoverProfile db started (strip body.issuer) (strip body.subject) body.email
      body.displayName with
    | .ok (db', user) => some (db', .issuing client user)
    | .error _ => some (db, .answered serverError call.pc.locals)
  | .issuing client user =>
    match Identity.issueUserSession lib db draw client.identityClientId body.requestedTenantId user.id
      Identity.defaultSessionTtlSeconds (clientActor client) (some request.requestId) with
    | .ok (db', issued) => some (db', .reauthenticating client user issued)
    | .error .integrityError => some (db, .answered serverError call.pc.locals)
    | .error _ => some (db, .recordingDenial client user)
  | .recordingDenial client _ => some (recordFailure db draw request (clientActor client) "access_denied",
      .answered (accessDenied request) call.pc.locals)
  | .reauthenticating client user issued =>
    match Identity.authenticateUserSession lib db draw.now issued.token with
    | (db', none) => some (db', .revoking client user issued)
    | (db', some principal) => some (db', .answered (exchanged issued principal.role) call.pc.locals)
  | .revoking client _ issued =>
    some ((Identity.revokeUserSession db draw issued.tenantId issued.id (clientActor client)
      (some request.requestId)).1, .answered (accessDenied request) call.pc.locals)

/-- The calls in progress on one database, and what has been drawn so far. -/
structure System where
  db : IdentityDatabase
  calls : List Call
  drawn : List IdentityDraw

/-- What can happen next. -/
inductive Label
  | start (request : Request)
  | limit (index : ℕ) (retryAfter : Option ℕ)
  | advance (index : ℕ) (draw : IdentityDraw)
  | administer (draw : IdentityDraw) (call : IdentityCall)

/-- Neither the uuid nor the token has been drawn before. -/
def Fresh (drawn : List IdentityDraw) (draw : IdentityDraw) : Prop :=
  ∀ old ∈ drawn, old.uuid ≠ draw.uuid ∧ old.urlsafe.chars ≠ draw.urlsafe.chars

instance (drawn : List IdentityDraw) (draw : IdentityDraw) : Decidable (Fresh drawn draw) :=
  inferInstanceAs (Decidable (∀ old ∈ drawn, old.uuid ≠ draw.uuid ∧ old.urlsafe.chars ≠ draw.urlsafe.chars))

/-- Perform one step of a call or one administrative operation. -/
def System.step (lib : SecretLibrary) (configured : Bool) (s : System) : Label → Option System
  | .start request => some { s with calls := s.calls ++ [Call.arrive request] }
  | .limit index retryAfter => do
    let call ← s.calls[index]?
    let call' ← call.limit configured retryAfter
    return { s with calls := s.calls.set index call' }
  | .advance index draw => do
    guard (Fresh s.drawn draw)
    let call ← s.calls[index]?
    let (db, pc) ← call.advance lib s.db draw
    return ⟨db, s.calls.set index ⟨call.request, pc⟩, s.drawn ++ [draw]⟩
  | .administer draw call => do
    guard (Fresh s.drawn draw)
    return { s with db := Identity.afterCall lib s.db (draw, call), drawn := s.drawn ++ [draw] }

section

variable {lib : SecretLibrary} {configured : Bool} {s s' : System} {index : ℕ} {draw : IdentityDraw}

/-- The limiter answers a call that asks it. -/
theorem System.step_limit {retryAfter : Option ℕ} (h : s.step lib configured (.limit index retryAfter) = some s') :
    ∃ call call', s.calls[index]? = some call ∧ call.limit configured retryAfter = some call' ∧
      s' = { s with calls := s.calls.set index call' } := by
  simp only [System.step, Option.bind_eq_bind, Option.bind_eq_some_iff, Option.pure_def, Option.some.injEq] at h
  obtain ⟨call, hcall, call', hlimit, rfl⟩ := h
  exact ⟨call, call', hcall, hlimit, rfl⟩

/-- The next transaction of a call runs, with a fresh draw. -/
theorem System.step_advance (h : s.step lib configured (.advance index draw) = some s') :
    Fresh s.drawn draw ∧ ∃ call db pc, s.calls[index]? = some call ∧ call.advance lib s.db draw = some (db, pc) ∧
      s' = ⟨db, s.calls.set index ⟨call.request, pc⟩, s.drawn ++ [draw]⟩ := by
  simp only [System.step, Option.bind_eq_bind, Option.bind_eq_some_iff, Option.guard_eq_some', Option.pure_def,
    Option.some.injEq] at h
  obtain ⟨_, hfresh, call, hcall, ⟨db, pc⟩, hadvance, rfl⟩ := h
  exact ⟨hfresh, call, db, pc, hcall, hadvance, rfl⟩

/-- An administrative operation runs, with a fresh draw. -/
theorem System.step_administer {call : IdentityCall} (h : s.step lib configured (.administer draw call) = some s') :
    Fresh s.drawn draw ∧
      s' = { s with db := Identity.afterCall lib s.db (draw, call), drawn := s.drawn ++ [draw] } := by
  simp only [System.step, Option.bind_eq_bind, Option.bind_eq_some_iff, Option.guard_eq_some', Option.pure_def,
    Option.some.injEq] at h
  obtain ⟨_, hfresh, rfl⟩ := h
  exact ⟨hfresh, rfl⟩

end

/-- No request has arrived yet. -/
def System.initial (db : IdentityDatabase) : System := ⟨db, [], []⟩

/-- The sessions that a step of this call creates. -/
def created (lib : SecretLibrary) (configured : Bool) (index : ℕ) (s : System) (l : Label) : List String :=
  match l with
  | .advance i _ =>
    if i = index then
      (s.step lib configured l).elim [] fun s' =>
        (s'.db.userSessions.rows.map UserSessionRow.id).filter fun id =>
          !(s.db.userSessions.rows.map UserSessionRow.id).contains id
    else []
  | _ => []

end Exchange

end SharedIntegration

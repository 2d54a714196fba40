import SharedIntegration.ApiV1
import SharedIntegration.SessionRevocation

/-!
# The v1 API of the gateway

What `build_app` serves under `/v1` on one database: requests to the v1 API behind the middleware, with
tokens of the environment and of the identity repository, beside identity exchanges, session revocations,
administrative operations and the calls of workers. Every call of a handler is a step of its own, so that
any of them may come between two calls of a request. The v0.5 routes, whose handlers are in
`shared_llm_core`, are left out.
-/

namespace SharedIntegration

open Transition

/-- What `build_app` is given: the libraries, the products, the tokens of the environment and whether there is an
identity repository. -/
structure HttpConfig where
  core : CoreLibrary
  text : TextLibrary
  secrets : SecretLibrary
  tables : CaseTables
  decimal : Char → Option ℕ
  products : Products
  principals : List (PyText × Principal)
  identity : Bool

/-- An accepted session as the middleware reads it. -/
def UserSessionPrincipal.authenticated (principal : UserSessionPrincipal) : Authenticated where
  tenantId := .of principal.tenantId
  role := .of principal.role
  scopes := none
  userId := some (.of principal.userId)
  sessionId := some (.of principal.sessionId)
  identityClientId := some (.of principal.identityClientId)
  apiKeyId := none

/-- An accepted API key as the middleware reads it. -/
def ApiKeyPrincipal.authenticated (principal : ApiKeyPrincipal) : Authenticated where
  tenantId := .of principal.tenantId
  role := .of principal.role
  scopes := some (principal.scopes.map .of)
  userId := none
  sessionId := none
  identityClientId := none
  apiKeyId := some (.of principal.apiKeyId)

/-- `database_authenticator`: the database behind it, and what it knows of a token. -/
def databaseAuthenticator (secrets : SecretLibrary) (db : IdentityDatabase) (now : Instant) (token : PyText) :
    IdentityDatabase × Option Authenticated :=
  if (PyText.of "igs_").isPrefixOf token then
    let (db', principal) := Identity.authenticateUserSession secrets db now token.text
    (db', principal.map UserSessionPrincipal.authenticated)
  else (db, (Identity.authenticateApiKey secrets db now token.text).map ApiKeyPrincipal.authenticated)

/-- A request: its connection, and what it asks the API for. -/
structure HttpRequest where
  scope : AsgiScope
  route : ApiRoute

/-- Where a request stands. Behind the middleware it keeps the principal that it is handled for. -/
inductive HttpPc
  | arrived
  | handling (principal : Principal) (handler : Handler)
  | streaming (principal : Principal) (stream : EventStream)
  | answered (principal : Option Principal) (response : ApiResponse)

/-- A request and where it stands. -/
structure HttpCall where
  request : HttpRequest
  pc : HttpPc

/-- Go on with a handler, with the stream that it has opened, or with its answer. -/
def HttpPc.behind (principal : Principal) : Handler → HttpPc
  | .done (.events stream) => .streaming principal stream
  | .done response => .answered (some principal) response
  | .call c next => .handling principal (.call c next)

/-- The response that has been sent, if all of it has. -/
def HttpPc.response? (core : CoreLibrary) : HttpPc → Option JsonAnswer
  | .answered _ response => some (response.answer core)
  | _ => none

/-- The principal that a request is handled for. -/
def HttpPc.principal? : HttpPc → Option Principal
  | .arrived => none
  | .handling principal _ | .streaming principal _ => some principal
  | .answered principal _ => principal

/-- `_auth_error`. -/
def authError (statusCode : ℕ) (code message : String) (requestId : PyText) (authenticate : Bool) : ApiResponse :=
  .document ⟨statusCode, .obj [("error", .obj [("code", .str code), ("message", .str message),
    ("request_id", .str requestId.text)])], if authenticate then [("WWW-Authenticate", "Bearer")] else []⟩

namespace HttpConfig

variable (config : HttpConfig)

/-- The middleware, as the identity repository answers at this moment. -/
def middleware (db : IdentityDatabase) (now : Instant) : TenantRBACMiddleware :=
  .withLookup config.principals
    (if config.identity then some fun token => (databaseAuthenticator config.secrets db now token).2 else none)

/-- The token that the identity repository is asked for: one that the environment does not know, on a path that is
neither public nor authenticated by its route. -/
def asked (scope : AsgiScope) : Option PyText :=
  if config.identity && !publicPaths.contains (scope.path.getD []) && !routeAuthPaths.contains (scope.path.getD []) then
    (bearerToken config.tables scope).filter fun token =>
      match findPrincipal token config.principals with
      | .ok none => true
      | _ => false
  else none

/-- What the middleware leaves in the database: a session that was accepted is stamped. -/
def authenticated (db : IdentityDatabase) (now : Instant) (scope : AsgiScope) : IdentityDatabase :=
  match config.asked scope with
  | some token => (databaseAuthenticator config.secrets db now token).1
  | none => db

/-- Where a request stands behind the middleware. -/
def enter (db : IdentityDatabase) (now : Instant) (fresh : PyText) (request : HttpRequest) : HttpPc :=
  match (config.middleware db now).call config.tables request.scope fresh with
  | .served principal requestId => .behind principal (request.route.handler config.core config.decimal
      config.products principal.tenantId.text principal.role.text requestId.text)
  | .refused statusCode code message requestId authenticate =>
    .answered none (authError statusCode code message requestId authenticate)
  | .passed | .raised _ => .answered none ApiV1.serverError

end HttpConfig

/-- What the dispatcher, the database server and the adapters do about a call. -/
structure Outside where
  published : Bool
  submitted : Except String String
  cancelled : Except String Unit
  ping : Bool
  ready : Bool
  available : FindingSource → Bool

/-- What handlers write to: the database and the messages that the broker has taken. -/
structure ApiStore where
  db : Database
  published : List JobKey

/-- Perform a call of a handler. -/
def ApiStore.serve (config : HttpConfig) (m : Moment) (outside : Outside) (store : ApiStore) :
    (c : ApiCall) → ApiStore × c.Answer
  | .store call =>
    let (db, result) := call.perform config.core config.text store.db m
    ({ store with db }, result)
  | .submit job _ =>
    ({ store with published := store.published ++ if outside.published then [job.key] else [] }, outside.submitted)
  | .cancel _ => (store, outside.cancelled)
  | .ping => (store, outside.ping)
  | .ready => (store, outside.ready)
  | .available source => (store, outside.available source)

/-- The next read of an event stream; a position that the database cannot hold ends it. -/
def EventStream.next (stream : EventStream) : Program ApiCall ApiCall.Answer EventStream :=
  match stream.pc with
  | .closed => .done stream
  | .listing =>
    match FindingLifecycle.bindInteger stream.sequence with
    | .error _ => .done { stream with pc := .closed }
    | .ok _ => .call (.store (.jobs (.listEvents stream.key stream.sequence 1000))) fun
      | StoreResult.jobs (.events events) => .done (stream.send events)
      | _ => .done { stream with pc := .closed }
  | .looking found =>
    .call (.store (.jobs (.get stream.key))) fun
      | StoreResult.jobs (.optional job) => .done (stream.look found job)
      | _ => .done { stream with pc := .closed }

/-- The gateway: the exchanges and revocations with the database they share, the requests to the API, and the messages
that the broker has taken. -/
structure HttpGateway where
  identity : Revocation.System
  calls : List HttpCall
  published : List JobKey

/-- What can happen next. -/
inductive HttpLabel
  | identity (label : Revocation.Label)
  | request (request : HttpRequest)
  | enter (index : ℕ) (now : Instant) (fresh : PyText)
  | proceed (index : ℕ) (moment : Moment) (outside : Outside)
  | work (call : StoreCall) (moment : Moment)

namespace HttpGateway

variable (config : HttpConfig)

/-- The database. -/
def db (s : HttpGateway) : IdentityDatabase := s.identity.db

/-- The gateway with another database. -/
def withDb (s : HttpGateway) (db : IdentityDatabase) : HttpGateway :=
  { s with identity := { s.identity with db } }

/-- What handlers write to. -/
def store (s : HttpGateway) : ApiStore := ⟨s.db.toDatabase, s.published⟩

/-- The gateway behind a call of a handler. -/
def withStore (s : HttpGateway) (store : ApiStore) : HttpGateway :=
  { s.withDb { s.db with toDatabase := store.db } with published := store.published }

/-- A request at another position. -/
def goto (s : HttpGateway) (index : ℕ) (pc : HttpPc) : HttpGateway :=
  { s with calls := s.calls.modify index fun call => { call with pc } }

/-- The next call of a request that is handled, or the next read of its stream. -/
def advance (s : HttpGateway) (m : Moment) (outside : Outside) : HttpPc → Option (ApiStore × HttpPc)
  | .handling principal handler =>
    (handler.step (ApiStore.serve config m outside) s.store).map fun (store, rest) =>
      (store, .behind principal rest)
  | .streaming principal stream =>
    match stream.next with
    | .done closed => some (s.store, .streaming principal closed)
    | .call c next =>
      let (store, answer) := s.store.serve config m outside c
      match next answer with
      | .done stream' => some (store, .streaming principal stream')
      | .call _ _ => none
  | _ => none

/-- One step. -/
def step (s : HttpGateway) : HttpLabel → Option HttpGateway
  | .identity label => do
    let identity ← s.identity.step config.secrets config.identity label
    return { s with identity }
  | .request request =>
    if request.scope.type = .of "http" && request.route.servedAt request.scope then
      some { s with calls := s.calls ++ [⟨request, .arrived⟩] }
    else none
  | .enter index now fresh => do
    let call ← s.calls[index]?
    match call.pc with
    | .arrived => some ((s.withDb (config.authenticated s.db now call.request.scope)).goto index
        (config.enter s.db now fresh call.request))
    | _ => none
  | .proceed index m outside => do
    let call ← s.calls[index]?
    let (store, pc) ← s.advance config m outside call.pc
    return (s.withStore store).goto index pc
  | .work call m =>
    some (s.withStore { s.store with db := (call.perform config.core config.text s.db.toDatabase m).1 })

/-- A gateway that no request has reached, on a database. -/
def initial (db : IdentityDatabase) : HttpGateway := ⟨⟨.initial db, []⟩, [], []⟩

end HttpGateway

end SharedIntegration

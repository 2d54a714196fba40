import SharedIntegration.Library.JsonText

/-!
# Tenant identity and access control of the gateway

`load_principals` turns an environment string into bearer tokens, `build_app` decides which of
the token sources are consulted, and `TenantRBACMiddleware` lets a request through to the
application or answers it. Only the case tables of Unicode are left open.
-/

namespace SharedIntegration

/-- `str.lower` and `str.upper`. -/
structure CaseTables where
  lower : PyText → PyText
  upper : PyText → PyText

/-- `Principal`. -/
structure Principal where
  tenantId : PyText
  role : PyText
  scopes : Option (List PyText)
  authType : PyText
  userId : Option PyText
  sessionId : Option PyText
  identityClientId : Option PyText
  apiKeyId : Option PyText
deriving DecidableEq

/-- `Principal` with the defaults of its further fields. -/
def Principal.ofRole (tenantId role : PyText) (authType : PyText) : Principal :=
  ⟨tenantId, role, none, authType, none, none, none, none⟩

/-- Exceptions that end `load_principals` or `build_app`, and those of an authenticator. -/
inductive AuthError
  | runtimeError (message : String)
  | valueError (message : String)
  | typeError (message : String)
  | json (error : JsonError)
  | authenticator (message : String)
deriving DecidableEq

/-- The environment variables of authentication. -/
structure AuthEnvironment where
  required : Option PyText
  tokens : Option PyText
  authBackend : Option PyText

/-- `_ROLES`. -/
def roles : List PyText := [.of "viewer", .of "analyst", .of "admin"]

/-- `role not in _ROLES`: an unhashable value cannot be looked up in a set. -/
def readRole : Option JsonValue → Except AuthError PyText
  | some (.str role) =>
    if role ∈ roles then .ok role
    else .error (.valueError "gateway role must be one of ['admin', 'analyst', 'viewer']")
  | some (.arr _) => .error (.typeError "unhashable type: 'list'")
  | some (.obj _) => .error (.typeError "unhashable type: 'dict'")
  | _ => .error (.valueError "gateway role must be one of ['admin', 'analyst', 'viewer']")

/-- The check of a tenant id. -/
def readTenant : Option JsonValue → Except AuthError PyText
  | some (.str tenantId) =>
    if tenantId = [] ∨ 128 < tenantId.length then
      .error (.valueError "gateway tenant IDs must contain 1 to 128 characters")
    else .ok tenantId
  | _ => .error (.valueError "gateway tenant IDs must contain 1 to 128 characters")

/-- One entry of the token object. -/
def readEntry (bearer : PyText) (value : JsonValue) : Except AuthError Principal :=
  if bearer.length < 16 then
    .error (.valueError "every gateway bearer token must contain at least 16 characters")
  else match value with
    | .obj entries => do
      let tenantId ← readTenant (Json.getEntry entries (.of "tenant"))
      let role ← readRole (Json.getEntry entries (.of "role"))
      return .ofRole tenantId role (.of "machine")
    | _ => .error (.valueError "every gateway token entry must be an object")

/-- The loop over the token object. -/
def readEntries (principals : List (PyText × Principal)) :
    List (PyText × JsonValue) → Except AuthError (List (PyText × Principal))
  | [] => .ok principals
  | (bearer, value) :: rest => do
    let principal ← readEntry bearer value
    readEntries (Json.setEntry principals bearer principal) rest

/-- Whether the environment enables the requirement. -/
def authRequired (tables : CaseTables) (env : AuthEnvironment) : Bool :=
  tables.lower (env.required.getD []) ∈ [PyText.of "1", PyText.of "true", PyText.of "yes"]

/-- `load_principals`. -/
def loadPrincipals (tables : CaseTables) (nesting : ℕ) (env : AuthEnvironment)
    (requireWhenEnabled : Bool) : Except AuthError (List (PyText × Principal)) :=
  let raw := PyText.strip (env.tokens.getD [])
  if raw = [] then
    if authRequired tables env && requireWhenEnabled then
      .error (.runtimeError
        "INTEGRATION_AUTH_REQUIRED is enabled but INTEGRATION_AUTH_TOKENS is empty")
    else .ok []
  else match JsonText.loads nesting raw with
    | .error error => .error (.json error)
    | .ok (.obj entries) => readEntries [] entries
    | .ok _ => .error (.valueError "INTEGRATION_AUTH_TOKENS must be a JSON object")

/-- What an authenticator returns for a token it knows. -/
structure Authenticated where
  tenantId : PyText
  role : PyText
  scopes : Option (List PyText)
  userId : Option PyText
  sessionId : Option PyText
  identityClientId : Option PyText
  apiKeyId : Option PyText

/-- `PrincipalAuthenticator`: it knows a token or not, or raises. -/
abbrev PrincipalAuthenticator := PyText → Except AuthError (Option Authenticated)

/-- The principal of an authenticated token; a session makes it a user. -/
def Authenticated.principal (authenticated : Authenticated) : Principal where
  tenantId := authenticated.tenantId
  role := authenticated.role
  scopes := authenticated.scopes
  authType := if authenticated.sessionId.getD [] = [] then .of "machine" else .of "user"
  userId := authenticated.userId
  sessionId := authenticated.sessionId
  identityClientId := authenticated.identityClientId
  apiKeyId := authenticated.apiKeyId

/-- The fields of an ASGI scope that the middleware reads; headers are bytes. -/
structure AsgiScope where
  type : PyText
  path : Option PyText
  method : Option PyText
  headers : List (PyText × PyText)

/-- What the middleware does with a connection: hand it on unchecked, call the application as
a principal, answer with an error, or raise. -/
inductive AuthOutcome
  | passed
  | served (principal : Principal) (requestId : PyText)
  | refused (statusCode : ℕ) (code message : String) (requestId : PyText) (authenticate : Bool)
  | raised (error : AuthError)

/-- `_PUBLIC_PATHS`. -/
def publicPaths : List PyText := [.of "/livez", .of "/v0.5/health"]

/-- `_ROUTE_AUTH_PATHS`. -/
def routeAuthPaths : List PyText := [.of "/v1/auth/exchange", .of "/v1/auth/session/revoke"]

/-- Methods that do not write. -/
def safeMethods : List PyText := [.of "GET", .of "HEAD", .of "OPTIONS"]

/-- `_request_id`: the first acceptable header, or a fresh id. -/
def requestId (tables : CaseTables) (scope : AsgiScope) (fresh : PyText) : PyText :=
  let candidates := (scope.headers.filter fun header => tables.lower header.1 = .of "x-request-id").map
    fun header => PyText.strip header.2
  (candidates.find? fun candidate => 1 ≤ candidate.length && candidate.length ≤ 128 &&
    candidate.all fun c => 32 < c && c < 127).getD (.of "req_" ++ fresh)

/-- The bearer token of a request: the last authorization header counts. -/
def bearerToken (tables : CaseTables) (scope : AsgiScope) : Option PyText :=
  let authorization := (scope.headers.reverse.find? fun header =>
    tables.lower header.1 = .of "authorization").map Prod.snd
  let (scheme, token) := PyText.partitionSpace (authorization.getD [])
  if tables.lower scheme ≠ .of "bearer" ∨ token = [] then none else some token

/-- The loop of `_authenticate`; `hmac.compare_digest` takes ASCII strings only. -/
def findPrincipal (token : PyText) : List (PyText × Principal) → Except AuthError (Option Principal)
  | [] => .ok none
  | (configured, principal) :: rest =>
    if token.isAscii && configured.isAscii then
      if token = configured then .ok (some principal) else findPrincipal token rest
    else .error (.typeError "comparing strings with non-ASCII characters is not supported")

/-- `_scope_allows`. -/
def scopeAllows (principal : Principal) (method path : PyText) : Bool :=
  match principal.scopes with
  | none => true
  | some scopes =>
    if scopes = [] ∨ .of "gateway:*" ∈ scopes then true
    else if (PyText.of "/v1/admin/").isPrefixOf path then .of "gateway:admin" ∈ scopes
    else if method ∈ safeMethods then .of "gateway:read" ∈ scopes
    else if (PyText.of "/v1/scans").isPrefixOf path ∨
        (PyText.of "/v0.5/").isPrefixOf path ∧ (PyText.of "/scan").isSuffixOf path then
      .of "scan:write" ∈ scopes
    else if (PyText.of "/v1/findings/").isPrefixOf path ∧ method = .of "PATCH" then
      .of "finding:write" ∈ scopes
    else .of "gateway:write" ∈ scopes

/-- `TenantRBACMiddleware`. -/
structure TenantRBACMiddleware where
  principals : List (PyText × Principal)
  authenticator : Option PrincipalAuthenticator

namespace TenantRBACMiddleware

variable (middleware : TenantRBACMiddleware) (tables : CaseTables)

/-- `_authenticate`. -/
def authenticate (scope : AsgiScope) : Except AuthError (Option Principal) :=
  match bearerToken tables scope with
  | none => .ok none
  | some token => do
    match ← findPrincipal token middleware.principals, middleware.authenticator with
    | some principal, _ => return some principal
    | none, none => return none
    | none, some authenticator => return (← authenticator token).map Authenticated.principal

/-- The checks on an authenticated request. -/
def authorize (principal : Principal) (method path requestId : PyText) : AuthOutcome :=
  if (PyText.of "/v1/admin/").isPrefixOf path ∧ principal.role ≠ .of "admin" then
    .refused 403 "ACCESS_DENIED" "Access denied" requestId false
  else if method ∉ safeMethods ∧ principal.role = .of "viewer" then
    .refused 403 "ACCESS_DENIED" "Access denied" requestId false
  else if scopeAllows principal method path = false then
    .refused 403 "ACCESS_DENIED" "Access denied" requestId false
  else .served principal requestId

/-- `__call__`; `fresh` is what `secrets.token_hex` draws. -/
def call (scope : AsgiScope) (fresh : PyText) : AuthOutcome :=
  let request := requestId tables scope fresh
  let path := scope.path.getD []
  if scope.type ≠ .of "http" then .passed
  else if path ∈ publicPaths then .served (.ofRole (.of "_system") (.of "viewer") (.of "public")) request
  else if path ∈ routeAuthPaths then .served (.ofRole (.of "_auth") (.of "viewer") (.of "route")) request
  else if middleware.principals = [] ∧ middleware.authenticator.isNone then
    .served (.ofRole (.of "default") (.of "admin") (.of "machine")) request
  else match middleware.authenticate tables scope with
    | .error error => .raised error
    | .ok none => .refused 401 "AUTHENTICATION_REQUIRED" "Authentication required" request true
    | .ok (some principal) =>
      authorize principal (tables.upper (scope.method.getD (.of "GET"))) path request

end TenantRBACMiddleware

/-- The authentication of `build_app`. The identity repository is the one it was given, or the
one at the configured database URL where database tokens are wanted. -/
def buildMiddleware (tables : CaseTables) (nesting : ℕ) (env : AuthEnvironment)
    (identityRepository databaseRepository : Option PrincipalAuthenticator) :
    Except AuthError TenantRBACMiddleware :=
  let backend := tables.lower (PyText.strip (env.authBackend.getD (.of "static")))
  if backend ∉ [PyText.of "static", PyText.of "database", PyText.of "hybrid"] then
    .error (.runtimeError "INTEGRATION_AUTH_BACKEND must be 'static', 'database', or 'hybrid'")
  else if backend = .of "static" then do
    return ⟨← loadPrincipals tables nesting env true, identityRepository⟩
  else match identityRepository.or databaseRepository with
    | none => .error (.runtimeError "database authentication requires INTEGRATION_DATABASE_URL")
    | some identity => do
      let principals ← if backend = .of "hybrid" then loadPrincipals tables nesting env false else .ok []
      return ⟨principals, some identity⟩

end SharedIntegration

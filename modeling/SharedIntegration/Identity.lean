import SharedIntegration.IdentityModels
import SharedIntegration.Library.PyTime

/-!
# The identity repository

`SQLAlchemyIdentityRepository`. Each operation is one transaction, so a call that raises leaves
the database as it was. Only `upsert_user` may need a second transaction; its parts are
definitions of their own, so that they can also be run with other transactions in between.
-/

namespace SharedIntegration

open Relational PyString

namespace Identity

/-- `ROLES`. -/
def roles : List String := ["viewer", "analyst", "admin"]

/-- `TENANT_STATUSES`. -/
def tenantStatuses : List String := ["active", "suspended", "disabled"]

/-- `MEMBERSHIP_STATUSES`. -/
def membershipStatuses : List String := ["active", "suspended"]

/-- `_DEFAULT_SESSION_TTL_SECONDS`. -/
def defaultSessionTtlSeconds : ℤ := 300

/-- `_MAX_SESSION_TTL_SECONDS`. -/
def maxSessionTtlSeconds : ℤ := 900

/-- `_IDENTIFIER`. -/
def isIdentifier (text : String) : Bool :=
  text.length ≤ 128 &&
    match text.toList with
    | [] => false
    | first :: rest => first.isAlphanum && rest.all fun c => c.isAlphanum || ['_', '.', ':', '-'].contains c

/-- `_SLUG`. -/
def isSlug (text : String) : Bool :=
  let plain := fun c : Char => c.isLower || c.isDigit
  text.length ≤ 128 && text.toList.all (fun c => plain c || c = '-') &&
    text.toList.head?.any plain && text.toList.getLast?.any plain

/-- Raise the error unless the condition holds. -/
def require (condition : Prop) [Decidable condition] (error : IdentityError) : Except IdentityError Unit :=
  if condition then .ok () else .error error

/-- Raise the error when there is no value. -/
def found {α : Type} (value : Option α) (error : IdentityError) : Except IdentityError α :=
  value.elim (.error error) .ok

/-- `_validate_identifier`. -/
def validateIdentifier (value field : String) : Except IdentityError Unit :=
  require (isIdentifier value) (.valueError
    (field ++ " must contain 1 to 128 letters, digits, '.', '_', ':', or '-'"))

/-- `_validate_role`. -/
def validateRole (role : String) : Except IdentityError Unit :=
  require (role ∈ roles) (.valueError "role must be one of ['admin', 'analyst', 'viewer']")

/-- `_normalize_client_name`. -/
def normalizeClientName (name : String) : Except IdentityError String := do
  require (strip name ≠ "" ∧ (strip name).length ≤ 255) (.valueError "name must contain 1 to 255 characters")
  return strip name

/-- `_normalize_issuers`. -/
def normalizeIssuers (issuers : List String) : Except IdentityError (List String) := do
  let clean := issuers.map strip
  require (∀ issuer ∈ clean, issuer ≠ "" ∧ issuer.length ≤ 512)
    (.valueError "each issuer must contain 1 to 512 characters")
  require (clean ≠ []) (.valueError "at least one issuer is required")
  require (clean.eraseDups.length ≤ 16) (.valueError "an identity client can allow at most 16 issuers")
  return clean.eraseDups

/-- `_normalize_scopes`. -/
def normalizeScopes (scopes : List String) : Except IdentityError (List String) := do
  require (∀ scope ∈ scopes, scope ≠ "" ∧ scope.length ≤ 128)
    (.valueError "each scope must contain 1 to 128 characters")
  require (scopes.eraseDups.length ≤ 64) (.valueError "an API key can contain at most 64 scopes")
  return scopes.eraseDups

/-- `_normalize_session_ttl`, in microseconds. -/
def normalizeSessionTtl (ttlSeconds : ℤ) : Except IdentityError ℤ := do
  require (1 ≤ ttlSeconds ∧ ttlSeconds ≤ maxSessionTtlSeconds)
    (.valueError "ttl_seconds must be between 1 and 900")
  return ttlSeconds * PyTime.second

/-- `_normalize_expiry`. -/
def normalizeExpiry : Option Timestamp → Except IdentityError (Option Instant)
  | none => .ok none
  | some value => do
    require value.aware (.valueError "expires_at must include a timezone")
    return some value.micros

/-- `_audit`. -/
def audit (db : IdentityDatabase) (tenantId actor action resourceType : String) (resourceId : Option String)
    (details : List (String × Document)) (now : Instant) (requestId : Option String) (outcome : String) :
    IdentityDatabase :=
  { db with auditEvents := db.auditEvents ++
      [⟨tenantId, actor, action, resourceType, resourceId, requestId, outcome, .obj details, now⟩] }

/-- `session.get(TenantRow, ...)`. -/
def tenant? (db : IdentityDatabase) (tenantId : String) : Option TenantRow :=
  db.tenants.find fun row => row.id = tenantId

/-- `session.get(UserRow, ...)`. -/
def user? (db : IdentityDatabase) (userId : String) : Option UserRow :=
  db.users.find fun row => row.id = userId

/-- `session.get(MembershipRow, ...)`. -/
def membership? (db : IdentityDatabase) (tenantId userId : String) : Option MembershipRow :=
  db.memberships.find fun row => row.tenantId = tenantId ∧ row.userId = userId

/-- `session.get(IdentityClientRow, ...)`. -/
def client? (db : IdentityDatabase) (identityClientId : String) : Option IdentityClientRow :=
  db.identityClients.find fun row => row.id = identityClientId

/-- The error of a missing tenant. -/
def tenantNotFound (tenantId : String) : IdentityError := .keyError ("tenant not found: " ++ tenantId)

/-- The error of a missing user. -/
def userNotFound (userId : String) : IdentityError := .keyError ("user not found: " ++ userId)

/-- `create_tenant`. -/
def createTenant (db : IdentityDatabase) (draw : IdentityDraw) (tenantId slug name : String)
    (retentionDays : ℤ) (actor : String) : Except IdentityError (IdentityDatabase × TenantRow) := do
  validateIdentifier tenantId "tenant_id"
  require (isSlug slug) (.valueError "slug must use lowercase letters, digits, and internal hyphens")
  let cleanName ← normalizeClientName name
  require (1 ≤ retentionDays ∧ retentionDays ≤ 3650) (.valueError "retention_days must be between 1 and 3650")
  let row : TenantRow := ⟨tenantId, slug, cleanName, "active", retentionDays.toNat, draw.now, draw.now⟩
  let tenants ← found (db.tenants.insert row) .integrityError
  return (audit { db with tenants } tenantId actor "tenant.created" "tenant" (some tenantId)
    [("slug", .str slug), ("retention_days", .int retentionDays)] draw.now none "success", row)

/-- Assign the status of a tenant. -/
def assignTenantStatus (db : IdentityDatabase) (tenantId status : String) (now : Instant) :
    IdentityDatabase :=
  let tenants := db.tenants.update (fun row => row.id = tenantId)
    (fun row => { row with status, updatedAt := now }) ⟨fun _ _ h => h, fun _ _ h => h⟩
  { db with tenants }

/-- `set_tenant_status`. -/
def setTenantStatus (db : IdentityDatabase) (draw : IdentityDraw) (tenantId status actor : String) :
    Except IdentityError (IdentityDatabase × TenantRow) := do
  require (status ∈ tenantStatuses) (.valueError "status must be one of ['active', 'disabled', 'suspended']")
  let row ← found (tenant? db tenantId) (tenantNotFound tenantId)
  return (audit (assignTenantStatus db tenantId status draw.now) tenantId actor "tenant.status_changed"
    "tenant" (some tenantId) [("from", .str row.status), ("to", .str status)] draw.now none "success",
    { row with status, updatedAt := draw.now })

/-- The row of an external identity. -/
def userNamed (db : IdentityDatabase) (issuer subject : String) : Option UserRow :=
  db.users.find fun row => row.issuer = issuer ∧ row.subject = subject

/-- Assign the profile of a user. -/
def assignProfile (db : IdentityDatabase) (userId : String) (email displayName : Option String)
    (now : Instant) : IdentityDatabase :=
  let users := db.users.update (fun row => row.id = userId)
    (fun row => { row with email, displayName, updatedAt := now }) ⟨fun _ _ h => h, fun _ _ h => h⟩
  { db with users }

/-- `upsert_user`: what is checked before the first transaction. -/
def checkProfile (issuer subject : String) (email displayName : Option String) :
    Except IdentityError (String × String) := do
  require (strip issuer ≠ "" ∧ (strip issuer).length ≤ 512)
    (.valueError "issuer must contain 1 to 512 characters")
  require (strip subject ≠ "" ∧ (strip subject).length ≤ 255)
    (.valueError "subject must contain 1 to 255 characters")
  require (email.all fun text => text.length ≤ 320)
    (.valueError "email must contain at most 320 characters")
  require (displayName.all fun text => text.length ≤ 255)
    (.valueError "display_name must contain at most 255 characters")
  return (strip issuer, strip subject)

/-- `upsert_user`: write the profile to the row that was looked up, or insert a new row. -/
def writeProfile (db : IdentityDatabase) (draw : IdentityDraw) (row : Option UserRow)
    (issuer subject : String) (email displayName : Option String) : Option (IdentityDatabase × UserRow) :=
  match row with
  | some row => some (assignProfile db row.id email displayName draw.now,
      { row with email, displayName, updatedAt := draw.now })
  | none =>
    let row : UserRow := ⟨"usr_" ++ draw.uuid, issuer, subject, email, displayName, draw.now, draw.now⟩
    (db.users.insert row).map fun users => ({ db with users }, row)

/-- `upsert_user`: the second transaction, after an `IntegrityError` of the first. -/
def recoverProfile (db : IdentityDatabase) (draw : IdentityDraw) (issuer subject : String)
    (email displayName : Option String) : Except IdentityError (IdentityDatabase × UserRow) := do
  let row ← found (userNamed db issuer subject) .integrityError
  return (assignProfile db row.id email displayName draw.now,
    { row with email, displayName, updatedAt := draw.now })

/-- `upsert_user`. -/
def upsertUser (db : IdentityDatabase) (draw : IdentityDraw) (issuer subject : String)
    (email displayName : Option String) : Except IdentityError (IdentityDatabase × UserRow) := do
  let (issuer, subject) ← checkProfile issuer subject email displayName
  match writeProfile db draw (userNamed db issuer subject) issuer subject email displayName with
  | some (db', row) => return (db', row)
  | none => recoverProfile db draw issuer subject email displayName

/-- Assign the role of a membership. -/
def assignRole (db : IdentityDatabase) (tenantId userId role : String) : IdentityDatabase :=
  let memberships := db.memberships.update (fun row => row.tenantId = tenantId ∧ row.userId = userId)
    (fun row => { row with role }) ⟨fun _ _ h => h, fun _ _ h => h⟩
  { db with memberships }

/-- Assign the status of a membership. -/
def assignMembershipStatus (db : IdentityDatabase) (tenantId userId status : String) : IdentityDatabase :=
  let memberships := db.memberships.update (fun row => row.tenantId = tenantId ∧ row.userId = userId)
    (fun row => { row with status }) ⟨fun _ _ h => h, fun _ _ h => h⟩
  { db with memberships }

/-- `set_membership`: change the role of the row, or insert an active one. -/
def writeMembership (db : IdentityDatabase) (tenantId userId role : String) (now : Instant) :
    Except IdentityError (IdentityDatabase × MembershipRow) :=
  match membership? db tenantId userId with
  | some row => .ok (assignRole db tenantId userId role, { row with role })
  | none => do
    let row : MembershipRow := ⟨tenantId, userId, role, "active", now⟩
    let memberships ← found (db.memberships.insert row) .integrityError
    return ({ db with memberships }, row)

/-- `set_membership`. -/
def setMembership (db : IdentityDatabase) (draw : IdentityDraw) (tenantId userId role actor : String) :
    Except IdentityError (IdentityDatabase × MembershipRow) := do
  validateRole role
  let _ ← found (tenant? db tenantId) (tenantNotFound tenantId)
  let _ ← found (user? db userId) (userNotFound userId)
  let (db', row) ← writeMembership db tenantId userId role draw.now
  return (audit db' tenantId actor "membership.set" "membership" (some userId) [("role", .str role)] draw.now
    none "success", row)

/-- `set_membership_status`. -/
def setMembershipStatus (db : IdentityDatabase) (draw : IdentityDraw)
    (tenantId userId status actor : String) : Except IdentityError (IdentityDatabase × MembershipRow) := do
  require (status ∈ membershipStatuses) (.valueError "status must be one of ['active', 'suspended']")
  let row ← found (membership? db tenantId userId)
    (.keyError ("membership not found: tenant=" ++ tenantId ++ ", user=" ++ userId))
  return (audit (assignMembershipStatus db tenantId userId status) tenantId actor "membership.status_changed"
    "membership" (some userId) [("from", .str row.status), ("to", .str status)] draw.now none "success",
    { row with status })

/-- `record_auth_event`. -/
def recordAuthEvent (db : IdentityDatabase) (draw : IdentityDraw) (tenantId actor action outcome : String)
    (requestId : Option String) (details : List (String × Document)) :
    Except IdentityError (IdentityDatabase × Bool) := do
  require (outcome = "success" ∨ outcome = "failure") (.valueError "outcome must be success or failure")
  match tenant? db tenantId with
  | none => return (db, false)
  | some _ => return (audit db tenantId (slice 255 actor) action "authentication" none details draw.now
      requestId outcome, true)

/-- `issue_api_key`. -/
def issueApiKey (lib : SecretLibrary) (db : IdentityDatabase) (draw : IdentityDraw) (tenantId role : String)
    (scopes : List String) (expiresAt : Option Timestamp) (actor : String) :
    Except IdentityError (IdentityDatabase × IssuedApiKey) := do
  validateRole role
  let scopes ← normalizeScopes scopes
  let expiry ← normalizeExpiry expiresAt
  require (∀ deadline ∈ expiry, draw.now < deadline) (.valueError "expires_at must be in the future")
  let first := keyPrefix "igw_" draw.hex
  let row : ApiKeyRow := ⟨⟨"key_" ++ draw.uuid, first, role, scopes, draw.now, none⟩, tenantId,
    hashSecret lib draw.salt draw.urlsafe.text, expiry⟩
  let tenant ← found (tenant? db tenantId) (tenantNotFound tenantId)
  require (tenant.status = "active") (.valueError "API keys can only be issued for active tenants")
  let apiKeys ← found (db.apiKeys.insert row) .integrityError
  return (audit { db with apiKeys } tenantId actor "api_key.issued" "api_key" (some row.id)
    [("prefix", .str first), ("role", .str role), ("scopes", .arr (scopes.map .str))] draw.now none "success",
    ⟨row.id, tenantId, role, scopes, expiry, joinToken first draw.urlsafe.text⟩)

/-- `authenticate_api_key`: what a verified key stands for. -/
def apiKeyPrincipal (db : IdentityDatabase) (now : Instant) (row : ApiKeyRow) : Option ApiKeyPrincipal := do
  let tenant ← tenant? db row.tenantId
  guard (tenant.status = "active" ∧ row.revokedAt = none)
  guard (∀ expiry ∈ row.expiresAt, now < expiry)
  guard (row.role ∈ roles)
  return ⟨row.tenantId, row.role, row.scopes, row.id⟩

/-- `authenticate_api_key`. -/
def authenticateApiKey (lib : SecretLibrary) (db : IdentityDatabase) (now : Instant) (token : String) :
    Option ApiKeyPrincipal := do
  let (first, secret) ← parseApiKey token
  let row ← db.apiKeys.find fun row => row.keyPrefix = first
  guard (verifySecret lib secret row.secretHash)
  apiKeyPrincipal db now row

/-- The order of an inventory: by creation, then by id. -/
def inventoryLE (a b : Instant × String) : Bool := a.1 < b.1 || (a.1 = b.1 && a.2 ≤ b.2)

/-- `list_api_keys`. -/
def listApiKeys (db : IdentityDatabase) (tenantId : String) (includeRevoked : Bool) :
    Except IdentityError (List ApiKeyRecord) := do
  validateIdentifier tenantId "tenant_id"
  let rows := db.apiKeys.select fun row => row.tenantId = tenantId ∧ (includeRevoked ∨ row.revokedAt = none)
  return (rows.mergeSort fun a b => inventoryLE (a.createdAt, a.id) (b.createdAt, b.id)).map
    ApiKeyRow.toApiKeyRecord

/-- Stamp the revocation of an API key. -/
def stampApiKey (db : IdentityDatabase) (apiKeyId : String) (now : Instant) : IdentityDatabase :=
  let apiKeys := db.apiKeys.update (fun row => row.id = apiKeyId)
    (fun row => { row with revokedAt := some now }) ⟨fun _ _ h => h, fun _ _ h => h⟩
  { db with apiKeys }

/-- `revoke_api_key`. -/
def revokeApiKey (db : IdentityDatabase) (draw : IdentityDraw) (tenantId apiKeyId actor : String) :
    IdentityDatabase × Bool :=
  match db.apiKeys.find fun row => row.tenantId = tenantId ∧ row.id = apiKeyId with
  | none => (db, false)
  | some row =>
    if row.revokedAt = none then
      (audit (stampApiKey db apiKeyId draw.now) tenantId actor "api_key.revoked" "api_key" (some apiKeyId)
        [("prefix", .str row.keyPrefix)] draw.now none "success", true)
    else (db, true)

/-- `_new_identity_client`. -/
def newIdentityClient (lib : SecretLibrary) (draw : IdentityDraw) (name : String)
    (allowedIssuers : List String) (rotatedFromId : Option String) : IdentityClientRow × String :=
  let first := keyPrefix "igb_" draw.hex
  (⟨⟨"idc_" ++ draw.uuid, name, first, allowedIssuers, true, rotatedFromId, draw.now, draw.now, none, none⟩,
    hashSecret lib draw.salt draw.urlsafe.text⟩, joinToken first draw.urlsafe.text)

/-- Insert a new identity client and hand out its token. -/
def addIdentityClient (lib : SecretLibrary) (db : IdentityDatabase) (draw : IdentityDraw) (name : String)
    (allowedIssuers : List String) (rotatedFromId : Option String) :
    Except IdentityError (IdentityDatabase × IssuedIdentityClient) := do
  let (row, token) := newIdentityClient lib draw name allowedIssuers rotatedFromId
  let identityClients ← found (db.identityClients.insert row) .integrityError
  return ({ db with identityClients }, ⟨row.toIdentityClientRecord, token⟩)

/-- `issue_identity_client`. -/
def issueIdentityClient (lib : SecretLibrary) (db : IdentityDatabase) (draw : IdentityDraw) (name : String)
    (allowedIssuers : List String) : Except IdentityError (IdentityDatabase × IssuedIdentityClient) := do
  let cleanName ← normalizeClientName name
  let issuers ← normalizeIssuers allowedIssuers
  addIdentityClient lib db draw cleanName issuers none

/-- `list_identity_clients`. -/
def listIdentityClients (db : IdentityDatabase) : List IdentityClientRecord :=
  (db.identityClients.rows.mergeSort fun a b => inventoryLE (a.createdAt, a.id) (b.createdAt, b.id)).map
    IdentityClientRow.toIdentityClientRecord

/-- `rotate_identity_client`. -/
def rotateIdentityClient (lib : SecretLibrary) (db : IdentityDatabase) (draw : IdentityDraw)
    (identityClientId : String) : Except IdentityError (IdentityDatabase × IssuedIdentityClient) := do
  let previous ← found (client? db identityClientId)
    (.keyError ("identity client not found: " ++ identityClientId))
  require (previous.active ∧ previous.revokedAt = none)
    (.valueError "revoked identity clients cannot be rotated")
  addIdentityClient lib db draw previous.name previous.allowedIssuers (some previous.id)

/-- Stamp the use of an identity client. -/
def touchClient (db : IdentityDatabase) (identityClientId : String) (now : Instant) : IdentityDatabase :=
  let identityClients := db.identityClients.update (fun row => row.id = identityClientId)
    (fun row => { row with lastUsedAt := some now, updatedAt := now }) ⟨fun _ _ h => h, fun _ _ h => h⟩
  { db with identityClients }

/-- `authenticate_identity_client`: the row that the token and the issuer are accepted for. -/
def acceptedClient (lib : SecretLibrary) (db : IdentityDatabase) (token : String) (issuer : Option String) :
    Option IdentityClientRow := do
  let (first, secret) ← parseIdentityClientKey token
  guard (∀ text ∈ issuer, strip text ≠ "")
  let row ← db.identityClients.find fun row => row.keyPrefix = first
  guard (verifySecret lib secret row.secretHash)
  guard (row.active ∧ row.revokedAt = none ∧ ∀ text ∈ issuer, strip text ∈ row.allowedIssuers)
  return row

/-- `authenticate_identity_client`. -/
def authenticateIdentityClient (lib : SecretLibrary) (db : IdentityDatabase) (now : Instant) (token : String)
    (issuer : Option String) : IdentityDatabase × Option IdentityClientPrincipal :=
  match acceptedClient lib db token issuer with
  | none => (db, none)
  | some row => (touchClient db row.id now,
      some { identityClientId := row.id, name := row.name, allowedIssuers := row.allowedIssuers })

/-- Stamp the revocation of an identity client. -/
def stampClient (db : IdentityDatabase) (identityClientId : String) (now : Instant) : IdentityDatabase :=
  let identityClients := db.identityClients.update (fun row => row.id = identityClientId)
    (fun row => { row with active := false, revokedAt := some now, updatedAt := now })
    ⟨fun _ _ h => h, fun _ _ h => h⟩
  { db with identityClients }

/-- `revoke_identity_client`. -/
def revokeIdentityClient (db : IdentityDatabase) (draw : IdentityDraw) (identityClientId : String) :
    IdentityDatabase × Bool :=
  match client? db identityClientId with
  | none => (db, false)
  | some row =>
    if row.revokedAt = none then (stampClient db identityClientId draw.now, true) else (db, true)

/-- `issue_user_session`. -/
def issueUserSession (lib : SecretLibrary) (db : IdentityDatabase) (draw : IdentityDraw)
    (identityClientId tenantId userId : String) (ttlSeconds : ℤ) (actor : String)
    (requestId : Option String) : Except IdentityError (IdentityDatabase × IssuedUserSession) := do
  let ttl ← normalizeSessionTtl ttlSeconds
  let token := sessionToken draw.urlsafe
  let row : UserSessionRow := ⟨"ses_" ++ draw.uuid, hashSessionToken lib token, userId, tenantId,
    identityClientId, draw.now, draw.now + ttl, none, none⟩
  require (∃ client ∈ client? db identityClientId, client.active ∧ client.revokedAt = none)
    (.valueError "identity client must be active")
  let tenant ← found (tenant? db tenantId) (tenantNotFound tenantId)
  require (tenant.status = "active") (.valueError "user sessions can only be issued for active tenants")
  let _ ← found (user? db userId) (userNotFound userId)
  require (∃ membership ∈ membership? db tenantId userId, membership.status = "active")
    (.valueError "an active membership is required")
  require (∀ membership ∈ membership? db tenantId userId, membership.role ∈ roles)
    (.valueError "membership role is invalid")
  let userSessions ← found (db.userSessions.insert row) .integrityError
  return (audit { db with userSessions } tenantId actor "user_session.issued" "user_session" (some row.id)
    [("user_id", .str userId), ("identity_client_id", .str identityClientId),
      ("expires_at", .str (PyTime.isoformat row.expiresAt))] draw.now requestId "success",
    ⟨row.id, tenantId, userId, identityClientId, row.expiresAt, token⟩)

/-- `authenticate_user_session`: what a session that was found stands for. -/
def sessionPrincipal (db : IdentityDatabase) (now : Instant) (row : UserSessionRow) :
    Option UserSessionPrincipal := do
  guard (row.revokedAt = none ∧ now < row.expiresAt)
  let client ← client? db row.identityClientId
  guard (client.active ∧ client.revokedAt = none)
  let tenant ← tenant? db row.tenantId
  guard (tenant.status = "active")
  let membership ← membership? db row.tenantId row.userId
  guard (membership.status = "active" ∧ membership.role ∈ roles)
  return ⟨row.tenantId, row.userId, membership.role, row.id, row.identityClientId⟩

/-- The session that a token belongs to. -/
def sessionOf (lib : SecretLibrary) (db : IdentityDatabase) (token : String) : Option UserSessionRow := do
  guard (isSessionToken token)
  db.userSessions.find fun row => row.tokenHash = hashSessionToken lib token

/-- Stamp the use of a session. -/
def touchSession (db : IdentityDatabase) (sessionId : String) (now : Instant) : IdentityDatabase :=
  let userSessions := db.userSessions.update (fun row => row.id = sessionId)
    (fun row => { row with lastSeenAt := some now }) ⟨fun _ _ h => h, fun _ _ h => h⟩
  { db with userSessions }

/-- `authenticate_user_session`. -/
def authenticateUserSession (lib : SecretLibrary) (db : IdentityDatabase) (now : Instant) (token : String) :
    IdentityDatabase × Option UserSessionPrincipal :=
  match (sessionOf lib db token).bind (sessionPrincipal db now) with
  | none => (db, none)
  | some principal => (touchSession db principal.sessionId now, some principal)

/-- Stamp the revocation of a session. -/
def stampSession (db : IdentityDatabase) (sessionId : String) (now : Instant) : IdentityDatabase :=
  let userSessions := db.userSessions.update (fun row => row.id = sessionId)
    (fun row => { row with revokedAt := some now }) ⟨fun _ _ h => h, fun _ _ h => h⟩
  { db with userSessions }

/-- `revoke_user_session`. -/
def revokeUserSession (db : IdentityDatabase) (draw : IdentityDraw) (tenantId sessionId actor : String)
    (requestId : Option String) : IdentityDatabase × Bool :=
  match db.userSessions.find fun row => row.tenantId = tenantId ∧ row.id = sessionId with
  | none => (db, false)
  | some row =>
    if row.revokedAt = none then
      (audit (stampSession db sessionId draw.now) tenantId actor "user_session.revoked" "user_session"
        (some sessionId) [("user_id", .str row.userId)] draw.now requestId "success", true)
    else (db, true)

/-- The cutoff of a cleanup: the given time, or the current one. -/
def cleanupCutoff (draw : IdentityDraw) (before : Option Timestamp) : Except IdentityError Instant := do
  return (← normalizeExpiry before).getD draw.now

/-- `cleanup_expired_user_sessions`. -/
def cleanupExpiredUserSessions (db : IdentityDatabase) (draw : IdentityDraw) (before : Option Timestamp) :
    Except IdentityError (IdentityDatabase × ℕ) := do
  let cutoff ← cleanupCutoff draw before
  let expired := fun row : UserSessionRow => decide (row.expiresAt ≤ cutoff)
  return ({ db with userSessions := db.userSessions.delete expired }, (db.userSessions.select expired).length)

end Identity

end SharedIntegration

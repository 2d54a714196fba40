import SharedIntegration.DbModels
import SharedIntegration.Secrets

/-!
# The identity tables

Rows of the identity models with the unique constraints of their tables, and the records that
the identity repository hands out. Tenants and audit events are those of the shared schema.
-/

namespace SharedIntegration

open Relational

/-- `UserRow`, which `UserRecord` copies. -/
structure UserRow where
  id : String
  issuer : String
  subject : String
  email : Option String
  displayName : Option String
  createdAt : Instant
  updatedAt : Instant
deriving DecidableEq

/-- Primary key `id` and unique `(issuer, subject)`. -/
def UserRow.Conflict (a b : UserRow) : Prop :=
  a.id = b.id ∨ (a.issuer = b.issuer ∧ a.subject = b.subject)

/-- `MembershipRow`, which `MembershipRecord` copies. -/
structure MembershipRow where
  tenantId : String
  userId : String
  role : String
  status : String
  createdAt : Instant
deriving DecidableEq

/-- Primary key `(tenant_id, user_id)`. -/
def MembershipRow.Conflict (a b : MembershipRow) : Prop := a.tenantId = b.tenantId ∧ a.userId = b.userId

/-- `ApiKeyRecord`: what the inventory of a tenant shows of a key. -/
structure ApiKeyRecord where
  id : String
  keyPrefix : String
  role : String
  scopes : List String
  createdAt : Instant
  revokedAt : Option Instant
deriving DecidableEq

/-- `ApiKeyRow`. -/
structure ApiKeyRow extends ApiKeyRecord where
  tenantId : String
  secretHash : String
  expiresAt : Option Instant
deriving DecidableEq

/-- Primary key `id` and unique `key_prefix`. -/
def ApiKeyRow.Conflict (a b : ApiKeyRow) : Prop := a.id = b.id ∨ a.keyPrefix = b.keyPrefix

/-- `IdentityClientRecord`. -/
structure IdentityClientRecord where
  id : String
  name : String
  keyPrefix : String
  allowedIssuers : List String
  active : Bool
  rotatedFromId : Option String
  createdAt : Instant
  updatedAt : Instant
  lastUsedAt : Option Instant
  revokedAt : Option Instant
deriving DecidableEq

/-- `IdentityClientRow`: the record and the hash of the secret. -/
structure IdentityClientRow extends IdentityClientRecord where
  secretHash : String
deriving DecidableEq

/-- Primary key `id` and unique `key_prefix`. -/
def IdentityClientRow.Conflict (a b : IdentityClientRow) : Prop := a.id = b.id ∨ a.keyPrefix = b.keyPrefix

/-- `UserSessionRow`. -/
structure UserSessionRow where
  id : String
  tokenHash : String
  userId : String
  tenantId : String
  identityClientId : String
  createdAt : Instant
  expiresAt : Instant
  lastSeenAt : Option Instant
  revokedAt : Option Instant
deriving DecidableEq

/-- Primary key `id` and unique `token_hash`. -/
def UserSessionRow.Conflict (a b : UserSessionRow) : Prop := a.id = b.id ∨ a.tokenHash = b.tokenHash

instance : DecidableRel UserRow.Conflict := fun a b =>
  inferInstanceAs (Decidable (a.id = b.id ∨ (a.issuer = b.issuer ∧ a.subject = b.subject)))

instance : DecidableRel MembershipRow.Conflict := fun a b =>
  inferInstanceAs (Decidable (a.tenantId = b.tenantId ∧ a.userId = b.userId))

instance : DecidableRel ApiKeyRow.Conflict := fun a b =>
  inferInstanceAs (Decidable (a.id = b.id ∨ a.keyPrefix = b.keyPrefix))

instance : DecidableRel IdentityClientRow.Conflict := fun a b =>
  inferInstanceAs (Decidable (a.id = b.id ∨ a.keyPrefix = b.keyPrefix))

instance : DecidableRel UserSessionRow.Conflict := fun a b =>
  inferInstanceAs (Decidable (a.id = b.id ∨ a.tokenHash = b.tokenHash))

/-- The shared schema with the tables of the identity repository. -/
structure IdentityDatabase extends Database where
  users : Table UserRow UserRow.Conflict
  memberships : Table MembershipRow MembershipRow.Conflict
  apiKeys : Table ApiKeyRow ApiKeyRow.Conflict
  identityClients : Table IdentityClientRow IdentityClientRow.Conflict
  userSessions : Table UserSessionRow UserSessionRow.Conflict

/-- A freshly migrated database. -/
def IdentityDatabase.empty : IdentityDatabase := ⟨.empty, .empty, .empty, .empty, .empty, .empty⟩

/-- `ApiKeyPrincipal`. -/
structure ApiKeyPrincipal where
  tenantId : String
  role : String
  scopes : List String
  apiKeyId : String
deriving DecidableEq

/-- `IssuedApiKey`. -/
structure IssuedApiKey where
  id : String
  tenantId : String
  role : String
  scopes : List String
  expiresAt : Option Instant
  token : String
deriving DecidableEq

/-- `IssuedIdentityClient`. -/
structure IssuedIdentityClient where
  record : IdentityClientRecord
  token : String
deriving DecidableEq

/-- `IdentityClientPrincipal`; its scopes are always `IDENTITY_CLIENT_SCOPES`. -/
structure IdentityClientPrincipal where
  identityClientId : String
  name : String
  allowedIssuers : List String
  scopes : List String := ["auth:exchange"]
deriving DecidableEq

/-- `IssuedUserSession`. -/
structure IssuedUserSession where
  id : String
  tenantId : String
  userId : String
  identityClientId : String
  expiresAt : Instant
  token : String
deriving DecidableEq

/-- `UserSessionPrincipal`. -/
structure UserSessionPrincipal where
  tenantId : String
  userId : String
  role : String
  sessionId : String
  identityClientId : String
deriving DecidableEq

/-- What an operation reads from the clock, from `uuid4` and from `secrets`. -/
structure IdentityDraw where
  now : Instant
  uuid : String
  hex : HexToken
  urlsafe : UrlsafeToken
  salt : List UInt8

/-- What an operation of the repository raises. -/
inductive IdentityError
  | keyError (message : String)
  | valueError (message : String)
  | integrityError
deriving DecidableEq, Repr

end SharedIntegration

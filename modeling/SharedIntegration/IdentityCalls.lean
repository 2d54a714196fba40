import SharedIntegration.IdentityMoves

/-!
# Sequences of identity operations

The operations of the identity repository as calls, performed one after another, and the
history of the calls with their answers. A call that raises changes nothing.
-/

namespace SharedIntegration

open Relational

/-- A call of the identity repository with its arguments. -/
inductive IdentityCall
  | createTenant (tenantId slug name : String) (retentionDays : ℤ) (actor : String)
  | setTenantStatus (tenantId status actor : String)
  | upsertUser (issuer subject : String) (email displayName : Option String)
  | setMembership (tenantId userId role actor : String)
  | setMembershipStatus (tenantId userId status actor : String)
  | getMembership (tenantId userId : String)
  | recordAuthEvent (tenantId actor action outcome : String) (requestId : Option String)
      (details : List (String × Document))
  | issueApiKey (tenantId role : String) (scopes : List String) (expiresAt : Option Timestamp) (actor : String)
  | authenticateApiKey (token : String)
  | listApiKeys (tenantId : String) (includeRevoked : Bool)
  | revokeApiKey (tenantId apiKeyId actor : String)
  | issueIdentityClient (name : String) (allowedIssuers : List String)
  | listIdentityClients
  | rotateIdentityClient (identityClientId : String)
  | authenticateIdentityClient (token : String) (issuer : Option String)
  | revokeIdentityClient (identityClientId : String)
  | issueUserSession (identityClientId tenantId userId : String) (ttlSeconds : ℤ) (actor : String)
      (requestId : Option String)
  | authenticateUserSession (token : String)
  | revokeUserSession (tenantId sessionId actor : String) (requestId : Option String)
  | cleanupExpiredUserSessions (before : Option Timestamp)

/-- What a call returns. -/
inductive IdentityResult
  | tenant (record : TenantRow)
  | user (record : UserRow)
  | membership (record : MembershipRow)
  | membershipFound (record : Option MembershipRow)
  | flag (value : Bool)
  | apiKeyIssued (issued : IssuedApiKey)
  | apiKeyPrincipal (principal : Option ApiKeyPrincipal)
  | apiKeys (records : List ApiKeyRecord)
  | clientIssued (issued : IssuedIdentityClient)
  | clients (records : List IdentityClientRecord)
  | clientPrincipal (principal : Option IdentityClientPrincipal)
  | sessionIssued (issued : IssuedUserSession)
  | sessionPrincipal (principal : Option UserSessionPrincipal)
  | count (value : ℕ)

namespace Identity

/-- The answer of an operation as the result of a call. -/
def answer {α : Type} (wrap : α → IdentityResult) (result : Except IdentityError (IdentityDatabase × α)) :
    Except IdentityError (IdentityDatabase × IdentityResult) :=
  result.map fun success => (success.1, wrap success.2)

/-- Perform a call. -/
def perform (lib : SecretLibrary) (db : IdentityDatabase) (draw : IdentityDraw) :
    IdentityCall → Except IdentityError (IdentityDatabase × IdentityResult)
  | .createTenant tenantId slug name retentionDays actor =>
    answer .tenant (createTenant db draw tenantId slug name retentionDays actor)
  | .setTenantStatus tenantId status actor => answer .tenant (setTenantStatus db draw tenantId status actor)
  | .upsertUser issuer subject email displayName =>
    answer .user (upsertUser db draw issuer subject email displayName)
  | .setMembership tenantId userId role actor =>
    answer .membership (setMembership db draw tenantId userId role actor)
  | .setMembershipStatus tenantId userId status actor =>
    answer .membership (setMembershipStatus db draw tenantId userId status actor)
  | .getMembership tenantId userId => answer .membershipFound (.ok (db, membership? db tenantId userId))
  | .recordAuthEvent tenantId actor action outcome requestId details =>
    answer .flag (recordAuthEvent db draw tenantId actor action outcome requestId details)
  | .issueApiKey tenantId role scopes expiresAt actor =>
    answer .apiKeyIssued (issueApiKey lib db draw tenantId role scopes expiresAt actor)
  | .authenticateApiKey token => answer .apiKeyPrincipal (.ok (db, authenticateApiKey lib db draw.now token))
  | .listApiKeys tenantId includeRevoked =>
    answer .apiKeys ((listApiKeys db tenantId includeRevoked).map fun records => (db, records))
  | .revokeApiKey tenantId apiKeyId actor => answer .flag (.ok (revokeApiKey db draw tenantId apiKeyId actor))
  | .issueIdentityClient name allowedIssuers =>
    answer .clientIssued (issueIdentityClient lib db draw name allowedIssuers)
  | .listIdentityClients => answer .clients (.ok (db, listIdentityClients db))
  | .rotateIdentityClient identityClientId =>
    answer .clientIssued (rotateIdentityClient lib db draw identityClientId)
  | .authenticateIdentityClient token issuer =>
    answer .clientPrincipal (.ok (authenticateIdentityClient lib db draw.now token issuer))
  | .revokeIdentityClient identityClientId => answer .flag (.ok (revokeIdentityClient db draw identityClientId))
  | .issueUserSession identityClientId tenantId userId ttlSeconds actor requestId =>
    answer .sessionIssued
      (issueUserSession lib db draw identityClientId tenantId userId ttlSeconds actor requestId)
  | .authenticateUserSession token =>
    answer .sessionPrincipal (.ok (authenticateUserSession lib db draw.now token))
  | .revokeUserSession tenantId sessionId actor requestId =>
    answer .flag (.ok (revokeUserSession db draw tenantId sessionId actor requestId))
  | .cleanupExpiredUserSessions before => answer .count (cleanupExpiredUserSessions db draw before)

/-- A call that was made, and its answer. -/
structure Entry where
  draw : IdentityDraw
  call : IdentityCall
  outcome : Except IdentityError IdentityResult

/-- The database after a call. -/
def afterCall (lib : SecretLibrary) (db : IdentityDatabase) (made : IdentityDraw × IdentityCall) :
    IdentityDatabase :=
  match perform lib db made.1 made.2 with
  | .ok (db', _) => db'
  | .error _ => db

/-- What the history records of a call. -/
def entryOf (lib : SecretLibrary) (db : IdentityDatabase) (made : IdentityDraw × IdentityCall) : Entry :=
  ⟨made.1, made.2, (perform lib db made.1 made.2).map Prod.snd⟩

/-- Perform calls one after another on a fresh database; their history. -/
def runCalls (lib : SecretLibrary) (calls : List (IdentityDraw × IdentityCall)) :
    IdentityDatabase × List Entry :=
  calls.foldl (fun run made => (afterCall lib run.1 made, run.2 ++ [entryOf lib run.1 made])) (.empty, [])

/-- An operation that only reads leaves the tables alone. -/
theorem read_eq_ok {α : Type} {db db' : IdentityDatabase} {result : Except IdentityError α} {a : α}
    (h : result.map (fun read => (db, read)) = .ok (db', a)) : db' = db := by
  cases result with
  | error e => cases h
  | ok read =>
    cases h
    rfl

/-- A call succeeds as the operation that it wraps. -/
theorem answer_eq_ok {α : Type} {wrap : α → IdentityResult}
    {result : Except IdentityError (IdentityDatabase × α)} {db' : IdentityDatabase} {r : IdentityResult} :
    answer wrap result = .ok (db', r) ↔ ∃ a, result = .ok (db', a) ∧ r = wrap a := by
  cases result with
  | error e => simp [answer, Except.map]
  | ok success =>
    simp only [answer, Except.map, Except.ok.injEq, Prod.mk.injEq]
    constructor
    · rintro ⟨rfl, rfl⟩
      exact ⟨success.2, rfl, rfl⟩
    · rintro ⟨a, rfl, rfl⟩
      exact ⟨rfl, rfl⟩

/-- The tables that calls write. -/
inductive Part
  | tenants | users | memberships | apiKeys | identityClients | userSessions
deriving DecidableEq

/-- The table that a call may write, besides audit events. -/
def part : IdentityCall → Option Part
  | .createTenant .. | .setTenantStatus .. => some .tenants
  | .upsertUser .. => some .users
  | .setMembership .. | .setMembershipStatus .. => some .memberships
  | .issueApiKey .. | .revokeApiKey .. => some .apiKeys
  | .issueIdentityClient .. | .rotateIdentityClient .. | .authenticateIdentityClient ..
  | .revokeIdentityClient .. => some .identityClients
  | .issueUserSession .. | .authenticateUserSession .. | .revokeUserSession ..
  | .cleanupExpiredUserSessions .. => some .userSessions
  | .getMembership .. | .recordAuthEvent .. | .authenticateApiKey .. | .listApiKeys ..
  | .listIdentityClients => none

/-- At most one of the identity tables has changed. -/
structure Frame (part : Option Part) (db db' : IdentityDatabase) : Prop where
  tenants : part ≠ some .tenants → db'.tenants = db.tenants
  users : part ≠ some .users → db'.users = db.users
  memberships : part ≠ some .memberships → db'.memberships = db.memberships
  apiKeys : part ≠ some .apiKeys → db'.apiKeys = db.apiKeys
  identityClients : part ≠ some .identityClients → db'.identityClients = db.identityClients
  userSessions : part ≠ some .userSessions → db'.userSessions = db.userSessions

namespace Frame

variable {part : Option Part} {db db' : IdentityDatabase}

/-- Nothing has changed. -/
theorem refl (part : Option Part) (db : IdentityDatabase) : Frame part db db :=
  ⟨fun _ => rfl, fun _ => rfl, fun _ => rfl, fun _ => rfl, fun _ => rfl, fun _ => rfl⟩

/-- Audit events are in no identity table. -/
theorem audit (h : Frame part db db') (tenantId actor action resourceType : String)
    (resourceId : Option String) (details : List (String × Document)) (now : Instant)
    (requestId : Option String) (outcome : String) : Frame part db
      (Identity.audit db' tenantId actor action resourceType resourceId details now requestId outcome) :=
  ⟨h.tenants, h.users, h.memberships, h.apiKeys, h.identityClients, h.userSessions⟩

/-- Only tenants have changed. -/
theorem withTenants (db : IdentityDatabase) (tenants : Table TenantRow TenantRow.Conflict) :
    Frame (some .tenants) db { db with tenants } :=
  { refl (some .tenants) db with tenants := fun h => absurd rfl h }

/-- Only users have changed. -/
theorem withUsers (db : IdentityDatabase) (users : Table UserRow UserRow.Conflict) :
    Frame (some .users) db { db with users } :=
  { refl (some .users) db with users := fun h => absurd rfl h }

/-- Only memberships have changed. -/
theorem withMemberships (db : IdentityDatabase) (memberships : Table MembershipRow MembershipRow.Conflict) :
    Frame (some .memberships) db { db with memberships } :=
  { refl (some .memberships) db with memberships := fun h => absurd rfl h }

/-- Only API keys have changed. -/
theorem withApiKeys (db : IdentityDatabase) (apiKeys : Table ApiKeyRow ApiKeyRow.Conflict) :
    Frame (some .apiKeys) db { db with apiKeys } :=
  { refl (some .apiKeys) db with apiKeys := fun h => absurd rfl h }

/-- Only identity clients have changed. -/
theorem withIdentityClients (db : IdentityDatabase)
    (identityClients : Table IdentityClientRow IdentityClientRow.Conflict) :
    Frame (some .identityClients) db { db with identityClients } :=
  { refl (some .identityClients) db with identityClients := fun h => absurd rfl h }

/-- Only user sessions have changed. -/
theorem withUserSessions (db : IdentityDatabase) (userSessions : Table UserSessionRow UserSessionRow.Conflict) :
    Frame (some .userSessions) db { db with userSessions } :=
  { refl (some .userSessions) db with userSessions := fun h => absurd rfl h }

end Frame

/-- A successful call changes its own table only. -/
theorem perform_frame {lib : SecretLibrary} {db db' : IdentityDatabase} {draw : IdentityDraw}
    {call : IdentityCall} {result : IdentityResult} (h : perform lib db draw call = .ok (db', result)) :
    Frame (part call) db db' := by
  cases call with
  | createTenant =>
    obtain ⟨_, hop, rfl⟩ := answer_eq_ok.mp h
    obtain ⟨_, -, -, rfl⟩ := createTenant_eq_ok hop
    exact (Frame.withTenants db _).audit ..
  | setTenantStatus =>
    obtain ⟨_, hop, rfl⟩ := answer_eq_ok.mp h
    obtain ⟨_, -, -, rfl⟩ := setTenantStatus_eq_ok hop
    exact (Frame.withTenants db _).audit ..
  | upsertUser =>
    obtain ⟨_, hop, rfl⟩ := answer_eq_ok.mp h
    obtain ⟨_, rfl⟩ := upsertUser_eq_ok hop
    exact Frame.withUsers db _
  | setMembership =>
    obtain ⟨_, hop, rfl⟩ := answer_eq_ok.mp h
    obtain ⟨-, _, -, rfl⟩ := setMembership_eq_ok hop
    exact (Frame.withMemberships db _).audit ..
  | setMembershipStatus =>
    obtain ⟨_, hop, rfl⟩ := answer_eq_ok.mp h
    obtain ⟨_, -, -, rfl⟩ := setMembershipStatus_eq_ok hop
    exact (Frame.withMemberships db _).audit ..
  | getMembership =>
    obtain ⟨_, hop, rfl⟩ := answer_eq_ok.mp h
    cases hop
    exact Frame.refl _ _
  | recordAuthEvent =>
    obtain ⟨_, hop, rfl⟩ := answer_eq_ok.mp h
    obtain ⟨-, rfl⟩ | ⟨-, -, rfl⟩ := recordAuthEvent_eq_ok hop
    · exact Frame.refl _ _
    · exact (Frame.refl _ db).audit ..
  | issueApiKey =>
    obtain ⟨_, hop, rfl⟩ := answer_eq_ok.mp h
    obtain ⟨_, -, -, -, -, -, -, -, -, rfl⟩ := issueApiKey_eq_ok hop
    exact (Frame.withApiKeys db _).audit ..
  | authenticateApiKey =>
    obtain ⟨_, hop, rfl⟩ := answer_eq_ok.mp h
    cases hop
    exact Frame.refl _ _
  | listApiKeys tenantId includeRevoked =>
    obtain ⟨_, hop, rfl⟩ := answer_eq_ok.mp h
    cases read_eq_ok hop
    exact Frame.refl _ _
  | revokeApiKey tenantId apiKeyId actor =>
    obtain ⟨_, hop, rfl⟩ := answer_eq_ok.mp h
    obtain ⟨heq, -⟩ | ⟨_, -, -, -, ⟨-, heq⟩ | ⟨-, heq⟩⟩ := revokeApiKey_cases db draw tenantId apiKeyId actor
    · cases heq.symm.trans (Except.ok.inj hop)
      exact Frame.refl _ _
    · cases heq.symm.trans (Except.ok.inj hop)
      exact Frame.refl _ _
    · cases heq.symm.trans (Except.ok.inj hop)
      exact (Frame.withApiKeys db _).audit ..
  | issueIdentityClient =>
    obtain ⟨_, hop, rfl⟩ := answer_eq_ok.mp h
    obtain ⟨_, -, hadd⟩ := issueIdentityClient_eq_ok hop
    obtain ⟨_, -, -, rfl⟩ := addIdentityClient_eq_ok hadd
    exact Frame.withIdentityClients db _
  | listIdentityClients =>
    obtain ⟨_, hop, rfl⟩ := answer_eq_ok.mp h
    cases hop
    exact Frame.refl _ _
  | rotateIdentityClient =>
    obtain ⟨_, hop, rfl⟩ := answer_eq_ok.mp h
    obtain ⟨_, -, -, -, hadd⟩ := rotateIdentityClient_eq_ok hop
    obtain ⟨_, -, -, rfl⟩ := addIdentityClient_eq_ok hadd
    exact Frame.withIdentityClients db _
  | authenticateIdentityClient token issuer =>
    obtain ⟨_, hop, rfl⟩ := answer_eq_ok.mp h
    obtain ⟨-, heq⟩ | ⟨_, -, heq⟩ := authenticateIdentityClient_cases lib db draw.now token issuer
    · cases heq.symm.trans (Except.ok.inj hop)
      exact Frame.refl _ _
    · cases heq.symm.trans (Except.ok.inj hop)
      exact Frame.withIdentityClients db _
  | revokeIdentityClient identityClientId =>
    obtain ⟨_, hop, rfl⟩ := answer_eq_ok.mp h
    obtain ⟨-, heq⟩ | ⟨_, -, ⟨-, heq⟩ | ⟨-, heq⟩⟩ := revokeIdentityClient_cases db draw identityClientId
    · cases heq.symm.trans (Except.ok.inj hop)
      exact Frame.refl _ _
    · cases heq.symm.trans (Except.ok.inj hop)
      exact Frame.refl _ _
    · cases heq.symm.trans (Except.ok.inj hop)
      exact Frame.withIdentityClients db _
  | issueUserSession =>
    obtain ⟨_, hop, rfl⟩ := answer_eq_ok.mp h
    obtain ⟨-, -, -, -, -, _, -, rfl⟩ := issueUserSession_eq_ok hop
    exact (Frame.withUserSessions db _).audit ..
  | authenticateUserSession token =>
    obtain ⟨_, hop, rfl⟩ := answer_eq_ok.mp h
    obtain heq | ⟨_, heq⟩ := authenticateUserSession_cases lib db draw.now token
    · cases heq.symm.trans (Except.ok.inj hop)
      exact Frame.refl _ _
    · cases heq.symm.trans (Except.ok.inj hop)
      exact Frame.withUserSessions db _
  | revokeUserSession tenantId sessionId actor requestId =>
    obtain ⟨_, hop, rfl⟩ := answer_eq_ok.mp h
    obtain ⟨heq, -⟩ | ⟨_, -, -, -, ⟨-, heq⟩ | ⟨-, heq⟩⟩ :=
      revokeUserSession_cases db draw tenantId sessionId actor requestId
    · cases heq.symm.trans (Except.ok.inj hop)
      exact Frame.refl _ _
    · cases heq.symm.trans (Except.ok.inj hop)
      exact Frame.refl _ _
    · cases heq.symm.trans (Except.ok.inj hop)
      exact (Frame.withUserSessions db _).audit ..
  | cleanupExpiredUserSessions =>
    obtain ⟨_, hop, rfl⟩ := answer_eq_ok.mp h
    obtain ⟨_, -, rfl⟩ := cleanupExpiredUserSessions_eq_ok hop
    exact Frame.withUserSessions db _

end Identity

end SharedIntegration

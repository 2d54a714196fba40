import SharedIntegration.LiveCalls
import SharedIntegration.SessionRevocation

/-!
# Identities beside the stores

The identity repository shares its database with the stores of jobs and findings, of which it neither
reads nor writes a row. Performed on another content of the stores, its operations answer the same, do
the same to the identities, and leave both contents as they were.
-/

namespace SharedIntegration

open Relational PyString

/-- The identities beside another content of the stores. -/
def IdentityDatabase.graft (db : IdentityDatabase) (stores : Database) : IdentityDatabase :=
  { db with toDatabase := { stores with tenants := db.tenants } }

/-- The API keys beside other stores. -/
@[simp] theorem IdentityDatabase.graft_apiKeys (db : IdentityDatabase) (stores : Database) :
    (db.graft stores).apiKeys = db.apiKeys := rfl

/-- The sessions beside other stores. -/
@[simp] theorem IdentityDatabase.graft_userSessions (db : IdentityDatabase) (stores : Database) :
    (db.graft stores).userSessions = db.userSessions := rfl

namespace Identity

/-- The same tenants and identities. -/
structure SameIdentity (db db' : IdentityDatabase) : Prop where
  tenants : db'.tenants = db.tenants
  users : db'.users = db.users
  memberships : db'.memberships = db.memberships
  apiKeys : db'.apiKeys = db.apiKeys
  identityClients : db'.identityClients = db.identityClients
  userSessions : db'.userSessions = db.userSessions

/-- Nothing has changed. -/
theorem SameIdentity.refl (db : IdentityDatabase) : SameIdentity db db := ⟨rfl, rfl, rfl, rfl, rfl, rfl⟩

/-- Databases with the same identities differ in what is beside them. -/
theorem SameIdentity.eq_graft {db db' : IdentityDatabase} (h : SameIdentity db db') : db' = db.graft db'.toDatabase := by
  cases db'
  obtain ⟨htenants, rfl, rfl, rfl, rfl, rfl⟩ := h
  rw [IdentityDatabase.graft, ← htenants]

/-- Every tenant keeps a row. -/
def TenantsKept (tenants tenants' : Table TenantRow TenantRow.Conflict) : Prop :=
  ∀ row ∈ tenants.rows, ∃ row' ∈ tenants'.rows, row'.id = row.id

/-- Two databases after the same operation: the identities of both are the same, every tenant has kept its row, and
each has the stores that it had before. -/
structure Beside (db db' after after' : IdentityDatabase) : Prop where
  identity : SameIdentity after after'
  kept : TenantsKept db.tenants after.tenants
  stores : SameStores db.toDatabase after.toDatabase
  stores' : SameStores db'.toDatabase after'.toDatabase

namespace Beside

variable {db db' after after' : IdentityDatabase}

/-- Before the operation. -/
theorem refl (db : IdentityDatabase) (stores : Database) : Beside db (db.graft stores) db (db.graft stores) :=
  ⟨⟨rfl, rfl, rfl, rfl, rfl, rfl⟩, fun row hrow => ⟨row, hrow, rfl⟩, SameStores.refl _, SameStores.refl _⟩

/-- Both record the same event. -/
theorem audit (h : Beside db db' after after') (tenantId actor action resourceType : String)
    (resourceId : Option String) (details : List (String × Document)) (now : Instant) (requestId : Option String)
    (outcome : String) : Beside db db'
      (Identity.audit after tenantId actor action resourceType resourceId details now requestId outcome)
      (Identity.audit after' tenantId actor action resourceType resourceId details now requestId outcome) where
  identity := ⟨h.identity.tenants, h.identity.users, h.identity.memberships, h.identity.apiKeys,
    h.identity.identityClients, h.identity.userSessions⟩
  kept := h.kept
  stores := { h.stores with }
  stores' := { h.stores' with }

/-- Both get the same tenants. -/
theorem withTenants (h : Beside db db' after after') {tenants : Table TenantRow TenantRow.Conflict}
    (hkept : TenantsKept db.tenants tenants) : Beside db db' { after with tenants } { after' with tenants } :=
  ⟨{ h.identity with tenants := rfl }, hkept, { h.stores with }, { h.stores' with }⟩

/-- Both get the same users. -/
theorem withUsers (h : Beside db db' after after') (users : Table UserRow UserRow.Conflict) :
    Beside db db' { after with users } { after' with users } :=
  ⟨{ h.identity with users := rfl }, h.kept, h.stores, h.stores'⟩

/-- Both get the same memberships. -/
theorem withMemberships (h : Beside db db' after after') (memberships : Table MembershipRow MembershipRow.Conflict) :
    Beside db db' { after with memberships } { after' with memberships } :=
  ⟨{ h.identity with memberships := rfl }, h.kept, h.stores, h.stores'⟩

/-- Both get the same API keys. -/
theorem withApiKeys (h : Beside db db' after after') (apiKeys : Table ApiKeyRow ApiKeyRow.Conflict) :
    Beside db db' { after with apiKeys } { after' with apiKeys } :=
  ⟨{ h.identity with apiKeys := rfl }, h.kept, h.stores, h.stores'⟩

/-- Both get the same identity clients. -/
theorem withIdentityClients (h : Beside db db' after after')
    (identityClients : Table IdentityClientRow IdentityClientRow.Conflict) :
    Beside db db' { after with identityClients } { after' with identityClients } :=
  ⟨{ h.identity with identityClients := rfl }, h.kept, h.stores, h.stores'⟩

/-- Both get the same sessions. -/
theorem withUserSessions (h : Beside db db' after after') (userSessions : Table UserSessionRow UserSessionRow.Conflict) :
    Beside db db' { after with userSessions } { after' with userSessions } :=
  ⟨{ h.identity with userSessions := rfl }, h.kept, h.stores, h.stores'⟩

end Beside

/-! ### Operations -/

/-- The same answer or the same error, and databases after the same operation. -/
def AlikeResult {α : Type} (db db' : IdentityDatabase) :
    Except IdentityError (IdentityDatabase × α) → Except IdentityError (IdentityDatabase × α) → Prop
  | .ok (after, a), .ok (after', a') => a' = a ∧ Beside db db' after after'
  | .error error, .error error' => error' = error
  | _, _ => False

namespace AlikeResult

variable {α β : Type} {db db' : IdentityDatabase}

/-- A step that answers the same goes on alike. -/
theorem bind {step : Except IdentityError β} {next next' : β → Except IdentityError (IdentityDatabase × α)}
    (h : ∀ b, AlikeResult db db' (next b) (next' b)) : AlikeResult db db' (step >>= next) (step >>= next') := by
  cases step with
  | error error => exact rfl
  | ok b => exact h b

/-- The same for a step whose answer matters. -/
theorem bind_eq {step : Except IdentityError β} {next next' : β → Except IdentityError (IdentityDatabase × α)}
    (h : ∀ b, step = .ok b → AlikeResult db db' (next b) (next' b)) :
    AlikeResult db db' (step >>= next) (step >>= next') := by
  cases step with
  | error error => exact rfl
  | ok b => exact h b rfl

/-- A step of the database goes on alike. -/
theorem bind_alike {step step' : Except IdentityError (IdentityDatabase × β)}
    {next next' : IdentityDatabase × β → Except IdentityError (IdentityDatabase × α)} (hstep : AlikeResult db db' step step')
    (h : ∀ after after' b, Beside db db' after after' → AlikeResult db db' (next (after, b)) (next' (after', b))) :
    AlikeResult db db' (step >>= next) (step' >>= next') := by
  cases step with
  | error error =>
    cases step' with
    | error error' => exact hstep
    | ok pair => exact hstep.elim
  | ok pair =>
    cases step' with
    | error error' => exact hstep.elim
    | ok pair' =>
      obtain ⟨after, b⟩ := pair
      obtain ⟨after', b'⟩ := pair'
      obtain ⟨rfl, hbeside⟩ := hstep
      exact h after after' b' hbeside

/-- The result of a call. -/
theorem answer {step step' : Except IdentityError (IdentityDatabase × β)} (h : AlikeResult db db' step step')
    (wrap : β → IdentityResult) : AlikeResult db db' (Identity.answer wrap step) (Identity.answer wrap step') := by
  cases step with
  | error error =>
    cases step' with
    | error error' => exact h
    | ok pair => exact h.elim
  | ok pair =>
    cases step' with
    | error error' => exact h.elim
    | ok pair' => exact ⟨congrArg wrap h.1, h.2⟩

end AlikeResult

section Operations

variable (lib : SecretLibrary) (db : IdentityDatabase) (stores : Database) (draw : IdentityDraw)

/-- Nothing is written. -/
theorem alike_read {α : Type} (a : α) : AlikeResult db (db.graft stores) (.ok (db, a)) (.ok (db.graft stores, a)) :=
  ⟨rfl, Beside.refl db stores⟩

/-- `create_tenant`. -/
theorem createTenant_alike (tenantId slug name : String) (retentionDays : ℤ) (actor : String) :
    AlikeResult db (db.graft stores) (createTenant db draw tenantId slug name retentionDays actor)
      (createTenant (db.graft stores) draw tenantId slug name retentionDays actor) := by
  refine .bind fun _ => .bind fun _ => .bind fun _ => .bind fun _ => .bind_eq fun tenants hinsert => ⟨rfl, ?_⟩
  refine ((Beside.refl db stores).withTenants fun row hrow => ⟨row, ?_, rfl⟩).audit ..
  rw [(Table.insert_eq_some (found_eq_ok.mp hinsert)).1]
  exact List.mem_append_left _ hrow

/-- `set_tenant_status`. -/
theorem setTenantStatus_alike (tenantId status actor : String) :
    AlikeResult db (db.graft stores) (setTenantStatus db draw tenantId status actor)
      (setTenantStatus (db.graft stores) draw tenantId status actor) := by
  refine .bind fun _ => .bind fun _ => ⟨rfl, ?_⟩
  refine ((Beside.refl db stores).withTenants fun row hrow => ⟨_, List.mem_map_of_mem hrow, ?_⟩).audit ..
  split <;> rfl

/-- Writing the profile of a user. -/
theorem assignProfile_beside (userId : String) (email displayName : Option String) (now : Instant) :
    Beside db (db.graft stores) (assignProfile db userId email displayName now)
      (assignProfile (db.graft stores) userId email displayName now) :=
  (Beside.refl db stores).withUsers _

/-- `upsert_user`: the second transaction. -/
theorem recoverProfile_alike (issuer subject : String) (email displayName : Option String) :
    AlikeResult db (db.graft stores) (recoverProfile db draw issuer subject email displayName)
      (recoverProfile (db.graft stores) draw issuer subject email displayName) :=
  .bind fun _ => ⟨rfl, assignProfile_beside db stores ..⟩

/-- `upsert_user`: the first transaction succeeds in both, alike, or in neither. -/
theorem writeProfile_alike (row : Option UserRow) (issuer subject : String) (email displayName : Option String) :
    (writeProfile db draw row issuer subject email displayName = none ∧
      writeProfile (db.graft stores) draw row issuer subject email displayName = none) ∨
    ∃ after after' user, writeProfile db draw row issuer subject email displayName = some (after, user) ∧
      writeProfile (db.graft stores) draw row issuer subject email displayName = some (after', user) ∧
      Beside db (db.graft stores) after after' := by
  cases row with
  | some row => exact .inr ⟨_, _, _, rfl, rfl, assignProfile_beside db stores ..⟩
  | none =>
    let row : UserRow := ⟨"usr_" ++ draw.uuid, issuer, subject, email, displayName, draw.now, draw.now⟩
    change ((db.users.insert row).map _ = none ∧ (db.users.insert row).map _ = none) ∨
      ∃ after after' user, (db.users.insert row).map _ = some (after, user) ∧
        (db.users.insert row).map _ = some (after', user) ∧ _
    cases db.users.insert row with
    | none => exact .inl ⟨rfl, rfl⟩
    | some users => exact .inr ⟨_, _, _, rfl, rfl, (Beside.refl db stores).withUsers users⟩

/-- `upsert_user`. -/
theorem upsertUser_alike (issuer subject : String) (email displayName : Option String) :
    AlikeResult db (db.graft stores) (upsertUser db draw issuer subject email displayName)
      (upsertUser (db.graft stores) draw issuer subject email displayName) := by
  refine .bind fun checked => ?_
  obtain ⟨issuer, subject⟩ := checked
  dsimp only
  have hsame : userNamed (db.graft stores) issuer subject = userNamed db issuer subject := rfl
  rw [hsame]
  obtain ⟨hnone, hnone'⟩ | ⟨after, after', user, hsome, hsome', hbeside⟩ :=
    writeProfile_alike db stores draw (userNamed db issuer subject) issuer subject email displayName
  · rw [hnone, hnone']
    exact recoverProfile_alike db stores draw issuer subject email displayName
  · rw [hsome, hsome']
    exact ⟨rfl, hbeside⟩

/-- `set_membership`: the membership is written. -/
theorem writeMembership_alike (tenantId userId role : String) (now : Instant) :
    AlikeResult db (db.graft stores) (writeMembership db tenantId userId role now)
      (writeMembership (db.graft stores) tenantId userId role now) := by
  unfold writeMembership
  have hsame : membership? (db.graft stores) tenantId userId = membership? db tenantId userId := rfl
  rw [hsame]
  split
  · exact ⟨rfl, (Beside.refl db stores).withMemberships _⟩
  · exact .bind fun memberships => ⟨rfl, (Beside.refl db stores).withMemberships memberships⟩

/-- `set_membership`. -/
theorem setMembership_alike (tenantId userId role actor : String) :
    AlikeResult db (db.graft stores) (setMembership db draw tenantId userId role actor)
      (setMembership (db.graft stores) draw tenantId userId role actor) := by
  refine .bind fun _ => .bind fun _ => .bind fun _ => ?_
  apply AlikeResult.bind_alike (writeMembership_alike db stores tenantId userId role draw.now)
  exact fun after after' row hbeside => ⟨rfl, hbeside.audit ..⟩

/-- `set_membership_status`. -/
theorem setMembershipStatus_alike (tenantId userId status actor : String) :
    AlikeResult db (db.graft stores) (setMembershipStatus db draw tenantId userId status actor)
      (setMembershipStatus (db.graft stores) draw tenantId userId status actor) := by
  refine .bind fun _ => .bind fun _ => ⟨rfl, ?_⟩
  exact ((Beside.refl db stores).withMemberships _).audit ..

/-- `record_auth_event`. -/
theorem recordAuthEvent_alike (tenantId actor action outcome : String) (requestId : Option String)
    (details : List (String × Document)) :
    AlikeResult db (db.graft stores) (recordAuthEvent db draw tenantId actor action outcome requestId details)
      (recordAuthEvent (db.graft stores) draw tenantId actor action outcome requestId details) := by
  refine .bind fun _ => ?_
  have hsame : tenant? (db.graft stores) tenantId = tenant? db tenantId := rfl
  rw [hsame]
  split
  · exact alike_read db stores false
  · exact ⟨rfl, (Beside.refl db stores).audit ..⟩

/-- `issue_api_key`. -/
theorem issueApiKey_alike (tenantId role : String) (scopes : List String) (expiresAt : Option Timestamp)
    (actor : String) : AlikeResult db (db.graft stores) (issueApiKey lib db draw tenantId role scopes expiresAt actor)
      (issueApiKey lib (db.graft stores) draw tenantId role scopes expiresAt actor) := by
  refine .bind fun _ => .bind fun _ => .bind fun _ => .bind fun _ => .bind fun _ => .bind fun _ =>
    .bind fun apiKeys => ⟨rfl, ?_⟩
  exact ((Beside.refl db stores).withApiKeys apiKeys).audit ..

/-- `revoke_api_key`. -/
theorem revokeApiKey_alike (tenantId apiKeyId actor : String) :
    AlikeResult db (db.graft stores) (.ok (revokeApiKey db draw tenantId apiKeyId actor))
      (.ok (revokeApiKey (db.graft stores) draw tenantId apiKeyId actor)) := by
  unfold revokeApiKey
  rw [IdentityDatabase.graft_apiKeys]
  split
  · exact alike_read db stores false
  · split
    · exact ⟨rfl, ((Beside.refl db stores).withApiKeys _).audit ..⟩
    · exact alike_read db stores true

/-- Inserting an identity client. -/
theorem addIdentityClient_alike (name : String) (allowedIssuers : List String) (rotatedFromId : Option String) :
    AlikeResult db (db.graft stores) (addIdentityClient lib db draw name allowedIssuers rotatedFromId)
      (addIdentityClient lib (db.graft stores) draw name allowedIssuers rotatedFromId) :=
  .bind fun identityClients => ⟨rfl, (Beside.refl db stores).withIdentityClients identityClients⟩

/-- `issue_identity_client`. -/
theorem issueIdentityClient_alike (name : String) (allowedIssuers : List String) :
    AlikeResult db (db.graft stores) (issueIdentityClient lib db draw name allowedIssuers)
      (issueIdentityClient lib (db.graft stores) draw name allowedIssuers) :=
  .bind fun _ => .bind fun _ => addIdentityClient_alike lib db stores draw ..

/-- `rotate_identity_client`. -/
theorem rotateIdentityClient_alike (identityClientId : String) :
    AlikeResult db (db.graft stores) (rotateIdentityClient lib db draw identityClientId)
      (rotateIdentityClient lib (db.graft stores) draw identityClientId) :=
  .bind fun _ => .bind fun _ => addIdentityClient_alike lib db stores draw ..

/-- `authenticate_identity_client`. -/
theorem authenticateIdentityClient_alike (now : Instant) (token : String) (issuer : Option String) :
    AlikeResult db (db.graft stores) (.ok (authenticateIdentityClient lib db now token issuer))
      (.ok (authenticateIdentityClient lib (db.graft stores) now token issuer)) := by
  unfold authenticateIdentityClient
  have hsame : acceptedClient lib (db.graft stores) token issuer = acceptedClient lib db token issuer := rfl
  rw [hsame]
  split
  · exact alike_read db stores none
  · exact ⟨rfl, (Beside.refl db stores).withIdentityClients _⟩

/-- `revoke_identity_client`. -/
theorem revokeIdentityClient_alike (identityClientId : String) :
    AlikeResult db (db.graft stores) (.ok (revokeIdentityClient db draw identityClientId))
      (.ok (revokeIdentityClient (db.graft stores) draw identityClientId)) := by
  unfold revokeIdentityClient
  have hsame : client? (db.graft stores) identityClientId = client? db identityClientId := rfl
  rw [hsame]
  split
  · exact alike_read db stores false
  · split
    · exact ⟨rfl, (Beside.refl db stores).withIdentityClients _⟩
    · exact alike_read db stores true

/-- `issue_user_session`. -/
theorem issueUserSession_alike (identityClientId tenantId userId : String) (ttlSeconds : ℤ) (actor : String)
    (requestId : Option String) : AlikeResult db (db.graft stores)
      (issueUserSession lib db draw identityClientId tenantId userId ttlSeconds actor requestId)
      (issueUserSession lib (db.graft stores) draw identityClientId tenantId userId ttlSeconds actor requestId) := by
  refine .bind fun _ => .bind fun _ => .bind fun _ => .bind fun _ => .bind fun _ => .bind fun _ => .bind fun _ =>
    .bind fun userSessions => ⟨rfl, ?_⟩
  exact ((Beside.refl db stores).withUserSessions userSessions).audit ..

/-- `authenticate_user_session`. -/
theorem authenticateUserSession_alike (now : Instant) (token : String) :
    AlikeResult db (db.graft stores) (.ok (authenticateUserSession lib db now token))
      (.ok (authenticateUserSession lib (db.graft stores) now token)) := by
  unfold authenticateUserSession
  have hsame : (sessionOf lib (db.graft stores) token).bind (sessionPrincipal (db.graft stores) now) =
      (sessionOf lib db token).bind (sessionPrincipal db now) := rfl
  rw [hsame]
  split
  · exact alike_read db stores none
  · exact ⟨rfl, (Beside.refl db stores).withUserSessions _⟩

/-- `revoke_user_session`. -/
theorem revokeUserSession_alike (tenantId sessionId actor : String) (requestId : Option String) :
    AlikeResult db (db.graft stores) (.ok (revokeUserSession db draw tenantId sessionId actor requestId))
      (.ok (revokeUserSession (db.graft stores) draw tenantId sessionId actor requestId)) := by
  unfold revokeUserSession
  rw [IdentityDatabase.graft_userSessions]
  split
  · exact alike_read db stores false
  · split
    · exact ⟨rfl, ((Beside.refl db stores).withUserSessions _).audit ..⟩
    · exact alike_read db stores true

/-- `cleanup_expired_user_sessions`. -/
theorem cleanupExpiredUserSessions_alike (before : Option Timestamp) :
    AlikeResult db (db.graft stores) (cleanupExpiredUserSessions db draw before)
      (cleanupExpiredUserSessions (db.graft stores) draw before) :=
  .bind fun _ => ⟨rfl, (Beside.refl db stores).withUserSessions _⟩

/-- Every operation of the identity repository. -/
theorem perform_alike (call : IdentityCall) :
    AlikeResult db (db.graft stores) (perform lib db draw call) (perform lib (db.graft stores) draw call) := by
  cases call with
  | createTenant => exact (createTenant_alike db stores draw ..).answer .tenant
  | setTenantStatus => exact (setTenantStatus_alike db stores draw ..).answer .tenant
  | upsertUser => exact (upsertUser_alike db stores draw ..).answer .user
  | setMembership => exact (setMembership_alike db stores draw ..).answer .membership
  | setMembershipStatus => exact (setMembershipStatus_alike db stores draw ..).answer .membership
  | getMembership => exact (alike_read db stores _).answer .membershipFound
  | recordAuthEvent => exact (recordAuthEvent_alike db stores draw ..).answer .flag
  | issueApiKey => exact (issueApiKey_alike lib db stores draw ..).answer .apiKeyIssued
  | authenticateApiKey => exact (alike_read db stores _).answer .apiKeyPrincipal
  | listApiKeys tenantId includeRevoked =>
    refine AlikeResult.answer ?_ .apiKeys
    change AlikeResult _ _ ((listApiKeys db tenantId includeRevoked).map _)
      ((listApiKeys db tenantId includeRevoked).map _)
    cases listApiKeys db tenantId includeRevoked with
    | error error => exact rfl
    | ok records => exact alike_read db stores records
  | revokeApiKey => exact (revokeApiKey_alike db stores draw ..).answer .flag
  | issueIdentityClient => exact (issueIdentityClient_alike lib db stores draw ..).answer .clientIssued
  | listIdentityClients => exact (alike_read db stores _).answer .clients
  | rotateIdentityClient => exact (rotateIdentityClient_alike lib db stores draw ..).answer .clientIssued
  | authenticateIdentityClient => exact (authenticateIdentityClient_alike lib db stores ..).answer .clientPrincipal
  | revokeIdentityClient => exact (revokeIdentityClient_alike db stores draw ..).answer .flag
  | issueUserSession => exact (issueUserSession_alike lib db stores draw ..).answer .sessionIssued
  | authenticateUserSession => exact (authenticateUserSession_alike lib db stores ..).answer .sessionPrincipal
  | revokeUserSession => exact (revokeUserSession_alike db stores draw ..).answer .flag
  | cleanupExpiredUserSessions => exact (cleanupExpiredUserSessions_alike db stores draw ..).answer .count

end Operations

end Identity

/-! ### Exchanges and revocations -/

section Systems

open Identity Transition

variable {lib : SecretLibrary} {configured : Bool} {db : IdentityDatabase} {stores : Database} {draw : IdentityDraw}

/-- An operation that answers leaves the databases beside each other. -/
theorem Identity.AlikeResult.eq_ok {α : Type} {db db' after : IdentityDatabase} {a : α}
    {step step' : Except IdentityError (IdentityDatabase × α)} (h : AlikeResult db db' step step')
    (hstep : step = .ok (after, a)) : ∃ after', step' = .ok (after', a) ∧ Beside db db' after after' := by
  subst hstep
  cases step' with
  | error error => exact h.elim
  | ok pair => exact ⟨pair.1, by rw [← h.1], h.2⟩

/-- An operation that raises raises in both. -/
theorem Identity.AlikeResult.eq_error {α : Type} {db db' : IdentityDatabase} {error : IdentityError}
    {step step' : Except IdentityError (IdentityDatabase × α)} (h : AlikeResult db db' step step')
    (hstep : step = .error error) : step' = .error error := by
  subst hstep
  cases step' with
  | error error' => exact congrArg Except.error h
  | ok pair => exact h.elim

/-- A call of the repository that may raise. -/
theorem Identity.afterCall_beside (lib : SecretLibrary) (db : IdentityDatabase) (stores : Database)
    (made : IdentityDraw × IdentityCall) :
    Beside db (db.graft stores) (afterCall lib db made) (afterCall lib (db.graft stores) made) := by
  have halike := perform_alike lib db stores made.1 made.2
  unfold afterCall
  cases hperform : perform lib db made.1 made.2 with
  | error error =>
    rw [halike.eq_error hperform]
    exact Beside.refl db stores
  | ok pair =>
    obtain ⟨after', hperform', hbeside⟩ := halike.eq_ok hperform
    rw [hperform']
    exact hbeside

/-- Recording a failed exchange. -/
theorem Exchange.recordFailure_beside (db : IdentityDatabase) (stores : Database) (draw : IdentityDraw)
    (request : Exchange.Request) (actor reason : String) :
    Beside db (db.graft stores) (Exchange.recordFailure db draw request actor reason)
      (Exchange.recordFailure (db.graft stores) draw request actor reason) := by
  have halike := recordAuthEvent_alike db stores draw request.body.requestedTenantId actor "auth.exchange" "failure"
    (some request.requestId) [("reason", .str reason)]
  unfold Exchange.recordFailure
  cases hrecord : recordAuthEvent db draw request.body.requestedTenantId actor "auth.exchange" "failure"
      (some request.requestId) [("reason", .str reason)] with
  | error error =>
    rw [halike.eq_error hrecord]
    exact Beside.refl db stores
  | ok pair =>
    obtain ⟨after', hrecord', hbeside⟩ := halike.eq_ok hrecord
    rw [hrecord']
    exact hbeside

/-- The next transaction of an exchange. -/
theorem Exchange.Call.advance_beside {call : Exchange.Call} {after : IdentityDatabase} {pc : Exchange.Pc}
    (stores : Database) (h : call.advance lib db draw = some (after, pc)) :
    ∃ after', call.advance lib (db.graft stores) draw = some (after', pc) ∧ Beside db (db.graft stores) after after' := by
  obtain ⟨request, pc₀⟩ := call
  cases pc₀ with
  | checkingLimit | answered => cases h
  | recordingLimit seconds =>
    cases h
    exact ⟨_, rfl, Exchange.recordFailure_beside db stores draw request _ _⟩
  | authenticating =>
    have halike := authenticateIdentityClient_alike lib db stores draw.now (request.token.getD "")
      (some request.body.issuer)
    simp only [advance] at h ⊢
    cases hclient : authenticateIdentityClient lib db draw.now (request.token.getD "") (some request.body.issuer) with
    | mk db₁ client =>
      obtain ⟨after', hclient', hbeside⟩ := halike.eq_ok (congrArg Except.ok hclient)
      rw [Except.ok.inj hclient']
      rw [hclient] at h
      cases client <;> cases h <;> exact ⟨_, rfl, hbeside⟩
  | recordingFailure =>
    cases h
    exact ⟨_, rfl, Exchange.recordFailure_beside db stores draw request _ _⟩
  | lookingUp client =>
    simp only [advance] at h ⊢
    cases hcheck : checkProfile request.body.issuer request.body.subject request.body.email
        request.body.displayName with
    | error error =>
      rw [hcheck] at h
      cases h
      exact ⟨_, rfl, Beside.refl db stores⟩
    | ok checked =>
      rw [hcheck] at h
      cases h
      exact ⟨_, rfl, Beside.refl db stores⟩
  | writing client started row =>
    simp only [advance] at h ⊢
    obtain ⟨hnone, hnone'⟩ | ⟨after₁, after', user, hsome, hsome', hbeside⟩ :=
      writeProfile_alike db stores started row (strip request.body.issuer) (strip request.body.subject)
        request.body.email request.body.displayName
    · rw [hnone] at h
      rw [hnone']
      cases h
      exact ⟨_, rfl, Beside.refl db stores⟩
    · rw [hsome] at h
      rw [hsome']
      cases h
      exact ⟨_, rfl, hbeside⟩
  | recovering client started =>
    simp only [advance] at h ⊢
    have halike := recoverProfile_alike db stores started (strip request.body.issuer) (strip request.body.subject)
      request.body.email request.body.displayName
    cases hrecover : recoverProfile db started (strip request.body.issuer) (strip request.body.subject)
        request.body.email request.body.displayName with
    | error error =>
      rw [hrecover] at h
      rw [halike.eq_error hrecover]
      cases h
      exact ⟨_, rfl, Beside.refl db stores⟩
    | ok pair =>
      obtain ⟨after', hrecover', hbeside⟩ := halike.eq_ok hrecover
      rw [hrecover] at h
      rw [hrecover']
      cases h
      exact ⟨_, rfl, hbeside⟩
  | issuing client user =>
    simp only [advance] at h ⊢
    have halike := issueUserSession_alike lib db stores draw client.identityClientId request.body.requestedTenantId
      user.id defaultSessionTtlSeconds (Exchange.clientActor client) (some request.requestId)
    cases hissue : issueUserSession lib db draw client.identityClientId request.body.requestedTenantId user.id
        defaultSessionTtlSeconds (Exchange.clientActor client) (some request.requestId) with
    | error error =>
      rw [hissue] at h
      rw [halike.eq_error hissue]
      cases error <;> cases h <;> exact ⟨_, rfl, Beside.refl db stores⟩
    | ok pair =>
      obtain ⟨after', hissue', hbeside⟩ := halike.eq_ok hissue
      rw [hissue] at h
      rw [hissue']
      cases h
      exact ⟨_, rfl, hbeside⟩
  | recordingDenial client user =>
    cases h
    exact ⟨_, rfl, Exchange.recordFailure_beside db stores draw request _ _⟩
  | reauthenticating client user issued =>
    have halike := authenticateUserSession_alike lib db stores draw.now issued.token
    simp only [advance] at h ⊢
    cases hsession : authenticateUserSession lib db draw.now issued.token with
    | mk db₁ principal =>
      obtain ⟨after', hsession', hbeside⟩ := halike.eq_ok (congrArg Except.ok hsession)
      rw [Except.ok.inj hsession']
      rw [hsession] at h
      cases principal <;> cases h <;> exact ⟨_, rfl, hbeside⟩
  | revoking client user issued =>
    have halike := revokeUserSession_alike db stores draw issued.tenantId issued.id (Exchange.clientActor client)
      (some request.requestId)
    cases h
    exact ⟨_, rfl, halike.2⟩

/-- The next transaction of a revocation. -/
theorem Revocation.Call.advance_beside {call : Revocation.Call} {after : IdentityDatabase} {pc : Revocation.Pc}
    (stores : Database) (h : call.advance lib db draw = some (after, pc)) :
    ∃ after', call.advance lib (db.graft stores) draw = some (after', pc) ∧ Beside db (db.graft stores) after after' := by
  obtain ⟨request, pc₀⟩ := call
  have hauthenticate := fun token => authenticateUserSession_alike lib db stores draw.now token
  cases pc₀ with
  | answered => cases h
  | authenticatingSession =>
    simp only [advance] at h ⊢
    cases hsession : authenticateUserSession lib db draw.now (Revocation.bearer request) with
    | mk db₁ principal =>
      obtain ⟨after', hsession', hbeside⟩ := (hauthenticate _).eq_ok (congrArg Except.ok hsession)
      rw [Except.ok.inj hsession']
      rw [hsession] at h
      cases principal <;> cases h <;> exact ⟨_, rfl, hbeside⟩
  | revokingOwn principal =>
    have halike := revokeUserSession_alike db stores draw principal.tenantId principal.sessionId
      (Revocation.sessionActor principal) (some request.requestId)
    cases h
    exact ⟨_, rfl, halike.2⟩
  | authenticatingClient =>
    have halike := authenticateIdentityClient_alike lib db stores draw.now (Revocation.bearer request) none
    simp only [advance] at h ⊢
    cases hclient : authenticateIdentityClient lib db draw.now (Revocation.bearer request) none with
    | mk db₁ client =>
      obtain ⟨after', hclient', hbeside⟩ := halike.eq_ok (congrArg Except.ok hclient)
      rw [Except.ok.inj hclient']
      rw [hclient] at h
      cases client <;> cases hnamed : request.named <;> rw [hnamed] at h <;> cases h <;> exact ⟨_, rfl, hbeside⟩
  | authenticatingTarget bridge text =>
    simp only [advance] at h ⊢
    cases hsession : authenticateUserSession lib db draw.now text with
    | mk db₁ principal =>
      obtain ⟨after', hsession', hbeside⟩ := (hauthenticate text).eq_ok (congrArg Except.ok hsession)
      rw [Except.ok.inj hsession']
      rw [hsession] at h
      cases principal with
      | none =>
        cases h
        exact ⟨_, rfl, hbeside⟩
      | some target =>
        dsimp only at h ⊢
        split at h
        · next hissuer =>
          cases h
          rw [if_pos hissuer]
          exact ⟨_, rfl, hbeside⟩
        · next hissuer =>
          cases h
          rw [if_neg hissuer]
          exact ⟨_, rfl, hbeside⟩
  | revokingTarget bridge target =>
    have halike := revokeUserSession_alike db stores draw target.tenantId target.sessionId
      (Exchange.clientActor bridge) (some request.requestId)
    cases h
    exact ⟨_, rfl, halike.2⟩

/-- One step of the exchanges. -/
theorem Exchange.System.step_beside {s t : Exchange.System} {label : Exchange.Label} (stores : Database)
    (h : s.step lib configured label = some t) :
    ∃ after', { s with db := s.db.graft stores }.step lib configured label = some { t with db := after' } ∧
      Beside s.db (s.db.graft stores) t.db after' := by
  cases label with
  | start request =>
    cases h
    exact ⟨_, rfl, Beside.refl s.db stores⟩
  | limit index retryAfter =>
    obtain ⟨call, call', hcall, hlimit, rfl⟩ := System.step_limit h
    refine ⟨_, ?_, Beside.refl s.db stores⟩
    simp [System.step, hcall, hlimit]
  | advance index draw =>
    obtain ⟨hfresh, call, db, pc, hcall, hadvance, rfl⟩ := System.step_advance h
    obtain ⟨after', hadvance', hbeside⟩ := Call.advance_beside stores hadvance
    refine ⟨after', ?_, hbeside⟩
    simp [System.step, hcall, hadvance', hfresh]
  | administer draw call =>
    obtain ⟨hfresh, rfl⟩ := System.step_administer h
    refine ⟨_, ?_, afterCall_beside lib s.db stores (draw, call)⟩
    simp [System.step, hfresh]

/-- One step of the exchanges and revocations. -/
theorem Revocation.System.step_beside {s t : Revocation.System} {label : Revocation.Label} (stores : Database)
    (h : s.step lib configured label = some t) :
    ∃ after', System.step lib configured { s with db := s.db.graft stores } label = some { t with db := after' } ∧
      Beside s.db (s.db.graft stores) t.db after' := by
  cases label with
  | exchange label =>
    obtain ⟨exchanges, hexchange, rfl⟩ := System.step_exchange h
    obtain ⟨after', hexchange', hbeside⟩ := Exchange.System.step_beside stores hexchange
    refine ⟨after', ?_, hbeside⟩
    simp [System.step, hexchange']
  | start token body requestId =>
    cases h
    exact ⟨_, rfl, Beside.refl s.db stores⟩
  | advance index draw =>
    obtain ⟨hfresh, call, db, pc, hcall, hadvance, rfl⟩ := System.step_advance h
    obtain ⟨after', hadvance', hbeside⟩ := Call.advance_beside stores hadvance
    refine ⟨after', ?_, hbeside⟩
    simp [System.step, hcall, hadvance', hfresh]

end Systems

end SharedIntegration

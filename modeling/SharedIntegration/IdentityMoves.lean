import SharedIntegration.Identity
import SharedIntegration.Library.Fallible

/-!
# What an identity operation does when it succeeds

One lemma for each operation of the repository says what it checked and what it wrote; the
invariants of the identity tables are proved from these.
-/

namespace SharedIntegration

open Relational PyString Fallible

namespace Identity

/-- A check succeeds exactly if its condition holds. -/
theorem require_eq_ok {condition : Prop} [Decidable condition] {error : IdentityError} {u : Unit} :
    require condition error = .ok u ↔ condition := by
  unfold require
  split <;> simp_all

/-- A value is found exactly if there is one. -/
theorem found_eq_ok {α : Type} {value : Option α} {error : IdentityError} {a : α} :
    found value error = .ok a ↔ value = some a := by
  cases value <;> simp [found]

variable {lib : SecretLibrary} {db db' : IdentityDatabase} {draw : IdentityDraw}

/-- A tenant is found under its own id. -/
theorem tenant?_eq_some {tenantId : String} {row : TenantRow} (h : tenant? db tenantId = some row) :
    row ∈ db.tenants.rows ∧ row.id = tenantId := by
  obtain ⟨hmem, hid⟩ := Table.find_eq_some h
  exact ⟨hmem, of_decide_eq_true hid⟩

/-- A membership is found under its own key. -/
theorem membership?_eq_some {tenantId userId : String} {row : MembershipRow}
    (h : membership? db tenantId userId = some row) :
    row ∈ db.memberships.rows ∧ row.tenantId = tenantId ∧ row.userId = userId := by
  obtain ⟨hmem, hkey⟩ := Table.find_eq_some h
  exact ⟨hmem, of_decide_eq_true hkey⟩

/-- An identity client is found under its own id. -/
theorem client?_eq_some {identityClientId : String} {row : IdentityClientRow}
    (h : client? db identityClientId = some row) :
    row ∈ db.identityClients.rows ∧ row.id = identityClientId := by
  obtain ⟨hmem, hid⟩ := Table.find_eq_some h
  exact ⟨hmem, of_decide_eq_true hid⟩

/-- An identity client is what a lookup by its id finds. -/
theorem client?_of_mem {row : IdentityClientRow} (hrow : row ∈ db.identityClients.rows) :
    client? db row.id = some row :=
  Table.find_eq_some_of_mem _ _
    (fun _ _ ha hb => Or.inl ((of_decide_eq_true ha).trans (of_decide_eq_true hb).symm)) hrow (decide_eq_true rfl)

/-- API keys with one id are one. -/
theorem apiKey_eq_of_id {a b : ApiKeyRow} (ha : a ∈ db.apiKeys.rows) (hb : b ∈ db.apiKeys.rows)
    (hid : a.id = b.id) : a = b :=
  db.apiKeys.eq_of_key (fun row => row.id = b.id)
    (fun _ _ ha hb => Or.inl ((of_decide_eq_true ha).trans (of_decide_eq_true hb).symm)) ha hb
    (decide_eq_true hid) (decide_eq_true rfl)

/-- Identity clients with one id are one. -/
theorem client_eq_of_id {a b : IdentityClientRow} (ha : a ∈ db.identityClients.rows)
    (hb : b ∈ db.identityClients.rows) (hid : a.id = b.id) : a = b :=
  Option.some.inj ((client?_of_mem ha).symm.trans (hid ▸ client?_of_mem hb))

/-- User sessions with one id are one. -/
theorem session_eq_of_id {a b : UserSessionRow} (ha : a ∈ db.userSessions.rows)
    (hb : b ∈ db.userSessions.rows) (hid : a.id = b.id) : a = b :=
  db.userSessions.eq_of_key (fun row => row.id = b.id)
    (fun _ _ ha hb => Or.inl ((of_decide_eq_true ha).trans (of_decide_eq_true hb).symm)) ha hb
    (decide_eq_true hid) (decide_eq_true rfl)

/-- Assigning the status of a tenant is seen by that tenant only. -/
theorem tenant?_assignTenantStatus (db : IdentityDatabase) (tenantId status : String) (now : Instant)
    (wanted : String) : tenant? (assignTenantStatus db tenantId status now) wanted =
      (tenant? db wanted).map fun row =>
        if tenantId = wanted then { row with status, updatedAt := now } else row := by
  have hfind := Table.find_update db.tenants (fun row => row.id = tenantId)
    (fun row => { row with status, updatedAt := now }) ⟨fun _ _ h => h, fun _ _ h => h⟩
    (fun row => row.id = wanted) fun _ => rfl
  refine hfind.trans (Option.map_congr fun row hrow => ?_)
  rw [← (tenant?_eq_some hrow).2]
  simp only [decide_eq_true_eq, @eq_comm String row.id]

/-- A new member is found after its insert. -/
theorem membership?_insert {row : MembershipRow} {memberships : Table MembershipRow MembershipRow.Conflict}
    (h : db.memberships.insert row = some memberships) (tenantId userId : String) :
    membership? { db with memberships } tenantId userId = (membership? db tenantId userId).or
      (if row.tenantId = tenantId ∧ row.userId = userId then some row else none) := by
  have hfind := Table.find_insert h (fun row => row.tenantId = tenantId ∧ row.userId = userId)
  simp only [decide_eq_true_eq] at hfind
  exact hfind

/-- Assigning the role of a member is seen by that member only. -/
theorem membership?_assignRole (db : IdentityDatabase) (tenantId userId role tenantId' userId' : String) :
    membership? (assignRole db tenantId userId role) tenantId' userId' =
      (membership? db tenantId' userId').map fun row =>
        if tenantId = tenantId' ∧ userId = userId' then { row with role } else row := by
  have hfind := Table.find_update db.memberships (fun row => row.tenantId = tenantId ∧ row.userId = userId)
    (fun row => { row with role }) ⟨fun _ _ h => h, fun _ _ h => h⟩
    (fun row => row.tenantId = tenantId' ∧ row.userId = userId') fun _ => rfl
  refine hfind.trans (Option.map_congr fun row hrow => ?_)
  obtain ⟨-, htenant, huser⟩ := membership?_eq_some hrow
  rw [← htenant, ← huser]
  simp only [decide_eq_true_eq, @eq_comm String row.tenantId, @eq_comm String row.userId]

/-- Assigning the status of a member is seen by that member only. -/
theorem membership?_assignMembershipStatus (db : IdentityDatabase)
    (tenantId userId status tenantId' userId' : String) :
    membership? (assignMembershipStatus db tenantId userId status) tenantId' userId' =
      (membership? db tenantId' userId').map fun row =>
        if tenantId = tenantId' ∧ userId = userId' then { row with status } else row := by
  have hfind := Table.find_update db.memberships (fun row => row.tenantId = tenantId ∧ row.userId = userId)
    (fun row => { row with status }) ⟨fun _ _ h => h, fun _ _ h => h⟩
    (fun row => row.tenantId = tenantId' ∧ row.userId = userId') fun _ => rfl
  refine hfind.trans (Option.map_congr fun row hrow => ?_)
  obtain ⟨-, htenant, huser⟩ := membership?_eq_some hrow
  rw [← htenant, ← huser]
  simp only [decide_eq_true_eq, @eq_comm String row.tenantId, @eq_comm String row.userId]

/-- `create_tenant` inserts an active tenant. -/
theorem createTenant_eq_ok {tenantId slug name actor : String} {days : ℤ} {row : TenantRow}
    (h : createTenant db draw tenantId slug name days actor = .ok (db', row)) :
    ∃ tenants, db.tenants.insert row = some tenants ∧
      row = ⟨tenantId, slug, strip name, "active", days.toNat, draw.now, draw.now⟩ ∧
      db' = audit { db with tenants } tenantId actor "tenant.created" "tenant" (some tenantId)
        [("slug", .str slug), ("retention_days", .int days)] draw.now none "success" := by
  simp only [createTenant, validateIdentifier, normalizeClientName, bind_eq_ok, require_eq_ok, found_eq_ok,
    pure, Except.pure, Except.ok.injEq, Prod.mk.injEq] at h
  obtain ⟨_, _, _, _, _, ⟨_, _, rfl⟩, _, _, tenants, hinsert, rfl, rfl⟩ := h
  exact ⟨tenants, hinsert, rfl, rfl⟩

/-- `set_tenant_status` assigns the status of an existing tenant. -/
theorem setTenantStatus_eq_ok {tenantId status actor : String} {row : TenantRow}
    (h : setTenantStatus db draw tenantId status actor = .ok (db', row)) :
    ∃ old, tenant? db tenantId = some old ∧ status ∈ tenantStatuses ∧
      db' = audit (assignTenantStatus db tenantId status draw.now) tenantId actor "tenant.status_changed"
        "tenant" (some tenantId) [("from", .str old.status), ("to", .str status)] draw.now none "success" := by
  simp only [setTenantStatus, bind_eq_ok, require_eq_ok, found_eq_ok, pure, Except.pure, Except.ok.injEq,
    Prod.mk.injEq] at h
  obtain ⟨_, hstatus, old, hold, rfl, -⟩ := h
  exact ⟨old, hold, hstatus, rfl⟩

/-- The first transaction of `upsert_user` writes users only. -/
theorem writeProfile_eq_some {row : Option UserRow} {issuer subject : String} {email displayName : Option String}
    {user : UserRow} (h : writeProfile db draw row issuer subject email displayName = some (db', user)) :
    ∃ users, db' = { db with users } := by
  unfold writeProfile at h
  split at h
  · rw [Option.some.injEq, Prod.mk.injEq] at h
    exact ⟨_, h.1.symm⟩
  · simp only [Option.map_eq_some_iff, Prod.mk.injEq] at h
    obtain ⟨users, -, rfl, -⟩ := h
    exact ⟨users, rfl⟩

/-- `upsert_user` writes users only. -/
theorem upsertUser_eq_ok {issuer subject : String} {email displayName : Option String} {user : UserRow}
    (h : upsertUser db draw issuer subject email displayName = .ok (db', user)) :
    ∃ users, db' = { db with users } := by
  simp only [upsertUser, bind_eq_ok] at h
  obtain ⟨⟨issuer', subject'⟩, -, h⟩ := h
  split at h
  · next hwrite =>
    simp only [pure, Except.pure, Except.ok.injEq, Prod.mk.injEq] at h
    obtain ⟨rfl, rfl⟩ := h
    exact writeProfile_eq_some hwrite
  · simp only [recoverProfile, bind_eq_ok, found_eq_ok, pure, Except.pure, Except.ok.injEq, Prod.mk.injEq] at h
    obtain ⟨_, -, rfl, -⟩ := h
    exact ⟨_, rfl⟩

/-- `set_membership` assigns a role, or inserts an active membership with it. -/
theorem setMembership_eq_ok {tenantId userId role actor : String} {row : MembershipRow}
    (h : setMembership db draw tenantId userId role actor = .ok (db', row)) :
    role ∈ roles ∧ ∃ memberships,
      ((∃ old, membership? db tenantId userId = some old ∧
          { db with memberships } = assignRole db tenantId userId role) ∨
        membership? db tenantId userId = none ∧
          db.memberships.insert ⟨tenantId, userId, role, "active", draw.now⟩ = some memberships) ∧
      db' = audit { db with memberships } tenantId actor "membership.set" "membership" (some userId)
        [("role", .str role)] draw.now none "success" := by
  simp only [setMembership, validateRole, bind_eq_ok, require_eq_ok, found_eq_ok, pure, Except.pure,
    Except.ok.injEq, Prod.mk.injEq] at h
  obtain ⟨_, hrole, _, _, _, _, ⟨db₁, row₁⟩, hwrite, rfl, rfl⟩ := h
  unfold writeMembership at hwrite
  split at hwrite
  · next old hold =>
    rw [Except.ok.injEq, Prod.mk.injEq] at hwrite
    obtain ⟨rfl, rfl⟩ := hwrite
    exact ⟨hrole, _, Or.inl ⟨old, hold, rfl⟩, rfl⟩
  · next hnone =>
    simp only [bind_eq_ok, found_eq_ok, pure, Except.pure, Except.ok.injEq, Prod.mk.injEq] at hwrite
    obtain ⟨memberships, hinsert, rfl, rfl⟩ := hwrite
    exact ⟨hrole, memberships, Or.inr ⟨hnone, hinsert⟩, rfl⟩

/-- `set_membership_status` assigns the status of an existing membership. -/
theorem setMembershipStatus_eq_ok {tenantId userId status actor : String} {row : MembershipRow}
    (h : setMembershipStatus db draw tenantId userId status actor = .ok (db', row)) :
    ∃ old, membership? db tenantId userId = some old ∧ status ∈ membershipStatuses ∧
      db' = audit (assignMembershipStatus db tenantId userId status) tenantId actor
        "membership.status_changed" "membership" (some userId)
        [("from", .str old.status), ("to", .str status)] draw.now none "success" := by
  simp only [setMembershipStatus, bind_eq_ok, require_eq_ok, found_eq_ok, pure, Except.pure, Except.ok.injEq,
    Prod.mk.injEq] at h
  obtain ⟨_, hstatus, old, hold, rfl, -⟩ := h
  exact ⟨old, hold, hstatus, rfl⟩

/-- `record_auth_event` writes an audit event at most. -/
theorem recordAuthEvent_eq_ok {tenantId actor action outcome : String} {requestId : Option String}
    {details : List (String × Document)} {answer : Bool}
    (h : recordAuthEvent db draw tenantId actor action outcome requestId details = .ok (db', answer)) :
    (answer = false ∧ db' = db) ∨
      (answer = true ∧ (tenant? db tenantId).isSome ∧
        db' = audit db tenantId (slice 255 actor) action "authentication" none details draw.now requestId
          outcome) := by
  simp only [recordAuthEvent, bind_eq_ok, require_eq_ok] at h
  obtain ⟨_, _, h⟩ := h
  split at h
  · simp only [pure, Except.pure, Except.ok.injEq, Prod.mk.injEq] at h
    exact Or.inl ⟨h.2.symm, h.1.symm⟩
  · next htenant =>
    simp only [pure, Except.pure, Except.ok.injEq, Prod.mk.injEq] at h
    exact Or.inr ⟨h.2.symm, by simp [htenant], h.1.symm⟩

/-- What `issue_api_key` stores for the key that it hands out. -/
def storedApiKey (lib : SecretLibrary) (draw : IdentityDraw) (issued : IssuedApiKey) : ApiKeyRow :=
  ⟨⟨issued.id, keyPrefix "igw_" draw.hex, issued.role, issued.scopes, draw.now, none⟩, issued.tenantId,
    hashSecret lib draw.salt draw.urlsafe.text, issued.expiresAt⟩

/-- `issue_api_key` inserts a key with a valid role. -/
theorem issueApiKey_eq_ok {tenantId role actor : String} {scopes : List String} {expiresAt : Option Timestamp}
    {issued : IssuedApiKey}
    (h : issueApiKey lib db draw tenantId role scopes expiresAt actor = .ok (db', issued)) :
    ∃ apiKeys, db.apiKeys.insert (storedApiKey lib draw issued) = some apiKeys ∧
      issued.token = joinToken (keyPrefix "igw_" draw.hex) draw.urlsafe.text ∧
      issued.id = "key_" ++ draw.uuid ∧ issued.tenantId = tenantId ∧ issued.role = role ∧ role ∈ roles ∧
      normalizeScopes scopes = .ok issued.scopes ∧ normalizeExpiry expiresAt = .ok issued.expiresAt ∧
      db' = audit { db with apiKeys } tenantId actor "api_key.issued" "api_key" (some issued.id)
        [("prefix", .str (keyPrefix "igw_" draw.hex)), ("role", .str role),
          ("scopes", .arr (issued.scopes.map .str))] draw.now none "success" := by
  simp only [issueApiKey, validateRole, bind_eq_ok, require_eq_ok, found_eq_ok, pure, Except.pure,
    Except.ok.injEq, Prod.mk.injEq] at h
  obtain ⟨_, hrole, scopes', hscopes, expiry, hexpiry, _, _, _, _, _, _, apiKeys, hinsert, rfl, rfl⟩ := h
  exact ⟨apiKeys, hinsert, rfl, rfl, rfl, rfl, hrole, hscopes, hexpiry, rfl⟩

/-- `revoke_api_key` finds no such key, or finds it revoked, or revokes it. -/
theorem revokeApiKey_cases (db : IdentityDatabase) (draw : IdentityDraw) (tenantId apiKeyId actor : String) :
    (revokeApiKey db draw tenantId apiKeyId actor = (db, false) ∧
      ∀ row ∈ db.apiKeys.rows, row.tenantId = tenantId → row.id ≠ apiKeyId) ∨
    ∃ row ∈ db.apiKeys.rows, row.tenantId = tenantId ∧ row.id = apiKeyId ∧
      ((row.revokedAt ≠ none ∧ revokeApiKey db draw tenantId apiKeyId actor = (db, true)) ∨
        (row.revokedAt = none ∧ revokeApiKey db draw tenantId apiKeyId actor =
          (audit (stampApiKey db apiKeyId draw.now) tenantId actor "api_key.revoked" "api_key" (some apiKeyId)
            [("prefix", .str row.keyPrefix)] draw.now none "success", true))) := by
  unfold revokeApiKey
  split
  · next hnone =>
    refine Or.inl ⟨rfl, fun row hrow htenant hid => ?_⟩
    have hmissed := (Table.find_eq_none_iff _ _).mp hnone row hrow
    simp [htenant, hid] at hmissed
  · next row hsome =>
    obtain ⟨hrow, hwanted⟩ := Table.find_eq_some hsome
    rw [decide_eq_true_eq] at hwanted
    refine Or.inr ⟨row, hrow, hwanted.1, hwanted.2, ?_⟩
    split
    · next hrevoked => exact Or.inr ⟨hrevoked, rfl⟩
    · next hrevoked => exact Or.inl ⟨hrevoked, rfl⟩

/-- An allow-list holds the stripped issuers, none of them blank. -/
theorem normalizeIssuers_eq_ok {issuers clean : List String} (h : normalizeIssuers issuers = .ok clean) :
    clean = (issuers.map strip).eraseDups ∧ "" ∉ clean := by
  simp only [normalizeIssuers, bind_eq_ok, require_eq_ok, pure, Except.pure, Except.ok.injEq] at h
  obtain ⟨_, htexts, _, _, _, _, rfl⟩ := h
  refine ⟨rfl, fun hblank => ?_⟩
  exact (htexts "" (List.mem_eraseDups.mp hblank)).1 rfl

/-- A new identity client is stored under a fresh prefix. -/
theorem addIdentityClient_eq_ok {name : String} {issuers : List String} {rotatedFromId : Option String}
    {issued : IssuedIdentityClient}
    (h : addIdentityClient lib db draw name issuers rotatedFromId = .ok (db', issued)) :
    ∃ identityClients,
      db.identityClients.insert (newIdentityClient lib draw name issuers rotatedFromId).1 =
        some identityClients ∧
      issued = ⟨(newIdentityClient lib draw name issuers rotatedFromId).1.toIdentityClientRecord,
        joinToken (keyPrefix "igb_" draw.hex) draw.urlsafe.text⟩ ∧
      db' = { db with identityClients } := by
  simp only [addIdentityClient, bind_eq_ok, found_eq_ok, pure, Except.pure, Except.ok.injEq,
    Prod.mk.injEq] at h
  obtain ⟨identityClients, hinsert, rfl, rfl⟩ := h
  exact ⟨identityClients, hinsert, rfl, rfl⟩

/-- `issue_identity_client` adds a client with the given issuers. -/
theorem issueIdentityClient_eq_ok {name : String} {issuers : List String} {issued : IssuedIdentityClient}
    (h : issueIdentityClient lib db draw name issuers = .ok (db', issued)) :
    ∃ clean, normalizeIssuers issuers = .ok clean ∧
      addIdentityClient lib db draw (strip name) clean none = .ok (db', issued) := by
  simp only [issueIdentityClient, normalizeClientName, bind_eq_ok, require_eq_ok, pure, Except.pure,
    Except.ok.injEq] at h
  obtain ⟨_, ⟨_, _, rfl⟩, clean, hclean, hadd⟩ := h
  exact ⟨clean, hclean, hadd⟩

/-- `rotate_identity_client` adds a client with name and issuers of one that is not revoked. -/
theorem rotateIdentityClient_eq_ok {identityClientId : String} {issued : IssuedIdentityClient}
    (h : rotateIdentityClient lib db draw identityClientId = .ok (db', issued)) :
    ∃ previous, client? db identityClientId = some previous ∧ previous.active = true ∧
      previous.revokedAt = none ∧
      addIdentityClient lib db draw previous.name previous.allowedIssuers (some previous.id) =
        .ok (db', issued) := by
  simp only [rotateIdentityClient, bind_eq_ok, require_eq_ok, found_eq_ok] at h
  obtain ⟨previous, hprevious, _, ⟨hactive, hrevoked⟩, hadd⟩ := h
  exact ⟨previous, hprevious, hactive, hrevoked, hadd⟩

/-- `authenticate_identity_client` stamps a client at most. -/
theorem authenticateIdentityClient_cases (lib : SecretLibrary) (db : IdentityDatabase) (now : Instant)
    (token : String) (issuer : Option String) :
    (acceptedClient lib db token issuer = none ∧
      authenticateIdentityClient lib db now token issuer = (db, none)) ∨
    ∃ row, acceptedClient lib db token issuer = some row ∧
      authenticateIdentityClient lib db now token issuer = (touchClient db row.id now,
        some { identityClientId := row.id, name := row.name, allowedIssuers := row.allowedIssuers }) := by
  unfold authenticateIdentityClient
  split
  · next hnone => exact Or.inl ⟨hnone, rfl⟩
  · next row hrow => exact Or.inr ⟨row, hrow, rfl⟩

/-- `revoke_identity_client` finds no such client, or finds it revoked, or revokes it. -/
theorem revokeIdentityClient_cases (db : IdentityDatabase) (draw : IdentityDraw) (identityClientId : String) :
    (client? db identityClientId = none ∧ revokeIdentityClient db draw identityClientId = (db, false)) ∨
    ∃ row, client? db identityClientId = some row ∧
      ((row.revokedAt ≠ none ∧ revokeIdentityClient db draw identityClientId = (db, true)) ∨
        (row.revokedAt = none ∧ revokeIdentityClient db draw identityClientId =
          (stampClient db identityClientId draw.now, true))) := by
  unfold revokeIdentityClient
  split
  · next hnone => exact Or.inl ⟨hnone, rfl⟩
  · next row hrow =>
    refine Or.inr ⟨row, hrow, ?_⟩
    split
    · next hrevoked => exact Or.inr ⟨hrevoked, rfl⟩
    · next hrevoked => exact Or.inl ⟨hrevoked, rfl⟩

/-- What `issue_user_session` stores for the session that it hands out. -/
def storedSession (lib : SecretLibrary) (draw : IdentityDraw) (issued : IssuedUserSession) : UserSessionRow :=
  ⟨issued.id, hashSessionToken lib issued.token, issued.userId, issued.tenantId, issued.identityClientId,
    draw.now, issued.expiresAt, none, none⟩

/-- `issue_user_session` inserts a session of an active membership under an active client. -/
theorem issueUserSession_eq_ok {identityClientId tenantId userId actor : String} {ttlSeconds : ℤ}
    {requestId : Option String} {issued : IssuedUserSession}
    (h : issueUserSession lib db draw identityClientId tenantId userId ttlSeconds actor requestId =
      .ok (db', issued)) :
    (∃ client, client? db identityClientId = some client ∧ client.active = true ∧ client.revokedAt = none) ∧
    (∃ user, user? db userId = some user) ∧
    1 ≤ ttlSeconds ∧ ttlSeconds ≤ maxSessionTtlSeconds ∧
    issued = ⟨"ses_" ++ draw.uuid, tenantId, userId, identityClientId,
      draw.now + ttlSeconds * PyTime.second, sessionToken draw.urlsafe⟩ ∧
    ∃ userSessions, db.userSessions.insert (storedSession lib draw issued) = some userSessions ∧
      db' = audit { db with userSessions } tenantId actor "user_session.issued" "user_session" (some issued.id)
        [("user_id", .str userId), ("identity_client_id", .str identityClientId),
          ("expires_at", .str (PyTime.isoformat issued.expiresAt))] draw.now requestId "success" := by
  simp only [issueUserSession, normalizeSessionTtl, bind_eq_ok, require_eq_ok, found_eq_ok, pure, Except.pure,
    Except.ok.injEq, Prod.mk.injEq] at h
  obtain ⟨_, ⟨_, httl, rfl⟩, _, ⟨client, hclient, hactive⟩, _, _, _, _, user, huser, _, _, _, _,
    userSessions, hinsert, rfl, rfl⟩ := h
  exact ⟨⟨client, hclient, hactive⟩, ⟨user, huser⟩, httl.1, httl.2, rfl, userSessions, hinsert, rfl⟩

/-- `authenticate_user_session` stamps the session that it accepts. -/
theorem authenticateUserSession_cases (lib : SecretLibrary) (db : IdentityDatabase) (now : Instant)
    (token : String) :
    authenticateUserSession lib db now token = (db, none) ∨
    ∃ principal, authenticateUserSession lib db now token =
      (touchSession db principal.sessionId now, some principal) := by
  unfold authenticateUserSession
  split
  · exact Or.inl rfl
  · next principal _ => exact Or.inr ⟨principal, rfl⟩

/-- What `authenticate_user_session` answers. -/
theorem authenticateUserSession_snd (lib : SecretLibrary) (db : IdentityDatabase) (now : Instant)
    (token : String) : (authenticateUserSession lib db now token).2 =
      (sessionOf lib db token).bind (sessionPrincipal db now) := by
  unfold authenticateUserSession
  split
  · next hnone => exact hnone.symm
  · next hsome => exact hsome.symm

/-- `revoke_user_session` finds no such session, or finds it revoked, or revokes it. -/
theorem revokeUserSession_cases (db : IdentityDatabase) (draw : IdentityDraw) (tenantId sessionId actor : String)
    (requestId : Option String) :
    (revokeUserSession db draw tenantId sessionId actor requestId = (db, false) ∧
      ∀ row ∈ db.userSessions.rows, row.tenantId = tenantId → row.id ≠ sessionId) ∨
    ∃ row ∈ db.userSessions.rows, row.tenantId = tenantId ∧ row.id = sessionId ∧
      ((row.revokedAt ≠ none ∧ revokeUserSession db draw tenantId sessionId actor requestId = (db, true)) ∨
        (row.revokedAt = none ∧ revokeUserSession db draw tenantId sessionId actor requestId =
          (audit (stampSession db sessionId draw.now) tenantId actor "user_session.revoked" "user_session"
            (some sessionId) [("user_id", .str row.userId)] draw.now requestId "success", true))) := by
  unfold revokeUserSession
  split
  · next hnone =>
    refine Or.inl ⟨rfl, fun row hrow htenant hid => ?_⟩
    have hmissed := (Table.find_eq_none_iff _ _).mp hnone row hrow
    simp [htenant, hid] at hmissed
  · next row hsome =>
    obtain ⟨hrow, hwanted⟩ := Table.find_eq_some hsome
    rw [decide_eq_true_eq] at hwanted
    refine Or.inr ⟨row, hrow, hwanted.1, hwanted.2, ?_⟩
    split
    · next hrevoked => exact Or.inr ⟨hrevoked, rfl⟩
    · next hrevoked => exact Or.inl ⟨hrevoked, rfl⟩

/-- `cleanup_expired_user_sessions` deletes the sessions that expire by the cutoff. -/
theorem cleanupExpiredUserSessions_eq_ok {before : Option Timestamp} {count : ℕ}
    (h : cleanupExpiredUserSessions db draw before = .ok (db', count)) :
    ∃ cutoff, cleanupCutoff draw before = .ok cutoff ∧
      db' = { db with userSessions := db.userSessions.delete fun row => row.expiresAt ≤ cutoff } := by
  simp only [cleanupExpiredUserSessions, bind_eq_ok, pure, Except.pure, Except.ok.injEq, Prod.mk.injEq] at h
  obtain ⟨cutoff, hcutoff, rfl, -⟩ := h
  exact ⟨cutoff, hcutoff, rfl⟩

/-- When a session that was found is accepted. -/
theorem sessionPrincipal_eq_some {now : Instant} {row : UserSessionRow} {p : UserSessionPrincipal} :
    sessionPrincipal db now row = some p ↔
      row.revokedAt = none ∧ now < row.expiresAt ∧
      (∃ client, client? db row.identityClientId = some client ∧ client.active = true ∧ client.revokedAt = none) ∧
      (∃ tenant, tenant? db row.tenantId = some tenant ∧ tenant.status = "active") ∧
      p.role ∈ roles ∧
      (∃ membership, membership? db row.tenantId row.userId = some membership ∧ membership.role = p.role ∧
        membership.status = "active") ∧
      p = ⟨row.tenantId, row.userId, p.role, row.id, row.identityClientId⟩ := by
  simp only [sessionPrincipal, Option.bind_eq_bind, Option.bind_eq_some_iff, Option.guard_eq_some',
    Option.pure_def, Option.some.injEq]
  constructor
  · rintro ⟨_, ⟨hlive, hnow⟩, client, hclient, _, ⟨hactive, hrevoked⟩, tenant, htenant, _, hstatus, membership,
      hmembership, _, ⟨hmember, hrole⟩, rfl⟩
    exact ⟨hlive, hnow, ⟨client, hclient, hactive, hrevoked⟩, ⟨tenant, htenant, hstatus⟩, hrole,
      ⟨membership, hmembership, rfl, hmember⟩, rfl⟩
  · rintro ⟨hlive, hnow, ⟨client, hclient, hactive, hrevoked⟩, ⟨tenant, htenant, hstatus⟩, hrole,
      ⟨membership, hmembership, hrole', hmember⟩, hp⟩
    exact ⟨(), ⟨hlive, hnow⟩, client, hclient, (), ⟨hactive, hrevoked⟩, tenant, htenant, (), hstatus, membership,
      hmembership, (), ⟨hmember, hrole' ▸ hrole⟩, hrole' ▸ hp.symm⟩

/-- The session that a token belongs to is found by its hash. -/
theorem sessionOf_eq_some {token : String} {row : UserSessionRow} :
    sessionOf lib db token = some row ↔
      isSessionToken token = true ∧ row ∈ db.userSessions.rows ∧ row.tokenHash = hashSessionToken lib token := by
  simp only [sessionOf, Option.bind_eq_bind, Option.bind_eq_some_iff, Option.guard_eq_some']
  constructor
  · rintro ⟨_, htoken, hfind⟩
    obtain ⟨hmem, hhash⟩ := Table.find_eq_some hfind
    exact ⟨htoken, hmem, of_decide_eq_true hhash⟩
  · rintro ⟨htoken, hmem, hhash⟩
    exact ⟨(), htoken, Table.find_eq_some_of_mem _ _
      (fun _ _ ha hb => Or.inr ((of_decide_eq_true ha).trans (of_decide_eq_true hb).symm)) hmem
      (decide_eq_true hhash)⟩

/-- When an API key that was found is accepted. -/
theorem apiKeyPrincipal_eq_some {now : Instant} {row : ApiKeyRow} {p : ApiKeyPrincipal} :
    apiKeyPrincipal db now row = some p ↔
      (∃ tenant, tenant? db row.tenantId = some tenant ∧ tenant.status = "active") ∧ row.revokedAt = none ∧
      (∀ expiry ∈ row.expiresAt, now < expiry) ∧ row.role ∈ roles ∧
      p = ⟨row.tenantId, row.role, row.scopes, row.id⟩ := by
  simp only [apiKeyPrincipal, Option.bind_eq_bind, Option.bind_eq_some_iff, Option.guard_eq_some',
    Option.pure_def, Option.some.injEq]
  constructor
  · rintro ⟨tenant, htenant, _, ⟨hstatus, hlive⟩, _, hexpiry, _, hrole, rfl⟩
    exact ⟨⟨tenant, htenant, hstatus⟩, hlive, hexpiry, hrole, rfl⟩
  · rintro ⟨⟨tenant, htenant, hstatus⟩, hlive, hexpiry, hrole, hp⟩
    exact ⟨tenant, htenant, (), ⟨hstatus, hlive⟩, (), hexpiry, (), hrole, hp.symm⟩

/-- An API key is found by its prefix and verified by its secret. -/
theorem authenticateApiKey_eq_some {now : Instant} {token : String} {p : ApiKeyPrincipal} :
    authenticateApiKey lib db now token = some p ↔
      ∃ first secret row, parseApiKey token = some (first, secret) ∧ row ∈ db.apiKeys.rows ∧
        row.keyPrefix = first ∧ verifySecret lib secret row.secretHash = true ∧
        apiKeyPrincipal db now row = some p := by
  simp only [authenticateApiKey, Option.bind_eq_bind, Option.bind_eq_some_iff, Option.guard_eq_some',
    Prod.exists]
  constructor
  · rintro ⟨first, secret, hparse, row, hfind, _, hverify, hprincipal⟩
    obtain ⟨hmem, hprefix⟩ := Table.find_eq_some hfind
    exact ⟨first, secret, row, hparse, hmem, of_decide_eq_true hprefix, hverify, hprincipal⟩
  · rintro ⟨first, secret, row, hparse, hmem, hprefix, hverify, hprincipal⟩
    exact ⟨first, secret, hparse, row, Table.find_eq_some_of_mem _ _
      (fun _ _ ha hb => Or.inr ((of_decide_eq_true ha).trans (of_decide_eq_true hb).symm)) hmem
      (decide_eq_true hprefix), (), hverify, hprincipal⟩

/-- An identity client is found by its prefix, verified by its secret and must allow the issuer. -/
theorem acceptedClient_eq_some {token : String} {issuer : Option String} {row : IdentityClientRow} :
    acceptedClient lib db token issuer = some row ↔
      ∃ first secret, parseIdentityClientKey token = some (first, secret) ∧
        (∀ text ∈ issuer, strip text ≠ "") ∧ row ∈ db.identityClients.rows ∧ row.keyPrefix = first ∧
        verifySecret lib secret row.secretHash = true ∧ row.active = true ∧ row.revokedAt = none ∧
        ∀ text ∈ issuer, strip text ∈ row.allowedIssuers := by
  simp only [acceptedClient, Option.bind_eq_bind, Option.bind_eq_some_iff, Option.guard_eq_some',
    Option.pure_def, Option.some.injEq, Prod.exists]
  constructor
  · rintro ⟨first, secret, hparse, _, hblank, row', hfind, _, hverify, _, ⟨hactive, hlive, hallowed⟩, rfl⟩
    obtain ⟨hmem, hprefix⟩ := Table.find_eq_some hfind
    exact ⟨first, secret, hparse, hblank, hmem, of_decide_eq_true hprefix, hverify, hactive, hlive, hallowed⟩
  · rintro ⟨first, secret, hparse, hblank, hmem, hprefix, hverify, hactive, hlive, hallowed⟩
    exact ⟨first, secret, hparse, (), hblank, row, Table.find_eq_some_of_mem _ _
      (fun _ _ ha hb => Or.inr ((of_decide_eq_true ha).trans (of_decide_eq_true hb).symm)) hmem
      (decide_eq_true hprefix), (), hverify, (), ⟨hactive, hlive, hallowed⟩, rfl⟩

/-- What `authenticate_identity_client` answers. -/
theorem authenticateIdentityClient_snd {now : Instant} {token : String} {issuer : Option String} :
    (authenticateIdentityClient lib db now token issuer).2 = (acceptedClient lib db token issuer).map fun row =>
      { identityClientId := row.id, name := row.name, allowedIssuers := row.allowedIssuers } := by
  obtain ⟨hnone, heq⟩ | ⟨row, hrow, heq⟩ := authenticateIdentityClient_cases lib db now token issuer
  · rw [heq, hnone]
    rfl
  · rw [heq, hrow]
    rfl

end Identity

end SharedIntegration

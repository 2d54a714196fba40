import SharedIntegration.IdentityCalls
import SharedIntegration.Library.Ledger

/-!
# The identity tables as a summary of their history

The status of a tenant and the standing of a member are registers of the history; API keys,
identity clients and user sessions are ledgers of it, whose marks are revocations. After every
sequence of calls the tables hold exactly what these say.
-/

namespace SharedIntegration

open Relational PyString

namespace Identity

namespace Entry

/-- The status that the entry gives to a tenant. -/
def tenantStatus (tenantId : String) (entry : Entry) : Option String :=
  match entry.call, entry.outcome with
  | .createTenant id .., .ok _ => if id = tenantId then some "active" else none
  | .setTenantStatus id status _, .ok _ => if id = tenantId then some status else none
  | _, _ => none

/-- The role that the entry gives to a member. -/
def membershipRole (tenantId userId : String) (entry : Entry) : Option String :=
  match entry.call, entry.outcome with
  | .setMembership tenant user role _, .ok _ => if tenant = tenantId ∧ user = userId then some role else none
  | _, _ => none

/-- The status that the entry gives to a member. -/
def membershipStatus (tenantId userId : String) (entry : Entry) : Option String :=
  match entry.call, entry.outcome with
  | .setMembershipStatus tenant user status _, .ok _ =>
    if tenant = tenantId ∧ user = userId then some status else none
  | _, _ => none

/-- The API key that the entry issues. -/
def apiKey? (entry : Entry) : Option (IdentityDraw × IssuedApiKey) :=
  match entry.call, entry.outcome with
  | .issueApiKey .., .ok (.apiKeyIssued issued) => some (entry.draw, issued)
  | _, _ => none

/-- The entry revokes the API key. -/
def revokesApiKey (entry : Entry) (issued : IssuedApiKey) : Bool :=
  match entry.call, entry.outcome with
  | .revokeApiKey tenantId apiKeyId _, .ok (.flag true) => tenantId = issued.tenantId && apiKeyId = issued.id
  | _, _ => false

/-- The identity client that the entry issues. -/
def client? (entry : Entry) : Option (IdentityDraw × IssuedIdentityClient) :=
  match entry.call, entry.outcome with
  | .issueIdentityClient .., .ok (.clientIssued issued) => some (entry.draw, issued)
  | .rotateIdentityClient _, .ok (.clientIssued issued) => some (entry.draw, issued)
  | _, _ => none

/-- The entry revokes the identity client. -/
def revokesClient (entry : Entry) (identityClientId : String) : Bool :=
  match entry.call, entry.outcome with
  | .revokeIdentityClient id, .ok (.flag true) => id = identityClientId
  | _, _ => false

/-- The user session that the entry issues. -/
def session? (entry : Entry) : Option (IdentityDraw × IssuedUserSession) :=
  match entry.call, entry.outcome with
  | .issueUserSession .., .ok (.sessionIssued issued) => some (entry.draw, issued)
  | _, _ => none

/-- The entry revokes the user session. -/
def revokesSession (entry : Entry) (issued : IssuedUserSession) : Bool :=
  match entry.call, entry.outcome with
  | .revokeUserSession tenantId sessionId _ _, .ok (.flag true) =>
    tenantId = issued.tenantId && sessionId = issued.id
  | _, _ => false

/-- The entry deletes the user session. -/
def deletesSession (entry : Entry) (issued : IssuedUserSession) : Bool :=
  match entry.call, entry.outcome with
  | .cleanupExpiredUserSessions before, .ok _ =>
    (cleanupCutoff entry.draw before).toOption.any fun cutoff => issued.expiresAt ≤ cutoff
  | _, _ => false

end Entry

/-- The API keys of a history. -/
def apiKeyLedger : Ledger Entry (IdentityDraw × IssuedApiKey) where
  issues := Entry.apiKey?
  marks entry item := entry.revokesApiKey item.2
  drops _ _ := false

/-- The identity clients of a history. -/
def clientLedger : Ledger Entry (IdentityDraw × IssuedIdentityClient) where
  issues := Entry.client?
  marks entry item := entry.revokesClient item.2.record.id
  drops _ _ := false

/-- The user sessions of a history. -/
def sessionLedger : Ledger Entry (IdentityDraw × IssuedUserSession) where
  issues := Entry.session?
  marks entry item := entry.revokesSession item.2
  drops entry item := entry.deletesSession item.2

/-- Role and status of a member: a membership is active until its status is set. -/
def standing (tenantId userId : String) (history : List Entry) : Option (String × String) :=
  (latest (Entry.membershipRole tenantId userId) history).map fun role =>
    (role, (latest (Entry.membershipStatus tenantId userId) history).getD "active")

/-- What `issue_identity_client` and `rotate_identity_client` store for the client they hand out. -/
def storedClient (lib : SecretLibrary) (draw : IdentityDraw) (issued : IssuedIdentityClient) :
    IdentityClientRow :=
  ⟨issued.record, hashSecret lib draw.salt draw.urlsafe.text⟩

/-- A stored API key as it was issued, and whether it has been revoked. -/
def enteredApiKey (row : ApiKeyRow) : ApiKeyRow × Bool :=
  ({ row with revokedAt := none }, row.revokedAt.isSome)

/-- A stored identity client as it was issued, and whether it has been revoked. -/
def enteredClient (row : IdentityClientRow) : IdentityClientRow × Bool :=
  ({ row with active := true, updatedAt := row.createdAt, lastUsedAt := none, revokedAt := none },
    row.revokedAt.isSome)

/-- A stored user session as it was issued, and whether it has been revoked. -/
def enteredSession (row : UserSessionRow) : UserSessionRow × Bool :=
  ({ row with lastSeenAt := none, revokedAt := none }, row.revokedAt.isSome)

/-- A client is active as long as it is not revoked, and allows no blank issuer. -/
def SoundClient (row : IdentityClientRow) : Prop :=
  row.active = row.revokedAt.isNone ∧ "" ∉ row.allowedIssuers

/-- The database holds what the history says. -/
structure Summary (lib : SecretLibrary) (history : List Entry) (db : IdentityDatabase) : Prop where
  tenants : ∀ tenantId,
    (tenant? db tenantId).map TenantRow.status = latest (Entry.tenantStatus tenantId) history
  roles : ∀ tenantId userId, (membership? db tenantId userId).map MembershipRow.role =
    latest (Entry.membershipRole tenantId userId) history
  statuses : ∀ tenantId userId, ∀ row ∈ membership? db tenantId userId,
    row.status = (latest (Entry.membershipStatus tenantId userId) history).getD "active"
  unset : ∀ tenantId userId, membership? db tenantId userId = none →
    latest (Entry.membershipStatus tenantId userId) history = none
  apiKeys : db.apiKeys.rows.map enteredApiKey =
    (apiKeyLedger.entries history).map (Ledger.image fun item => storedApiKey lib item.1 item.2)
  clients : db.identityClients.rows.map enteredClient =
    (clientLedger.entries history).map (Ledger.image fun item => storedClient lib item.1 item.2)
  sound : ∀ row ∈ db.identityClients.rows, SoundClient row
  sessions : db.userSessions.rows.map enteredSession =
    (sessionLedger.entries history).map (Ledger.image fun item => storedSession lib item.1 item.2)

variable {lib : SecretLibrary} {db db' : IdentityDatabase} {draw : IdentityDraw} {call : IdentityCall}
  {result : IdentityResult}

/-- Only calls that write tenants give them a status. -/
theorem tenantStatus_of_part {outcome : Except IdentityError IdentityResult}
    (hpart : part call ≠ some .tenants) (tenantId : String) :
    Entry.tenantStatus tenantId ⟨draw, call, outcome⟩ = none := by
  cases call <;> first | rfl | exact absurd rfl hpart

/-- Only calls that write memberships give a role. -/
theorem membershipRole_of_part {outcome : Except IdentityError IdentityResult}
    (hpart : part call ≠ some .memberships) (tenantId userId : String) :
    Entry.membershipRole tenantId userId ⟨draw, call, outcome⟩ = none := by
  cases call <;> first | rfl | exact absurd rfl hpart

/-- Only calls that write memberships give them a status. -/
theorem membershipStatus_of_part {outcome : Except IdentityError IdentityResult}
    (hpart : part call ≠ some .memberships) (tenantId userId : String) :
    Entry.membershipStatus tenantId userId ⟨draw, call, outcome⟩ = none := by
  cases call <;> first | rfl | exact absurd rfl hpart

/-- A call changes the status of a tenant as its entry says. -/
theorem tenants_step (h : perform lib db draw call = .ok (db', result)) (tenantId : String) :
    (tenant? db' tenantId).map TenantRow.status =
      (Entry.tenantStatus tenantId ⟨draw, call, .ok result⟩).or
        ((tenant? db tenantId).map TenantRow.status) := by
  by_cases hpart : part call = some .tenants
  · cases call with
    | createTenant id slug name days actor =>
      obtain ⟨_, hop, rfl⟩ := answer_eq_ok.mp h
      obtain ⟨tenants, hinsert, rfl, rfl⟩ := createTenant_eq_ok hop
      have hfind := Table.find_insert hinsert (fun row => row.id = tenantId)
      change (tenants.find fun row => row.id = tenantId).map TenantRow.status =
        (if id = tenantId then some "active" else none).or
          ((db.tenants.find fun row => row.id = tenantId).map TenantRow.status)
      rw [hfind]
      by_cases hid : id = tenantId
      · have hnone : (db.tenants.find fun row => row.id = tenantId) = none := by
          rw [Table.find_eq_none_iff]
          intro row hrow
          exact decide_eq_false fun heq =>
            (Table.insert_eq_some hinsert).2 row hrow (Or.inl (heq.trans hid.symm))
        simp [hnone, hid]
      · simp [hid]
    | setTenantStatus id status actor =>
      obtain ⟨_, hop, rfl⟩ := answer_eq_ok.mp h
      obtain ⟨old, hold, -, rfl⟩ := setTenantStatus_eq_ok hop
      change (tenant? (assignTenantStatus db id status draw.now) tenantId).map TenantRow.status =
        (if id = tenantId then some status else none).or ((tenant? db tenantId).map TenantRow.status)
      rw [tenant?_assignTenantStatus]
      by_cases hid : id = tenantId
      · rw [← hid, hold]
        simp
      · simp [hid]
    | _ => cases hpart
  · rw [tenant?, (perform_frame h).tenants hpart, tenantStatus_of_part hpart]
    rfl

/-- A call changes the role of a member as its entry says. -/
theorem roles_step (h : perform lib db draw call = .ok (db', result)) (tenantId userId : String) :
    (membership? db' tenantId userId).map MembershipRow.role =
      (Entry.membershipRole tenantId userId ⟨draw, call, .ok result⟩).or
        ((membership? db tenantId userId).map MembershipRow.role) := by
  by_cases hpart : part call = some .memberships
  · cases call with
    | setMembership tenant user role actor =>
      obtain ⟨_, hop, rfl⟩ := answer_eq_ok.mp h
      obtain ⟨-, memberships, hwrite, rfl⟩ := setMembership_eq_ok hop
      change (membership? { db with memberships } tenantId userId).map MembershipRow.role =
        (if tenant = tenantId ∧ user = userId then some role else none).or
          ((membership? db tenantId userId).map MembershipRow.role)
      obtain ⟨old, hold, hassign⟩ | ⟨hnone, hinsert⟩ := hwrite
      · rw [hassign, membership?_assignRole]
        by_cases hkey : tenant = tenantId ∧ user = userId
        · rw [← hkey.1, ← hkey.2, hold]
          simp
        · simp [hkey]
      · rw [membership?_insert hinsert]
        by_cases hkey : tenant = tenantId ∧ user = userId
        · rw [hkey.1, hkey.2] at hnone
          simp [hnone, hkey]
        · simp [hkey]
    | setMembershipStatus tenant user status actor =>
      obtain ⟨_, hop, rfl⟩ := answer_eq_ok.mp h
      obtain ⟨old, -, -, rfl⟩ := setMembershipStatus_eq_ok hop
      change (membership? (assignMembershipStatus db tenant user status) tenantId userId).map
        MembershipRow.role = (membership? db tenantId userId).map MembershipRow.role
      rw [membership?_assignMembershipStatus, Option.map_map]
      congr 1
      funext row
      simp only [Function.comp_apply]
      split <;> rfl
    | _ => cases hpart
  · rw [membership?, (perform_frame h).memberships hpart, membershipRole_of_part hpart]
    rfl

/-- A call changes the status of a member as its entry says; a new member is active. -/
theorem statuses_step (h : perform lib db draw call = .ok (db', result)) (tenantId userId : String) :
    (membership? db' tenantId userId).map MembershipRow.status =
      ((Entry.membershipStatus tenantId userId ⟨draw, call, .ok result⟩).or
        ((membership? db tenantId userId).map MembershipRow.status)).or
          ((Entry.membershipRole tenantId userId ⟨draw, call, .ok result⟩).map fun _ => "active") := by
  by_cases hpart : part call = some .memberships
  · cases call with
    | setMembership tenant user role actor =>
      obtain ⟨_, hop, rfl⟩ := answer_eq_ok.mp h
      obtain ⟨-, memberships, hwrite, rfl⟩ := setMembership_eq_ok hop
      change (membership? { db with memberships } tenantId userId).map MembershipRow.status =
        ((membership? db tenantId userId).map MembershipRow.status).or
          ((if tenant = tenantId ∧ user = userId then some role else none).map fun _ => "active")
      obtain ⟨old, hold, hassign⟩ | ⟨hnone, hinsert⟩ := hwrite
      · rw [hassign, membership?_assignRole]
        by_cases hkey : tenant = tenantId ∧ user = userId
        · rw [← hkey.1, ← hkey.2, hold]
          simp
        · simp [hkey]
      · rw [membership?_insert hinsert]
        by_cases hkey : tenant = tenantId ∧ user = userId
        · rw [hkey.1, hkey.2] at hnone
          simp [hnone, hkey]
        · simp [hkey]
    | setMembershipStatus tenant user status actor =>
      obtain ⟨_, hop, rfl⟩ := answer_eq_ok.mp h
      obtain ⟨old, hold, -, rfl⟩ := setMembershipStatus_eq_ok hop
      change (membership? (assignMembershipStatus db tenant user status) tenantId userId).map
        MembershipRow.status = ((if tenant = tenantId ∧ user = userId then some status else none).or
          ((membership? db tenantId userId).map MembershipRow.status)).or none
      rw [membership?_assignMembershipStatus]
      by_cases hkey : tenant = tenantId ∧ user = userId
      · rw [← hkey.1, ← hkey.2, hold]
        simp
      · simp [hkey]
    | _ => cases hpart
  · rw [membership?, (perform_frame h).memberships hpart, membershipRole_of_part hpart,
      membershipStatus_of_part hpart]
    simp [membership?]

/-- Only existing members are given a status. -/
theorem isSome_of_membershipStatus (h : perform lib db draw call = .ok (db', result)) {tenantId userId : String}
    (hstatus : Entry.membershipStatus tenantId userId ⟨draw, call, .ok result⟩ ≠ none) :
    (membership? db tenantId userId).isSome := by
  cases call with
  | setMembershipStatus tenant user status actor =>
    obtain ⟨_, hop, rfl⟩ := answer_eq_ok.mp h
    obtain ⟨old, hold, -, -⟩ := setMembershipStatus_eq_ok hop
    by_cases hkey : tenant = tenantId ∧ user = userId
    · rw [← hkey.1, ← hkey.2, hold]
      rfl
    · exact absurd (if_neg hkey) hstatus
  | _ => exact absurd rfl hstatus

/-- Only calls that write API keys issue or revoke one. -/
theorem apiKeyLedger_of_part {outcome : Except IdentityError IdentityResult}
    (hpart : part call ≠ some .apiKeys) : apiKeyLedger.issues ⟨draw, call, outcome⟩ = none ∧
      ∀ item, apiKeyLedger.marks ⟨draw, call, outcome⟩ item = false := by
  cases call <;> first | exact ⟨rfl, fun _ => rfl⟩ | exact absurd rfl hpart

/-- A call changes the API keys as its entry says. -/
theorem apiKeys_step {entries : List ((IdentityDraw × IssuedApiKey) × Bool)}
    (h : perform lib db draw call = .ok (db', result))
    (hrows : db.apiKeys.rows.map enteredApiKey =
      entries.map (Ledger.image fun item => storedApiKey lib item.1 item.2)) :
    db'.apiKeys.rows.map enteredApiKey = (apiKeyLedger.record entries ⟨draw, call, .ok result⟩).map
      (Ledger.image fun item => storedApiKey lib item.1 item.2) := by
  by_cases hpart : part call = some .apiKeys
  · cases call with
    | issueApiKey tenantId role scopes expiresAt actor =>
      obtain ⟨issued, hop, rfl⟩ := answer_eq_ok.mp h
      obtain ⟨apiKeys, hinsert, -, -, -, -, -, -, -, rfl⟩ := issueApiKey_eq_ok hop
      change apiKeys.rows.map enteredApiKey = _
      rw [(Table.insert_eq_some hinsert).1]
      exact apiKeyLedger.map_record_issue hrows rfl (fun _ => rfl) (fun _ => rfl) rfl
    | revokeApiKey tenantId apiKeyId actor =>
      obtain ⟨_, hop, rfl⟩ := answer_eq_ok.mp h
      obtain ⟨heq, -⟩ | ⟨row, hrow, htenant, hid, hrevoke⟩ := revokeApiKey_cases db draw tenantId apiKeyId actor
      · cases heq.symm.trans (Except.ok.inj hop)
        exact apiKeyLedger.map_record_quiet hrows rfl (fun _ => rfl) fun _ => rfl
      · -- the found key is the only one with its id
        have hmark : ∀ other ∈ db.apiKeys.rows, other.id = apiKeyId → other = row := fun other hother hother' =>
          apiKey_eq_of_id hother hrow (hother'.trans hid.symm)
        obtain ⟨hrevoked, heq⟩ | ⟨hlive, heq⟩ := hrevoke
        · cases heq.symm.trans (Except.ok.inj hop)
          rw [← List.map_id db.apiKeys.rows]
          refine apiKeyLedger.map_record_mark (fun stored => tenantId = stored.tenantId && apiKeyId = stored.id)
            hrows rfl (fun _ => rfl) (fun _ => rfl) fun other hother => ?_
          by_cases hother' : other.id = apiKeyId
          · rw [hmark other hother hother']
            simp [enteredApiKey, Option.isSome_iff_ne_none.mpr hrevoked]
          · simp [enteredApiKey, Ne.symm hother']
        · cases heq.symm.trans (Except.ok.inj hop)
          refine apiKeyLedger.map_record_mark (fun stored => tenantId = stored.tenantId && apiKeyId = stored.id)
            hrows rfl (fun _ => rfl) (fun _ => rfl) fun other hother => ?_
          by_cases hother' : other.id = apiKeyId
          · rw [hmark other hother hother']
            simp [enteredApiKey, htenant, hid]
          · simp [enteredApiKey, hother', Ne.symm hother']
    | _ => cases hpart
  · obtain ⟨hissues, hmarks⟩ := @apiKeyLedger_of_part draw call (.ok result) hpart
    rw [(perform_frame h).apiKeys hpart]
    exact apiKeyLedger.map_record_quiet hrows hissues hmarks fun _ => rfl

/-- Only calls that write identity clients issue or revoke one. -/
theorem clientLedger_of_part {outcome : Except IdentityError IdentityResult}
    (hpart : part call ≠ some .identityClients) : clientLedger.issues ⟨draw, call, outcome⟩ = none ∧
      ∀ item, clientLedger.marks ⟨draw, call, outcome⟩ item = false := by
  cases call <;> first | exact ⟨rfl, fun _ => rfl⟩ | exact absurd rfl hpart

/-- A call changes the identity clients as its entry says. -/
theorem clients_step {entries : List ((IdentityDraw × IssuedIdentityClient) × Bool)}
    (h : perform lib db draw call = .ok (db', result))
    (hrows : db.identityClients.rows.map enteredClient =
      entries.map (Ledger.image fun item => storedClient lib item.1 item.2)) :
    db'.identityClients.rows.map enteredClient = (clientLedger.record entries ⟨draw, call, .ok result⟩).map
      (Ledger.image fun item => storedClient lib item.1 item.2) := by
  by_cases hpart : part call = some .identityClients
  · cases call with
    | issueIdentityClient name issuers =>
      obtain ⟨issued, hop, rfl⟩ := answer_eq_ok.mp h
      obtain ⟨_, -, hadd⟩ := issueIdentityClient_eq_ok hop
      obtain ⟨clients, hinsert, rfl, rfl⟩ := addIdentityClient_eq_ok hadd
      change clients.rows.map enteredClient = _
      rw [(Table.insert_eq_some hinsert).1]
      exact clientLedger.map_record_issue hrows rfl (fun _ => rfl) (fun _ => rfl) rfl
    | rotateIdentityClient id =>
      obtain ⟨issued, hop, rfl⟩ := answer_eq_ok.mp h
      obtain ⟨_, -, -, -, hadd⟩ := rotateIdentityClient_eq_ok hop
      obtain ⟨clients, hinsert, rfl, rfl⟩ := addIdentityClient_eq_ok hadd
      change clients.rows.map enteredClient = _
      rw [(Table.insert_eq_some hinsert).1]
      exact clientLedger.map_record_issue hrows rfl (fun _ => rfl) (fun _ => rfl) rfl
    | authenticateIdentityClient token issuer =>
      obtain ⟨_, hop, rfl⟩ := answer_eq_ok.mp h
      obtain ⟨-, heq⟩ | ⟨row, -, heq⟩ := authenticateIdentityClient_cases lib db draw.now token issuer
      · cases heq.symm.trans (Except.ok.inj hop)
        exact clientLedger.map_record_quiet hrows rfl (fun _ => rfl) fun _ => rfl
      · cases heq.symm.trans (Except.ok.inj hop)
        refine clientLedger.map_record_mark (fun _ => false) hrows rfl (fun _ => rfl) (fun _ => rfl)
          fun other _ => ?_
        by_cases hother : other.id = row.id
        · simp [enteredClient, hother]
        · simp [enteredClient, hother]
    | revokeIdentityClient id =>
      obtain ⟨_, hop, rfl⟩ := answer_eq_ok.mp h
      obtain ⟨-, heq⟩ | ⟨row, hfound, hrevoke⟩ := revokeIdentityClient_cases db draw id
      · cases heq.symm.trans (Except.ok.inj hop)
        exact clientLedger.map_record_quiet hrows rfl (fun _ => rfl) fun _ => rfl
      · obtain ⟨hrow, hid⟩ := client?_eq_some hfound
        obtain ⟨hrevoked, heq⟩ | ⟨hlive, heq⟩ := hrevoke
        · cases heq.symm.trans (Except.ok.inj hop)
          rw [← List.map_id db.identityClients.rows]
          refine clientLedger.map_record_mark (fun stored => id = stored.id) hrows rfl (fun _ => rfl)
            (fun _ => rfl) fun other hother => ?_
          by_cases hother' : other.id = id
          · rw [client_eq_of_id hother hrow (hother'.trans hid.symm)]
            simp [enteredClient, Option.isSome_iff_ne_none.mpr hrevoked]
          · simp [enteredClient, Ne.symm hother']
        · cases heq.symm.trans (Except.ok.inj hop)
          refine clientLedger.map_record_mark (fun stored => id = stored.id) hrows rfl (fun _ => rfl)
            (fun _ => rfl) fun other _ => ?_
          by_cases hother' : other.id = id
          · simp [enteredClient, hother']
          · simp [enteredClient, hother', Ne.symm hother']
    | _ => cases hpart
  · obtain ⟨hissues, hmarks⟩ := @clientLedger_of_part draw call (.ok result) hpart
    rw [(perform_frame h).identityClients hpart]
    exact clientLedger.map_record_quiet hrows hissues hmarks fun _ => rfl

/-- Only calls that write user sessions issue, revoke or delete one. -/
theorem sessionLedger_of_part {outcome : Except IdentityError IdentityResult}
    (hpart : part call ≠ some .userSessions) : sessionLedger.issues ⟨draw, call, outcome⟩ = none ∧
      (∀ item, sessionLedger.marks ⟨draw, call, outcome⟩ item = false) ∧
      ∀ item, sessionLedger.drops ⟨draw, call, outcome⟩ item = false := by
  cases call <;> first | exact ⟨rfl, fun _ => rfl, fun _ => rfl⟩ | exact absurd rfl hpart

/-- A call changes the user sessions as its entry says. -/
theorem sessions_step {entries : List ((IdentityDraw × IssuedUserSession) × Bool)}
    (h : perform lib db draw call = .ok (db', result))
    (hrows : db.userSessions.rows.map enteredSession =
      entries.map (Ledger.image fun item => storedSession lib item.1 item.2)) :
    db'.userSessions.rows.map enteredSession = (sessionLedger.record entries ⟨draw, call, .ok result⟩).map
      (Ledger.image fun item => storedSession lib item.1 item.2) := by
  by_cases hpart : part call = some .userSessions
  · cases call with
    | issueUserSession clientId tenantId userId ttl actor requestId =>
      obtain ⟨issued, hop, rfl⟩ := answer_eq_ok.mp h
      obtain ⟨-, -, -, -, -, userSessions, hinsert, rfl⟩ := issueUserSession_eq_ok hop
      change userSessions.rows.map enteredSession = _
      rw [(Table.insert_eq_some hinsert).1]
      exact sessionLedger.map_record_issue hrows rfl (fun _ => rfl) (fun _ => rfl) rfl
    | authenticateUserSession token =>
      obtain ⟨_, hop, rfl⟩ := answer_eq_ok.mp h
      obtain heq | ⟨principal, heq⟩ := authenticateUserSession_cases lib db draw.now token
      · cases heq.symm.trans (Except.ok.inj hop)
        exact sessionLedger.map_record_quiet hrows rfl (fun _ => rfl) fun _ => rfl
      · cases heq.symm.trans (Except.ok.inj hop)
        refine sessionLedger.map_record_mark (fun _ => false) hrows rfl (fun _ => rfl) (fun _ => rfl)
          fun other _ => ?_
        by_cases hother : other.id = principal.sessionId
        · simp [enteredSession, hother]
        · simp [enteredSession, hother]
    | revokeUserSession tenantId sessionId actor requestId =>
      obtain ⟨_, hop, rfl⟩ := answer_eq_ok.mp h
      obtain ⟨heq, -⟩ | ⟨row, hrow, htenant, hid, hrevoke⟩ :=
        revokeUserSession_cases db draw tenantId sessionId actor requestId
      · cases heq.symm.trans (Except.ok.inj hop)
        exact sessionLedger.map_record_quiet hrows rfl (fun _ => rfl) fun _ => rfl
      · -- the found session is the only one with its id
        have hmark : ∀ other ∈ db.userSessions.rows, other.id = sessionId → other = row :=
          fun other hother hother' => session_eq_of_id hother hrow (hother'.trans hid.symm)
        obtain ⟨hrevoked, heq⟩ | ⟨hlive, heq⟩ := hrevoke
        · cases heq.symm.trans (Except.ok.inj hop)
          rw [← List.map_id db.userSessions.rows]
          refine sessionLedger.map_record_mark
            (fun stored => tenantId = stored.tenantId && sessionId = stored.id) hrows rfl (fun _ => rfl)
            (fun _ => rfl) fun other hother => ?_
          by_cases hother' : other.id = sessionId
          · rw [hmark other hother hother']
            simp [enteredSession, Option.isSome_iff_ne_none.mpr hrevoked]
          · simp [enteredSession, Ne.symm hother']
        · cases heq.symm.trans (Except.ok.inj hop)
          refine sessionLedger.map_record_mark
            (fun stored => tenantId = stored.tenantId && sessionId = stored.id) hrows rfl (fun _ => rfl)
            (fun _ => rfl) fun other hother => ?_
          by_cases hother' : other.id = sessionId
          · rw [hmark other hother hother']
            simp [enteredSession, htenant, hid]
          · simp [enteredSession, hother', Ne.symm hother']
    | cleanupExpiredUserSessions before =>
      obtain ⟨_, hop, rfl⟩ := answer_eq_ok.mp h
      obtain ⟨cutoff, hcutoff, rfl⟩ := cleanupExpiredUserSessions_eq_ok hop
      refine sessionLedger.map_record_drop (fun stored => stored.expiresAt ≤ cutoff) hrows rfl (fun _ => rfl)
        (fun _ => rfl) fun item => ?_
      change (cleanupCutoff draw before).toOption.any _ = _
      rw [hcutoff]
      rfl
    | _ => cases hpart
  · obtain ⟨hissues, hmarks, hdrops⟩ := @sessionLedger_of_part draw call (.ok result) hpart
    rw [(perform_frame h).userSessions hpart]
    exact sessionLedger.map_record_quiet hrows hissues hmarks hdrops

/-- A client that is added to sound ones is sound if its issuers are. -/
theorem sound_of_add {name : String} {issuers : List String} {rotatedFromId : Option String}
    {issued : IssuedIdentityClient} (hsound : ∀ row ∈ db.identityClients.rows, SoundClient row)
    (hissuers : "" ∉ issuers)
    (hadd : addIdentityClient lib db draw name issuers rotatedFromId = .ok (db', issued)) :
    ∀ row ∈ db'.identityClients.rows, SoundClient row := by
  obtain ⟨clients, hinsert, -, rfl⟩ := addIdentityClient_eq_ok hadd
  intro row hrow
  rw [(Table.insert_eq_some hinsert).1] at hrow
  rcases List.mem_append.mp hrow with hold | hnew
  · exact hsound row hold
  · rw [List.mem_singleton.mp hnew]
    exact ⟨rfl, hissuers⟩

/-- A change of clients that keeps each of them sound. -/
theorem sound_of_update {rows : List IdentityClientRow} {selected : IdentityClientRow → Bool}
    {change : IdentityClientRow → IdentityClientRow} (hsound : ∀ row ∈ rows, SoundClient row)
    (hchange : ∀ row, SoundClient row → SoundClient (change row)) :
    ∀ row ∈ rows.map (fun row => if selected row then change row else row), SoundClient row := by
  intro row hrow
  obtain ⟨old, hold, rfl⟩ := List.mem_map.mp hrow
  split
  · exact hchange old (hsound old hold)
  · exact hsound old hold

/-- Calls keep identity clients sound. -/
theorem sound_step (h : perform lib db draw call = .ok (db', result))
    (hsound : ∀ row ∈ db.identityClients.rows, SoundClient row) :
    ∀ row ∈ db'.identityClients.rows, SoundClient row := by
  by_cases hpart : part call = some .identityClients
  · cases call with
    | issueIdentityClient name issuers =>
      obtain ⟨issued, hop, rfl⟩ := answer_eq_ok.mp h
      obtain ⟨clean, hclean, hadd⟩ := issueIdentityClient_eq_ok hop
      exact sound_of_add hsound (normalizeIssuers_eq_ok hclean).2 hadd
    | rotateIdentityClient id =>
      obtain ⟨issued, hop, rfl⟩ := answer_eq_ok.mp h
      obtain ⟨previous, hprevious, -, -, hadd⟩ := rotateIdentityClient_eq_ok hop
      exact sound_of_add hsound (hsound previous (client?_eq_some hprevious).1).2 hadd
    | authenticateIdentityClient token issuer =>
      obtain ⟨_, hop, rfl⟩ := answer_eq_ok.mp h
      obtain ⟨-, heq⟩ | ⟨row, -, heq⟩ := authenticateIdentityClient_cases lib db draw.now token issuer
      · cases heq.symm.trans (Except.ok.inj hop)
        exact hsound
      · cases heq.symm.trans (Except.ok.inj hop)
        exact sound_of_update hsound fun _ hrow => hrow
    | revokeIdentityClient id =>
      obtain ⟨_, hop, rfl⟩ := answer_eq_ok.mp h
      obtain ⟨-, heq⟩ | ⟨row, -, ⟨-, heq⟩ | ⟨-, heq⟩⟩ := revokeIdentityClient_cases db draw id
      · cases heq.symm.trans (Except.ok.inj hop)
        exact hsound
      · cases heq.symm.trans (Except.ok.inj hop)
        exact hsound
      · cases heq.symm.trans (Except.ok.inj hop)
        exact sound_of_update hsound fun _ hrow => ⟨rfl, hrow.2⟩
    | _ => cases hpart
  · rw [(perform_frame h).identityClients hpart]
    exact hsound

/-- A fresh database holds what an empty history says. -/
theorem Summary.start (lib : SecretLibrary) : Summary lib [] .empty where
  tenants _ := rfl
  roles _ _ := rfl
  statuses _ _ _ hrow := by cases hrow
  unset _ _ _ := rfl
  apiKeys := rfl
  clients := rfl
  sound _ hrow := by cases hrow
  sessions := rfl

variable {history : List Entry}

/-- The database keeps holding what the history says when a call succeeds. -/
theorem Summary.succeed (hsummary : Summary lib history db) (h : perform lib db draw call = .ok (db', result)) :
    Summary lib (history ++ [⟨draw, call, .ok result⟩]) db' where
  tenants tenantId := by rw [latest_concat, tenants_step h, hsummary.tenants]
  roles tenantId userId := by rw [latest_concat, roles_step h, hsummary.roles]
  statuses tenantId userId row hrow := by
    have hstatus := statuses_step h tenantId userId
    rw [Option.mem_def.mp hrow, Option.map_some] at hstatus
    rw [latest_concat]
    cases hset : Entry.membershipStatus tenantId userId ⟨draw, call, .ok result⟩ with
    | some status =>
      rw [hset] at hstatus
      simpa using hstatus
    | none =>
      rw [hset, Option.none_or] at hstatus
      cases hold : membership? db tenantId userId with
      | some old =>
        rw [hold] at hstatus
        have hold' := hsummary.statuses tenantId userId old hold
        simpa [hold'] using hstatus
      | none =>
        rw [hold, Option.map_none, Option.none_or] at hstatus
        have hunset := hsummary.unset tenantId userId hold
        obtain ⟨_, -, hactive⟩ := Option.map_eq_some_iff.mp hstatus.symm
        simp [hunset, hactive]
  unset tenantId userId hnone := by
    have hrole := roles_step h tenantId userId
    rw [hnone, Option.map_none, eq_comm, Option.or_eq_none_iff, Option.map_eq_none_iff] at hrole
    have hset : Entry.membershipStatus tenantId userId ⟨draw, call, .ok result⟩ = none := by
      by_contra hset
      have hsome := isSome_of_membershipStatus h hset
      rw [hrole.2] at hsome
      cases hsome
    rw [latest_concat, hset, hsummary.unset tenantId userId hrole.2]
    rfl
  apiKeys := by
    rw [Ledger.entries_concat]
    exact apiKeys_step h hsummary.apiKeys
  clients := by
    rw [Ledger.entries_concat]
    exact clients_step h hsummary.clients
  sound := sound_step h hsummary.sound
  sessions := by
    rw [Ledger.entries_concat]
    exact sessions_step h hsummary.sessions

/-- Nothing is recorded of a call that raises. -/
theorem Summary.fail (hsummary : Summary lib history db) (draw : IdentityDraw) (call : IdentityCall)
    (e : IdentityError) : Summary lib (history ++ [⟨draw, call, .error e⟩]) db where
  tenants tenantId := by
    have hquiet : Entry.tenantStatus tenantId ⟨draw, call, .error e⟩ = none := by cases call <;> rfl
    rw [latest_concat, hquiet, Option.none_or, hsummary.tenants]
  roles tenantId userId := by
    have hquiet : Entry.membershipRole tenantId userId ⟨draw, call, .error e⟩ = none := by cases call <;> rfl
    rw [latest_concat, hquiet, Option.none_or, hsummary.roles]
  statuses tenantId userId := by
    have hquiet : Entry.membershipStatus tenantId userId ⟨draw, call, .error e⟩ = none := by cases call <;> rfl
    rw [latest_concat, hquiet, Option.none_or]
    exact hsummary.statuses tenantId userId
  unset tenantId userId := by
    have hquiet : Entry.membershipStatus tenantId userId ⟨draw, call, .error e⟩ = none := by cases call <;> rfl
    rw [latest_concat, hquiet, Option.none_or]
    exact hsummary.unset tenantId userId
  apiKeys := by
    rw [Ledger.entries_concat]
    exact apiKeyLedger.map_record_quiet hsummary.apiKeys (by cases call <;> rfl)
      (fun _ => by cases call <;> rfl) fun _ => rfl
  clients := by
    rw [Ledger.entries_concat]
    exact clientLedger.map_record_quiet hsummary.clients (by cases call <;> rfl)
      (fun _ => by cases call <;> rfl) fun _ => rfl
  sound := hsummary.sound
  sessions := by
    rw [Ledger.entries_concat]
    exact sessionLedger.map_record_quiet hsummary.sessions (by cases call <;> rfl)
      (fun _ => by cases call <;> rfl) fun _ => by cases call <;> rfl

/-- Every entry is the answer of its call in the database that the entries before it left. -/
def Performed (lib : SecretLibrary) (history : List Entry) : Prop :=
  ∀ before entry after, history = before ++ entry :: after →
    ∃ db, Summary lib before db ∧ entry.outcome = (perform lib db entry.draw entry.call).map Prod.snd

/-- An entry that was made in the current database can be added. -/
theorem Performed.concat (hperformed : Performed lib history) (hsummary : Summary lib history db)
    (made : IdentityDraw × IdentityCall) : Performed lib (history ++ [entryOf lib db made]) := by
  intro before entry after hsplit
  rcases List.eq_nil_or_concat after with rfl | ⟨after', last, rfl⟩
  · obtain ⟨rfl, hlast⟩ := List.append_inj' hsplit rfl
    rw [← List.singleton_inj.mp hlast]
    exact ⟨db, hsummary, rfl⟩
  · have hsplit' : history ++ [entryOf lib db made] = (before ++ entry :: after') ++ [last] := by
      simp [hsplit]
    exact hperformed before entry after' (List.append_inj' hsplit' rfl).1

/-- After every sequence of calls, the database holds what the history says. -/
theorem runCalls_summary (lib : SecretLibrary) (calls : List (IdentityDraw × IdentityCall)) :
    Summary lib (runCalls lib calls).2 (runCalls lib calls).1 ∧ Performed lib (runCalls lib calls).2 := by
  refine List.foldlRecOn calls _ (motive := fun run : IdentityDatabase × List Entry =>
    Summary lib run.2 run.1 ∧ Performed lib run.2) ?_ ?_
  · exact ⟨Summary.start lib, fun before entry after hsplit => by simp at hsplit⟩
  · rintro ⟨db, history⟩ ⟨hsummary, hperformed⟩ made -
    refine ⟨?_, hperformed.concat hsummary made⟩
    simp only [afterCall, entryOf]
    split
    · next db' result h =>
      rw [h]
      exact hsummary.succeed h
    · next e h =>
      rw [h]
      exact hsummary.fail made.1 made.2 e

end Identity

end SharedIntegration

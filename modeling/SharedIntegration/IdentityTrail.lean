import SharedIntegration.ExchangeSafety
import SharedIntegration.Library.Trail

/-!
# The audit trail of identity operations

The operations of the identity repository write rows and audit events side by side. Read in order, the events of
a tenant tell its status, its memberships, its API keys and the revocations of its user sessions.
-/

namespace SharedIntegration

open Relational

/-- What the audit trail of a tenant tells about it. -/
structure Authority where
  status : Option String
  members : String → Option (String × String)
  keys : String → Option (String × List String × Bool)
  sessions : String → Option Bool

/-- A change of authority that an audit event stands for. -/
inductive AuthorityChange
  | tenantCreated
  | tenantStatus (before after : String)
  | memberRole (userId role : String)
  | memberStatus (userId before after : String)
  | keyIssued (apiKeyId role : String) (scopes : List String)
  | keyRevoked (apiKeyId : String)
  | sessionIssued (sessionId : String)
  | sessionRevoked (sessionId : String)

namespace AuthorityChange

/-- A text in the details of an event. -/
def text (event : AuditEventRow) (key : String) : Option String := (event.details.get? key).bind Json.asStr?

/-- A list of texts in the details of an event. -/
def texts (event : AuditEventRow) (key : String) : Option (List String) :=
  match event.details.get? key with
  | some (.arr items) => items.mapM Json.asStr?
  | _ => none

/-- The change that an event stands for; other events stand for none. -/
def ofEvent (event : AuditEventRow) : Option AuthorityChange :=
  match event.action with
  | "tenant.created" => some .tenantCreated
  | "tenant.status_changed" => do return .tenantStatus (← text event "from") (← text event "to")
  | "membership.set" => do return .memberRole (← event.resourceId) (← text event "role")
  | "membership.status_changed" => do
    return .memberStatus (← event.resourceId) (← text event "from") (← text event "to")
  | "api_key.issued" => do return .keyIssued (← event.resourceId) (← text event "role") (← texts event "scopes")
  | "api_key.revoked" => do return .keyRevoked (← event.resourceId)
  | "user_session.issued" => do return .sessionIssued (← event.resourceId)
  | "user_session.revoked" => do return .sessionRevoked (← event.resourceId)
  | _ => none

/-- Lists of texts are read back. -/
theorem mapM_asStr? (scopes : List String) : (scopes.map (Json.str : String → Document)).mapM Json.asStr? = some scopes := by
  induction scopes with
  | nil => rfl
  | cons scope rest ih =>
    rw [List.map_cons, List.mapM_cons, ih]
    rfl

end AuthorityChange

namespace Authority

/-- Before the first event. -/
def initial : Authority := ⟨none, fun _ => none, fun _ => none, fun _ => none⟩

/-- The authority after a change; a role that is set again leaves the status of the member alone. -/
def apply (a : Authority) : AuthorityChange → Authority
  | .tenantCreated => { a with status := some "active" }
  | .tenantStatus _ after => { a with status := some after }
  | .memberRole userId role =>
    { a with members := Function.update a.members userId (some (role, (a.members userId).elim "active" Prod.snd)) }
  | .memberStatus userId _ after =>
    { a with members := Function.update a.members userId ((a.members userId).map fun member => (member.1, after)) }
  | .keyIssued apiKeyId role scopes =>
    { a with keys := Function.update a.keys apiKeyId (some (role, scopes, false)) }
  | .keyRevoked apiKeyId =>
    { a with keys := Function.update a.keys apiKeyId ((a.keys apiKeyId).map fun key => (key.1, key.2.1, true)) }
  | .sessionIssued sessionId => { a with sessions := Function.update a.sessions sessionId (some false) }
  | .sessionRevoked sessionId => { a with sessions := Function.update a.sessions sessionId (some true) }

/-- The change starts from the authority as it is: no tenant or key is created twice, what is recorded as the
old value is the old value, and what is revoked was not revoked before. -/
def Starts (a : Authority) : AuthorityChange → Prop
  | .tenantCreated => a.status = none
  | .tenantStatus before _ => a.status = some before
  | .memberRole _ _ => True
  | .memberStatus userId before _ => ∃ role, a.members userId = some (role, before)
  | .keyIssued apiKeyId _ _ => a.keys apiKeyId = none
  | .keyRevoked apiKeyId => ∃ role scopes, a.keys apiKeyId = some (role, scopes, false)
  | .sessionIssued _ => True
  | .sessionRevoked sessionId => a.sessions sessionId = some false

/-- How the changes of a tenant are read. -/
def reader : TrailReader Authority AuthorityChange := ⟨apply, Starts⟩

end Authority

namespace Identity

/-- The changes that the events of a tenant stand for, in order. -/
def authorityTrail (events : List AuditEventRow) (tenantId : String) : List AuthorityChange :=
  (events.filter fun event => event.tenantId = tenantId).filterMap AuthorityChange.ofEvent

/-- An API key of a tenant. -/
def apiKey? (db : IdentityDatabase) (tenantId apiKeyId : String) : Option ApiKeyRow :=
  db.apiKeys.find fun row => row.tenantId = tenantId ∧ row.id = apiKeyId

/-- The rows of a tenant are as the authority says. -/
structure Reconstructed (db : IdentityDatabase) (tenantId : String) (a : Authority) : Prop where
  status : a.status = (tenant? db tenantId).map (·.status)
  members : ∀ userId, a.members userId = (membership? db tenantId userId).map fun row => (row.role, row.status)
  keys : ∀ apiKeyId, a.keys apiKeyId =
    (apiKey? db tenantId apiKeyId).map fun row => (row.role, row.scopes, row.revokedAt.isSome)
  sessions : ∀ row ∈ db.userSessions.rows, row.tenantId = tenantId → a.sessions row.id = some row.revokedAt.isSome

/-- The audit trail of every tenant reconstructs its authority, and each change starts from it. -/
def Trailed (db : IdentityDatabase) : Prop :=
  ∀ tenantId, Reconstructed db tenantId (Authority.reader.replay .initial (authorityTrail db.auditEvents tenantId)) ∧
    Authority.reader.FaithfulAlong .initial (authorityTrail db.auditEvents tenantId)

/-- There is nothing to reconstruct in a fresh database. -/
theorem trailed_empty : Trailed .empty := fun _ =>
  ⟨⟨rfl, fun _ => rfl, fun _ => rfl, fun _ hrow => absurd hrow List.not_mem_nil⟩, trivial⟩

variable {lib : SecretLibrary} {db db' : IdentityDatabase} {draw : IdentityDraw}

/-- An event that stands for a change extends the trail of its tenant. -/
theorem authorityTrail_concat {event : AuditEventRow} {change : AuthorityChange} (events : List AuditEventRow)
    (hchange : AuthorityChange.ofEvent event = some change) (tenantId : String) :
    authorityTrail (events ++ [event]) tenantId =
      if event.tenantId = tenantId then authorityTrail events tenantId ++ [change]
      else authorityTrail events tenantId := by
  unfold authorityTrail
  by_cases htenant : event.tenantId = tenantId <;> simp [List.filter_append, htenant, hchange]

/-- An event that stands for no change extends no trail. -/
theorem authorityTrail_quiet {event : AuditEventRow} (events : List AuditEventRow)
    (hchange : AuthorityChange.ofEvent event = none) (tenantId : String) :
    authorityTrail (events ++ [event]) tenantId = authorityTrail events tenantId := by
  unfold authorityTrail
  by_cases htenant : event.tenantId = tenantId <;> simp [List.filter_append, htenant, hchange]

/-- Rows that no change is recorded for stay reconstructed. -/
theorem Trailed.quiet (h : Trailed db)
    (htrail : ∀ tenantId, authorityTrail db'.auditEvents tenantId = authorityTrail db.auditEvents tenantId)
    (hrows : ∀ tenantId a, Reconstructed db tenantId a → Reconstructed db' tenantId a) : Trailed db' := by
  intro tenantId
  rw [htrail tenantId]
  exact ⟨hrows tenantId _ (h tenantId).1, (h tenantId).2⟩

/-- A change that is recorded for its tenant is reconstructed. -/
theorem Trailed.record (h : Trailed db) {event : AuditEventRow} {c : AuthorityChange}
    (hevents : db'.auditEvents = db.auditEvents ++ [event]) (hchange : AuthorityChange.ofEvent event = some c)
    (hown : ∀ a, Reconstructed db event.tenantId a → a.Starts c ∧ Reconstructed db' event.tenantId (a.apply c))
    (hothers : ∀ tenantId a, event.tenantId ≠ tenantId → Reconstructed db tenantId a →
      Reconstructed db' tenantId a) : Trailed db' := by
  intro tenantId
  obtain ⟨hold, hfaithful⟩ := h tenantId
  rw [hevents, authorityTrail_concat _ hchange]
  by_cases htenant : event.tenantId = tenantId
  · subst htenant
    obtain ⟨hstarts, hnew⟩ := hown _ hold
    rw [if_pos rfl, TrailReader.replay_concat, TrailReader.faithfulAlong_concat]
    exact ⟨hnew, hfaithful, hstarts⟩
  · rw [if_neg htenant]
    exact ⟨hothers tenantId _ htenant hold, hfaithful⟩

/-! ### Tenants -/

/-- A new tenant is found after its insert. -/
theorem tenant?_insert {row : TenantRow} {tenants : Table TenantRow TenantRow.Conflict}
    (h : db.tenants.insert row = some tenants) (tenantId : String) :
    (tenants.find fun row => row.id = tenantId) =
      (tenant? db tenantId).or (if row.id = tenantId then some row else none) := by
  have hfind := Table.find_insert h fun row => row.id = tenantId
  simp only [decide_eq_true_eq] at hfind
  exact hfind

/-- A new tenant was not there before. -/
theorem tenant?_of_insert {row : TenantRow} {tenants : Table TenantRow TenantRow.Conflict}
    (h : db.tenants.insert row = some tenants) : tenant? db row.id = none := by
  rw [tenant?, Table.find_eq_none_iff]
  intro old hold
  rw [decide_eq_false_iff_not]
  exact fun hid => (Table.insert_eq_some h).2 old hold (Or.inl hid)

/-- `create_tenant` records the tenant. -/
theorem trailed_createTenant (h : Trailed db) {tenantId slug name actor : String} {days : ℤ} {row : TenantRow}
    (hop : createTenant db draw tenantId slug name days actor = .ok (db', row)) : Trailed db' := by
  obtain ⟨tenants, hinsert, rfl, rfl⟩ := createTenant_eq_ok hop
  have hnew := tenant?_of_insert hinsert
  have hfind := tenant?_insert hinsert
  refine h.record (c := .tenantCreated) rfl rfl (fun a ha => ⟨?_, ?_, ha.members, ha.keys, ha.sessions⟩)
    fun tenantId' a hother ha => ⟨?_, ha.members, ha.keys, ha.sessions⟩
  · have hstatus := ha.status
    rw [hnew] at hstatus
    exact hstatus
  · change some "active" = (tenants.find fun row => row.id = tenantId).map (·.status)
    rw [hfind, hnew, Option.none_or, if_pos rfl]
    rfl
  · change a.status = (tenants.find fun row => row.id = tenantId').map (·.status)
    rw [hfind, if_neg hother, Option.or_none]
    exact ha.status

/-- `set_tenant_status` records the old and the new status. -/
theorem trailed_setTenantStatus (h : Trailed db) {tenantId status actor : String} {row : TenantRow}
    (hop : setTenantStatus db draw tenantId status actor = .ok (db', row)) : Trailed db' := by
  obtain ⟨old, hold, -, rfl⟩ := setTenantStatus_eq_ok hop
  have hassigned := tenant?_assignTenantStatus db tenantId status draw.now
  refine h.record (c := .tenantStatus old.status status) rfl rfl
    (fun a ha => ⟨?_, ?_, ha.members, ha.keys, ha.sessions⟩)
    fun tenantId' a hother ha => ⟨?_, ha.members, ha.keys, ha.sessions⟩
  · have hstatus := ha.status
    rw [hold] at hstatus
    exact hstatus
  · change some status = (tenant? (assignTenantStatus db tenantId status draw.now) tenantId).map (·.status)
    rw [hassigned, hold, Option.map_some, if_pos rfl]
    rfl
  · change a.status = (tenant? (assignTenantStatus db tenantId status draw.now) tenantId').map (·.status)
    simp only [hassigned, if_neg (show ¬ tenantId = tenantId' from hother), Option.map_id']
    exact ha.status

/-! ### Memberships -/

/-- `set_membership` records the role. -/
theorem trailed_setMembership (h : Trailed db) {tenantId userId role actor : String} {row : MembershipRow}
    (hop : setMembership db draw tenantId userId role actor = .ok (db', row)) : Trailed db' := by
  obtain ⟨-, memberships, hwritten, rfl⟩ := setMembership_eq_ok hop
  -- The member's row after the call, and those of all others.
  have hmember : ∀ tenantId' userId', membership? { db with memberships } tenantId' userId' =
      if tenantId = tenantId' ∧ userId = userId' then
        some (((membership? db tenantId userId).map fun row => { row with role }).getD
          ⟨tenantId, userId, role, "active", draw.now⟩)
      else membership? db tenantId' userId' := by
    intro tenantId' userId'
    rcases hwritten with ⟨old, hold, hassigned⟩ | ⟨hnone, hinsert⟩
    · rw [hassigned, membership?_assignRole]
      split
      · next hsame =>
        obtain ⟨rfl, rfl⟩ := hsame
        rw [hold]
        rfl
      · exact Option.map_id'
    · rw [membership?_insert hinsert]
      dsimp only
      split
      · next hsame =>
        obtain ⟨rfl, rfl⟩ := hsame
        rw [hnone]
        rfl
      · exact Option.or_none
  refine h.record (c := .memberRole userId role) rfl rfl
    (fun a ha => ⟨trivial, ha.status, fun userId' => ?_, ha.keys, ha.sessions⟩)
    fun tenantId' a hother ha => ⟨ha.status, fun userId' => ?_, ha.keys, ha.sessions⟩
  · change Function.update a.members userId _ userId' =
      (membership? { db with memberships } tenantId userId').map _
    rw [hmember, Function.update_apply]
    by_cases hsame : userId' = userId
    · rw [if_pos hsame, if_pos ⟨rfl, hsame.symm⟩, ha.members userId]
      cases membership? db tenantId userId <;> rfl
    · rw [if_neg hsame, if_neg fun hboth => hsame hboth.2.symm]
      exact ha.members userId'
  · change a.members userId' = (membership? { db with memberships } tenantId' userId').map _
    rw [hmember, if_neg fun hboth => hother hboth.1]
    exact ha.members userId'

/-- `set_membership_status` records the old and the new status. -/
theorem trailed_setMembershipStatus (h : Trailed db) {tenantId userId status actor : String} {row : MembershipRow}
    (hop : setMembershipStatus db draw tenantId userId status actor = .ok (db', row)) : Trailed db' := by
  obtain ⟨old, hold, -, rfl⟩ := setMembershipStatus_eq_ok hop
  have hassigned := membership?_assignMembershipStatus db tenantId userId status
  refine h.record (c := .memberStatus userId old.status status) rfl rfl
    (fun a ha => ⟨⟨old.role, ?_⟩, ha.status, fun userId' => ?_, ha.keys, ha.sessions⟩)
    fun tenantId' a hother ha => ⟨ha.status, fun userId' => ?_, ha.keys, ha.sessions⟩
  · have hmember := ha.members userId
    rw [show membership? db _ userId = some old from hold] at hmember
    exact hmember
  · change Function.update a.members userId _ userId' =
      (membership? (assignMembershipStatus db tenantId userId status) tenantId userId').map _
    rw [hassigned, Function.update_apply]
    by_cases hsame : userId' = userId
    · rw [if_pos hsame, hsame, ha.members userId, Option.map_map, Option.map_map]
      simp
      rfl
    · have hmember := ha.members userId'
      rw [if_neg hsame, hmember]
      simp [Ne.symm hsame]
  · change a.members userId' =
      (membership? (assignMembershipStatus db tenantId userId status) tenantId' userId').map _
    rw [hassigned, ha.members userId']
    simp [show ¬ tenantId = tenantId' from hother]

/-! ### API keys -/

/-- An API key is found under its tenant and id. -/
theorem apiKey?_eq_some {tenantId apiKeyId : String} {row : ApiKeyRow} (h : apiKey? db tenantId apiKeyId = some row) :
    row ∈ db.apiKeys.rows ∧ row.tenantId = tenantId ∧ row.id = apiKeyId := by
  obtain ⟨hmem, hkey⟩ := Table.find_eq_some h
  exact ⟨hmem, of_decide_eq_true hkey⟩

/-- An API key is what a lookup by its tenant and id finds. -/
theorem apiKey?_of_mem {row : ApiKeyRow} (hrow : row ∈ db.apiKeys.rows) : apiKey? db row.tenantId row.id = some row :=
  Table.find_eq_some_of_mem _ _ (fun _ _ ha hb =>
    Or.inl ((of_decide_eq_true ha).2.trans (of_decide_eq_true hb).2.symm)) hrow (decide_eq_true ⟨rfl, rfl⟩)

/-- A new API key is found after its insert. -/
theorem apiKey?_insert {row : ApiKeyRow} {apiKeys : Table ApiKeyRow ApiKeyRow.Conflict}
    (h : db.apiKeys.insert row = some apiKeys) (tenantId apiKeyId : String) :
    apiKey? { db with apiKeys } tenantId apiKeyId = (apiKey? db tenantId apiKeyId).or
      (if row.tenantId = tenantId ∧ row.id = apiKeyId then some row else none) := by
  have hfind := Table.find_insert h fun row => row.tenantId = tenantId ∧ row.id = apiKeyId
  simp only [decide_eq_true_eq] at hfind
  exact hfind

/-- Stamping the revocation of an API key is seen by that key only. -/
theorem apiKey?_stampApiKey (db : IdentityDatabase) (apiKeyId : String) (now : Instant) (tenantId wanted : String) :
    apiKey? (stampApiKey db apiKeyId now) tenantId wanted = (apiKey? db tenantId wanted).map fun row =>
      if apiKeyId = wanted then { row with revokedAt := some now } else row := by
  have hfind := Table.find_update db.apiKeys (fun row => row.id = apiKeyId)
    (fun row => { row with revokedAt := some now }) ⟨fun _ _ h => h, fun _ _ h => h⟩
    (fun row => row.tenantId = tenantId ∧ row.id = wanted) fun _ => rfl
  refine hfind.trans (Option.map_congr fun row hrow => ?_)
  rw [← (apiKey?_eq_some hrow).2.2]
  simp only [decide_eq_true_eq, @eq_comm String row.id]

/-- `issue_api_key` records role and scopes of the key. -/
theorem trailed_issueApiKey (h : Trailed db) {tenantId role actor : String} {scopes : List String}
    {expiresAt : Option Timestamp} {issued : IssuedApiKey}
    (hop : issueApiKey lib db draw tenantId role scopes expiresAt actor = .ok (db', issued)) : Trailed db' := by
  obtain ⟨apiKeys, hinsert, -, -, htenant, hrole, -, -, -, rfl⟩ := issueApiKey_eq_ok hop
  have hchange : AuthorityChange.ofEvent ⟨tenantId, actor, "api_key.issued", "api_key", some issued.id, none,
      "success", .obj [("prefix", .str (keyPrefix "igw_" draw.hex)), ("role", .str role),
        ("scopes", .arr (issued.scopes.map .str))], draw.now⟩ =
      some (.keyIssued issued.id role issued.scopes) := by
    change (((issued.scopes.map Json.str).mapM Json.asStr?).bind fun scopes =>
      some (AuthorityChange.keyIssued issued.id role scopes)) = _
    rw [AuthorityChange.mapM_asStr?]
    rfl
  have hnew : ∀ tenantId, apiKey? db tenantId issued.id = none := by
    intro tenantId
    rw [apiKey?, Table.find_eq_none_iff]
    intro old hold
    rw [decide_eq_false_iff_not]
    exact fun hboth => (Table.insert_eq_some hinsert).2 old hold (Or.inl hboth.2)
  have hkey : ∀ tenantId' wanted, apiKey? { db with apiKeys } tenantId' wanted =
      if tenantId = tenantId' ∧ issued.id = wanted then some (storedApiKey lib draw issued)
      else apiKey? db tenantId' wanted := by
    intro tenantId' wanted
    rw [apiKey?_insert hinsert]
    simp only [storedApiKey, htenant]
    split
    · next hsame =>
      rw [← hsame.2, hnew tenantId', Option.none_or]
    · exact Option.or_none
  refine h.record (c := .keyIssued issued.id role issued.scopes) rfl hchange
    (fun a ha => ⟨?_, ha.status, ha.members, fun wanted => ?_, ha.sessions⟩)
    fun tenantId' a hother ha => ⟨ha.status, ha.members, fun wanted => ?_, ha.sessions⟩
  · have hkeys := ha.keys issued.id
    rw [hnew] at hkeys
    exact hkeys
  · change Function.update a.keys issued.id _ wanted = (apiKey? { db with apiKeys } tenantId wanted).map _
    rw [hkey, Function.update_apply]
    by_cases hsame : wanted = issued.id
    · rw [if_pos hsame, if_pos ⟨rfl, hsame.symm⟩, ← hrole]
      rfl
    · rw [if_neg hsame, if_neg fun hboth => hsame hboth.2.symm]
      exact ha.keys wanted
  · change a.keys wanted = (apiKey? { db with apiKeys } tenantId' wanted).map _
    rw [hkey, if_neg fun hboth => hother hboth.1]
    exact ha.keys wanted

/-- `revoke_api_key` records the revocation of a key that was not revoked, and nothing else. -/
theorem trailed_revokeApiKey (h : Trailed db) (draw : IdentityDraw) (tenantId apiKeyId actor : String) :
    Trailed (revokeApiKey db draw tenantId apiKeyId actor).1 := by
  obtain ⟨heq, -⟩ | ⟨row, hrow, rfl, rfl, ⟨-, heq⟩ | ⟨hlive, heq⟩⟩ :=
    revokeApiKey_cases db draw tenantId apiKeyId actor
  · rw [heq]
    exact h
  · rw [heq]
    exact h
  · rw [heq]
    have hstamped := apiKey?_stampApiKey db row.id draw.now
    have hfound := apiKey?_of_mem hrow
    refine h.record (c := .keyRevoked row.id) rfl rfl
      (fun a ha => ⟨⟨row.role, row.scopes, ?_⟩, ha.status, ha.members, fun wanted => ?_, ha.sessions⟩)
      fun tenantId' a hother ha => ⟨ha.status, ha.members, fun wanted => ?_, ha.sessions⟩
    · have hkeys := ha.keys row.id
      rw [show apiKey? db _ row.id = some row from hfound, Option.map_some, hlive] at hkeys
      exact hkeys
    · change Function.update a.keys row.id _ wanted =
        (apiKey? (stampApiKey db row.id draw.now) row.tenantId wanted).map _
      rw [hstamped, Function.update_apply]
      by_cases hsame : wanted = row.id
      · have hkeys := ha.keys row.id
        rw [show apiKey? db _ row.id = some row from hfound] at hkeys
        rw [if_pos hsame, hsame, hkeys, hfound, Option.map_some, Option.map_some, Option.map_some, if_pos rfl]
        rfl
      · rw [if_neg hsame, ha.keys wanted]
        simp [Ne.symm hsame]
    · change a.keys wanted = (apiKey? (stampApiKey db row.id draw.now) tenantId' wanted).map _
      rw [hstamped, ha.keys wanted]
      by_cases hsame : row.id = wanted
      · -- The key with this id belongs to the other tenant.
        have hnone : apiKey? db tenantId' wanted = none := by
          by_contra hsome
          obtain ⟨other, hother'⟩ := Option.ne_none_iff_exists'.mp hsome
          obtain ⟨hmem, htenant, hid⟩ := apiKey?_eq_some hother'
          exact hother (apiKey_eq_of_id hmem hrow (hid.trans hsame.symm) ▸ htenant)
        rw [hnone]
        rfl
      · simp [hsame]

/-! ### User sessions -/

/-- An update that keeps id, tenant and revocation of each session. -/
theorem Reconstructed.touch {tenantId : String} {a : Authority} (h : Reconstructed db tenantId a)
    (sessionId : String) (now : Instant) : Reconstructed (touchSession db sessionId now) tenantId a := by
  refine ⟨h.status, h.members, h.keys, fun row' hrow' htenant => ?_⟩
  obtain ⟨row, hrow, rfl⟩ := List.mem_map.mp hrow'
  have hold := h.sessions row hrow
  by_cases hsame : row.id = sessionId
  · rw [if_pos (decide_eq_true hsame)] at htenant ⊢
    exact hold htenant
  · rw [if_neg (by simpa using hsame)] at htenant ⊢
    exact hold htenant

/-- `issue_user_session` records the session. -/
theorem trailed_issueUserSession (h : Trailed db) {identityClientId tenantId userId actor : String} {ttlSeconds : ℤ}
    {requestId : Option String} {issued : IssuedUserSession}
    (hop : issueUserSession lib db draw identityClientId tenantId userId ttlSeconds actor requestId =
      .ok (db', issued)) : Trailed db' := by
  obtain ⟨-, -, -, -, hissued, userSessions, hinsert, rfl⟩ := issueUserSession_eq_ok hop
  have htenant : issued.tenantId = tenantId := by rw [hissued]
  obtain ⟨hrows, hfree⟩ := Table.insert_eq_some hinsert
  refine h.record (c := .sessionIssued issued.id) rfl rfl
    (fun a ha => ⟨trivial, ha.status, ha.members, ha.keys, fun row hrow hown => ?_⟩)
    fun tenantId' a hother ha => ⟨ha.status, ha.members, ha.keys, fun row hrow hown => ?_⟩
  · change row ∈ userSessions.rows at hrow
    rw [hrows] at hrow
    change Function.update a.sessions issued.id (some false) row.id = _
    rcases List.mem_append.mp hrow with hold | hnew
    · have hdiffer : row.id ≠ issued.id := fun hsame => hfree row hold (Or.inl hsame)
      rw [Function.update_of_ne hdiffer]
      exact ha.sessions row hold hown
    · rw [List.mem_singleton.mp hnew]
      exact Function.update_self ..
  · change row ∈ userSessions.rows at hrow
    rw [hrows] at hrow
    rcases List.mem_append.mp hrow with hold | hnew
    · exact ha.sessions row hold hown
    · rw [List.mem_singleton.mp hnew] at hown
      exact absurd (htenant.symm.trans hown) hother

/-- `revoke_user_session` records the revocation of a session that was not revoked, and nothing else. -/
theorem trailed_revokeUserSession (h : Trailed db) (draw : IdentityDraw) (tenantId sessionId actor : String)
    (requestId : Option String) : Trailed (revokeUserSession db draw tenantId sessionId actor requestId).1 := by
  obtain ⟨heq, -⟩ | ⟨row, hrow, rfl, rfl, ⟨-, heq⟩ | ⟨hlive, heq⟩⟩ :=
    revokeUserSession_cases db draw tenantId sessionId actor requestId
  · rw [heq]
    exact h
  · rw [heq]
    exact h
  · rw [heq]
    refine h.record (c := .sessionRevoked row.id) rfl rfl
      (fun a ha => ⟨?_, ha.status, ha.members, ha.keys, fun row' hrow' hown => ?_⟩)
      fun tenantId' a hother ha => ⟨ha.status, ha.members, ha.keys, fun row' hrow' hown => ?_⟩
    · have hsession := ha.sessions row hrow rfl
      rw [hlive] at hsession
      exact hsession
    · obtain ⟨old, hold, rfl⟩ := List.mem_map.mp hrow'
      change Function.update a.sessions row.id (some true) _ = _
      by_cases hsame : old.id = row.id
      · rw [if_pos (decide_eq_true hsame)] at hown ⊢
        change Function.update a.sessions row.id (some true) old.id = some true
        rw [hsame]
        exact Function.update_self ..
      · rw [if_neg (by simpa using hsame)] at hown ⊢
        rw [Function.update_of_ne hsame]
        exact ha.sessions old hold hown
    · obtain ⟨old, hold, rfl⟩ := List.mem_map.mp hrow'
      by_cases hsame : old.id = row.id
      · rw [if_pos (decide_eq_true hsame)] at hown
        exact absurd (session_eq_of_id hold hrow hsame ▸ hown) hother
      · rw [if_neg (by simpa using hsame)] at hown ⊢
        exact ha.sessions old hold hown

/-- Deleting sessions leaves the others reconstructed. -/
theorem Reconstructed.delete {tenantId : String} {a : Authority} (h : Reconstructed db tenantId a)
    (dropped : UserSessionRow → Bool) :
    Reconstructed { db with userSessions := db.userSessions.delete dropped } tenantId a :=
  ⟨h.status, h.members, h.keys, fun row hrow => h.sessions row (List.mem_of_mem_filter hrow)⟩

/-! ### All operations -/

/-- Authentication events are recorded with the action of an exchange, as by its callers. -/
def RecordsExchanges : IdentityCall → Prop
  | .recordAuthEvent _ _ action _ _ _ => action = "auth.exchange"
  | _ => True

/-- Rows and events of a tenant that no operation of its authority touches. -/
theorem Trailed.untouched (h : Trailed db) (hevents : db'.auditEvents = db.auditEvents)
    (htenants : db'.tenants = db.tenants) (hmemberships : db'.memberships = db.memberships)
    (hkeys : db'.apiKeys = db.apiKeys) (hsessions : db'.userSessions = db.userSessions) : Trailed db' := by
  refine h.quiet (fun tenantId => by rw [hevents]) fun tenantId a ha => ⟨?_, ?_, ?_, ?_⟩
  · have hstatus := ha.status
    rw [tenant?, ← htenants] at hstatus
    exact hstatus
  · have hmembers := ha.members
    simp only [membership?, ← hmemberships] at hmembers
    exact hmembers
  · have hkeyRows := ha.keys
    simp only [apiKey?, ← hkeys] at hkeyRows
    exact hkeyRows
  · rw [hsessions]
    exact ha.sessions

/-- Every operation that succeeds records its change. -/
theorem Trailed.perform (h : Trailed db) {call : IdentityCall} {result : IdentityResult}
    (hrecords : RecordsExchanges call) (hperform : Identity.perform lib db draw call = .ok (db', result)) :
    Trailed db' := by
  cases call with
  | createTenant =>
    obtain ⟨_, hop, rfl⟩ := answer_eq_ok.mp hperform
    exact trailed_createTenant h hop
  | setTenantStatus =>
    obtain ⟨_, hop, rfl⟩ := answer_eq_ok.mp hperform
    exact trailed_setTenantStatus h hop
  | upsertUser =>
    obtain ⟨_, hop, rfl⟩ := answer_eq_ok.mp hperform
    obtain ⟨users, rfl⟩ := upsertUser_eq_ok hop
    exact h.untouched rfl rfl rfl rfl rfl
  | setMembership =>
    obtain ⟨_, hop, rfl⟩ := answer_eq_ok.mp hperform
    exact trailed_setMembership h hop
  | setMembershipStatus =>
    obtain ⟨_, hop, rfl⟩ := answer_eq_ok.mp hperform
    exact trailed_setMembershipStatus h hop
  | getMembership =>
    obtain ⟨_, hop, rfl⟩ := answer_eq_ok.mp hperform
    cases hop
    exact h
  | recordAuthEvent tenantId actor action =>
    obtain ⟨_, hop, rfl⟩ := answer_eq_ok.mp hperform
    obtain ⟨-, rfl⟩ | ⟨-, -, rfl⟩ := recordAuthEvent_eq_ok hop
    · exact h
    · change action = "auth.exchange" at hrecords
      subst hrecords
      exact h.quiet (fun tenantId => authorityTrail_quiet _ rfl tenantId) fun tenantId a ha =>
        ⟨ha.status, ha.members, ha.keys, ha.sessions⟩
  | issueApiKey =>
    obtain ⟨_, hop, rfl⟩ := answer_eq_ok.mp hperform
    exact trailed_issueApiKey h hop
  | authenticateApiKey =>
    obtain ⟨_, hop, rfl⟩ := answer_eq_ok.mp hperform
    cases hop
    exact h
  | listApiKeys tenantId includeRevoked =>
    obtain ⟨_, hop, rfl⟩ := answer_eq_ok.mp hperform
    cases read_eq_ok hop
    exact h
  | revokeApiKey tenantId apiKeyId actor =>
    obtain ⟨_, hop, rfl⟩ := answer_eq_ok.mp hperform
    have hdb := congrArg Prod.fst (Except.ok.inj hop)
    change _ = db' at hdb
    rw [← hdb]
    exact trailed_revokeApiKey h draw tenantId apiKeyId actor
  | issueIdentityClient =>
    obtain ⟨_, hop, rfl⟩ := answer_eq_ok.mp hperform
    obtain ⟨_, -, hadd⟩ := issueIdentityClient_eq_ok hop
    obtain ⟨_, -, -, rfl⟩ := addIdentityClient_eq_ok hadd
    exact h.untouched rfl rfl rfl rfl rfl
  | listIdentityClients =>
    obtain ⟨_, hop, rfl⟩ := answer_eq_ok.mp hperform
    cases hop
    exact h
  | rotateIdentityClient =>
    obtain ⟨_, hop, rfl⟩ := answer_eq_ok.mp hperform
    obtain ⟨_, -, -, -, hadd⟩ := rotateIdentityClient_eq_ok hop
    obtain ⟨_, -, -, rfl⟩ := addIdentityClient_eq_ok hadd
    exact h.untouched rfl rfl rfl rfl rfl
  | authenticateIdentityClient token issuer =>
    obtain ⟨_, hop, rfl⟩ := answer_eq_ok.mp hperform
    have hdb := congrArg Prod.fst (Except.ok.inj hop)
    change _ = db' at hdb
    rw [← hdb]
    obtain ⟨-, heq⟩ | ⟨_, -, heq⟩ := authenticateIdentityClient_cases lib db draw.now token issuer
    · rw [heq]
      exact h
    · rw [heq]
      exact h.untouched rfl rfl rfl rfl rfl
  | revokeIdentityClient identityClientId =>
    obtain ⟨_, hop, rfl⟩ := answer_eq_ok.mp hperform
    have hdb := congrArg Prod.fst (Except.ok.inj hop)
    change _ = db' at hdb
    rw [← hdb]
    obtain ⟨-, heq⟩ | ⟨_, -, ⟨-, heq⟩ | ⟨-, heq⟩⟩ := revokeIdentityClient_cases db draw identityClientId
    · rw [heq]
      exact h
    · rw [heq]
      exact h
    · rw [heq]
      exact h.untouched rfl rfl rfl rfl rfl
  | issueUserSession =>
    obtain ⟨_, hop, rfl⟩ := answer_eq_ok.mp hperform
    exact trailed_issueUserSession h hop
  | authenticateUserSession token =>
    obtain ⟨_, hop, rfl⟩ := answer_eq_ok.mp hperform
    have hdb := congrArg Prod.fst (Except.ok.inj hop)
    change _ = db' at hdb
    rw [← hdb]
    obtain heq | ⟨principal, heq⟩ := authenticateUserSession_cases lib db draw.now token
    · rw [heq]
      exact h
    · rw [heq]
      exact h.quiet (fun _ => rfl) fun _ _ ha => ha.touch principal.sessionId draw.now
  | revokeUserSession tenantId sessionId actor requestId =>
    obtain ⟨_, hop, rfl⟩ := answer_eq_ok.mp hperform
    have hdb := congrArg Prod.fst (Except.ok.inj hop)
    change _ = db' at hdb
    rw [← hdb]
    exact trailed_revokeUserSession h draw tenantId sessionId actor requestId
  | cleanupExpiredUserSessions =>
    obtain ⟨_, hop, rfl⟩ := answer_eq_ok.mp hperform
    obtain ⟨_, -, rfl⟩ := cleanupExpiredUserSessions_eq_ok hop
    exact h.quiet (fun _ => rfl) fun _ _ ha => ha.delete _

/-- An operation that returns `False` does nothing. -/
theorem perform_false {call : IdentityCall} (h : perform lib db draw call = .ok (db', .flag false)) : db' = db := by
  cases call with
  | recordAuthEvent =>
    obtain ⟨answer, hop, hflag⟩ := answer_eq_ok.mp h
    cases hflag
    obtain ⟨-, hsame⟩ | ⟨htrue, -⟩ := recordAuthEvent_eq_ok hop
    · exact hsame
    · cases htrue
  | revokeApiKey tenantId apiKeyId actor =>
    obtain ⟨answer, hop, hflag⟩ := answer_eq_ok.mp h
    cases hflag
    obtain ⟨heq, -⟩ | ⟨_, -, -, -, ⟨-, heq⟩ | ⟨-, heq⟩⟩ := revokeApiKey_cases db draw tenantId apiKeyId actor
    all_goals cases heq.symm.trans (Except.ok.inj hop)
    rfl
  | revokeIdentityClient identityClientId =>
    obtain ⟨answer, hop, hflag⟩ := answer_eq_ok.mp h
    cases hflag
    obtain ⟨-, heq⟩ | ⟨_, -, ⟨-, heq⟩ | ⟨-, heq⟩⟩ := revokeIdentityClient_cases db draw identityClientId
    all_goals cases heq.symm.trans (Except.ok.inj hop)
    rfl
  | revokeUserSession tenantId sessionId actor requestId =>
    obtain ⟨answer, hop, hflag⟩ := answer_eq_ok.mp h
    cases hflag
    obtain ⟨heq, -⟩ | ⟨_, -, -, -, ⟨-, heq⟩ | ⟨-, heq⟩⟩ :=
      revokeUserSession_cases db draw tenantId sessionId actor requestId
    all_goals cases heq.symm.trans (Except.ok.inj hop)
    rfl
  | _ =>
    obtain ⟨_, -, hflag⟩ := answer_eq_ok.mp h
    cases hflag

/-- Revoking an API key again does nothing. -/
theorem revokeApiKey_again {row : ApiKeyRow} (hrow : row ∈ db.apiKeys.rows) (hrevoked : row.revokedAt ≠ none)
    (draw : IdentityDraw) (actor : String) : revokeApiKey db draw row.tenantId row.id actor = (db, true) := by
  obtain ⟨-, hnone⟩ | ⟨other, hother, htenant, hid, ⟨-, heq⟩ | ⟨hlive, -⟩⟩ :=
    revokeApiKey_cases db draw row.tenantId row.id actor
  · exact absurd rfl (hnone row hrow rfl)
  · exact heq
  · exact absurd (apiKey_eq_of_id hother hrow hid ▸ hlive) hrevoked

/-- Revoking a user session again does nothing. -/
theorem revokeUserSession_again {row : UserSessionRow} (hrow : row ∈ db.userSessions.rows)
    (hrevoked : row.revokedAt ≠ none) (draw : IdentityDraw) (actor : String) (requestId : Option String) :
    revokeUserSession db draw row.tenantId row.id actor requestId = (db, true) := by
  obtain ⟨-, hnone⟩ | ⟨other, hother, htenant, hid, ⟨-, heq⟩ | ⟨hlive, -⟩⟩ :=
    revokeUserSession_cases db draw row.tenantId row.id actor requestId
  · exact absurd rfl (hnone row hrow rfl)
  · exact heq
  · exact absurd (session_eq_of_id hother hrow hid ▸ hlive) hrevoked

/-- After every sequence of operations the trail is faithful and reconstructs the authority. -/
theorem runCalls_trailed (lib : SecretLibrary) {calls : List (IdentityDraw × IdentityCall)}
    (hrecords : ∀ made ∈ calls, RecordsExchanges made.2) : Trailed (runCalls lib calls).1 := by
  refine List.foldlRecOn calls _ (motive := fun run : IdentityDatabase × List Entry => Trailed run.1) ?_ ?_
  · exact trailed_empty
  · intro run htrailed made hmade
    simp only [afterCall]
    split
    · next db' result h => exact htrailed.perform (hrecords made hmade) h
    · exact htrailed

/-- The identity audit trail reconstructs the authorization state. -/
theorem trail_reconstructs_authority (lib : SecretLibrary) {calls : List (IdentityDraw × IdentityCall)}
    (hrecords : ∀ made ∈ calls, RecordsExchanges made.2) :
    Trailed (runCalls lib calls).1 ∧
    (∀ made e, perform lib (runCalls lib calls).1 made.1 made.2 = .error e →
      afterCall lib (runCalls lib calls).1 made = (runCalls lib calls).1) ∧
    (∀ draw call db', perform lib (runCalls lib calls).1 draw call = .ok (db', .flag false) →
      db' = (runCalls lib calls).1) ∧
    (∀ row ∈ (runCalls lib calls).1.apiKeys.rows, row.revokedAt ≠ none → ∀ draw actor,
      revokeApiKey (runCalls lib calls).1 draw row.tenantId row.id actor = ((runCalls lib calls).1, true)) ∧
    ∀ row ∈ (runCalls lib calls).1.userSessions.rows, row.revokedAt ≠ none → ∀ draw actor requestId,
      revokeUserSession (runCalls lib calls).1 draw row.tenantId row.id actor requestId =
        ((runCalls lib calls).1, true) := by
  refine ⟨runCalls_trailed lib hrecords, fun made e herror => ?_, fun draw call db' => perform_false,
    fun row hrow hrevoked draw actor => revokeApiKey_again hrow hrevoked draw actor,
    fun row hrow hrevoked draw actor requestId => revokeUserSession_again hrow hrevoked draw actor requestId⟩
  unfold afterCall
  rw [herror]

/-- A member whose role changes while it is suspended, and an API key that is revoked twice. -/
def suspendedPromotion : List (IdentityDraw × IdentityCall) :=
  [(Exchange.letterDraw 0 "1" 'a', .createTenant "tenant-a" "tenant-a" "Tenant A" 90 "system"),
    (Exchange.letterDraw 1 "2" 'b', .upsertUser "https://idp" "u" none none),
    (Exchange.letterDraw 2 "3" 'c', .setMembership "tenant-a" "usr_2" "analyst" "system"),
    (Exchange.letterDraw 3 "4" 'd', .setMembershipStatus "tenant-a" "usr_2" "suspended" "system"),
    (Exchange.letterDraw 4 "5" 'e', .setMembership "tenant-a" "usr_2" "admin" "system"),
    (Exchange.letterDraw 5 "6" 'f', .issueApiKey "tenant-a" "viewer" ["read"] none "system"),
    (Exchange.letterDraw 6 "7" 'g', .revokeApiKey "tenant-a" "key_6" "system"),
    (Exchange.letterDraw 7 "8" 'h', .revokeApiKey "tenant-a" "key_6" "system")]

set_option maxRecDepth 8000 in
/-- The rows that these calls leave. -/
theorem suspendedPromotion_rows :
    ((membership? (runCalls Exchange.plainDigests suspendedPromotion).1 "tenant-a" "usr_2").map fun row =>
      (row.role, row.status)) = some ("admin", "suspended") ∧
    ((apiKey? (runCalls Exchange.plainDigests suspendedPromotion).1 "tenant-a" "key_6").map fun row =>
      (row.role, row.scopes, row.revokedAt.isSome)) = some ("viewer", ["read"], true) ∧
    (authorityTrail (runCalls Exchange.plainDigests suspendedPromotion).1.auditEvents "tenant-a").length = 6 := by
  decide +kernel

/-- The theorem applies to these calls: six events tell the role, the suspension and the revocation. -/
theorem trail_reconstructs_authority_suspendedPromotion :
    (authorityTrail (runCalls Exchange.plainDigests suspendedPromotion).1.auditEvents "tenant-a").length = 6 ∧
    (Authority.reader.replay .initial
      (authorityTrail (runCalls Exchange.plainDigests suspendedPromotion).1.auditEvents "tenant-a")).members "usr_2" =
        some ("admin", "suspended") ∧
    (Authority.reader.replay .initial
      (authorityTrail (runCalls Exchange.plainDigests suspendedPromotion).1.auditEvents "tenant-a")).keys "key_6" =
        some ("viewer", ["read"], true) := by
  obtain ⟨hmember, hkey, hlength⟩ := suspendedPromotion_rows
  have hrecords : ∀ made ∈ suspendedPromotion, RecordsExchanges made.2 := by
    unfold suspendedPromotion
    simp [RecordsExchanges]
  obtain ⟨hreconstructed, -⟩ := (trail_reconstructs_authority Exchange.plainDigests hrecords).1 "tenant-a"
  exact ⟨hlength, (hreconstructed.members "usr_2").trans hmember, (hreconstructed.keys "key_6").trans hkey⟩

end Identity

end SharedIntegration

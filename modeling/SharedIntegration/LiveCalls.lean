import SharedIntegration.CallIsolation
import SharedIntegration.IdentityCalls

/-!
# Calls on the shared database

The job repository, the finding registry and the identity repository work on one database. What a call of any
of them does to the tenants, and what keeps findings grounded: row ids from the sequence, and tenants that exist.
-/

namespace SharedIntegration

open Relational FindingLifecycle

/-- One call of a repository on the shared database. -/
inductive LiveCall
  | identity (draw : IdentityDraw) (call : IdentityCall)
  | store (m : Moment) (call : StoreCall)

namespace LiveCall

variable (lib : SecretLibrary) (core : CoreLibrary) (text : TextLibrary)

/-- The database after a call. -/
def perform (db : IdentityDatabase) : LiveCall → IdentityDatabase
  | .identity draw call => Identity.afterCall lib db (draw, call)
  | .store m call => { db with toDatabase := (call.perform core text db.toDatabase m).1 }

/-- The database after calls that are performed one after another. -/
def performAll (db : IdentityDatabase) (calls : List LiveCall) : IdentityDatabase :=
  calls.foldl (perform lib core text) db

/-- A property that every call keeps holds after any list of calls. -/
theorem performAll_invariant {lib : SecretLibrary} {core : CoreLibrary} {text : TextLibrary}
    (Inv : IdentityDatabase → Prop) (hstep : ∀ db call, Inv db → Inv (perform lib core text db call))
    {db : IdentityDatabase} (hdb : Inv db) (calls : List LiveCall) : Inv (performAll lib core text db calls) := by
  induction calls generalizing db with
  | nil => exact hdb
  | cons call rest ih => exact ih (hstep db call hdb)

end LiveCall

/-- `_ensure_tenant` keeps the tenants, and the tenant exists afterwards. -/
theorem ensureTenant_eq_some {tenants tenants' : Table TenantRow TenantRow.Conflict} {tenantId : String}
    {now : Instant} (h : SqlJobs.ensureTenant tenants tenantId now = some tenants') :
    (∀ row ∈ tenants.rows, row ∈ tenants'.rows) ∧ ∃ row ∈ tenants'.rows, row.id = tenantId := by
  rcases SqlJobs.ensureTenant_cases h with ⟨hstored, rfl⟩ | ⟨-, hinsert⟩
  · exact ⟨fun _ hrow => hrow, hstored⟩
  · rw [(Table.insert_eq_some hinsert).1]
    exact ⟨fun _ hrow => List.mem_append_left _ hrow, _, List.mem_append_right _ List.mem_cons_self, rfl⟩

/-- Jobs, findings and correlations are the same. -/
structure SameStores (db db' : Database) : Prop where
  jobTables : db'.jobTables = db.jobTables
  findings : db'.findings = db.findings
  findingSequence : db'.findingSequence = db.findingSequence
  correlations : db'.correlations = db.correlations
  correlationFindings : db'.correlationFindings = db.correlationFindings

/-- Nothing has changed. -/
theorem SameStores.refl (db : Database) : SameStores db db := ⟨rfl, rfl, rfl, rfl, rfl⟩

namespace Identity

variable {lib : SecretLibrary} {db db' : IdentityDatabase} {draw : IdentityDraw} {call : IdentityCall}
  {result : IdentityResult}

/-- An identity operation leaves jobs, findings and correlations alone. -/
theorem perform_sameStores (h : perform lib db draw call = .ok (db', result)) :
    SameStores db.toDatabase db'.toDatabase := by
  cases call with
  | createTenant =>
    obtain ⟨_, hop, rfl⟩ := answer_eq_ok.mp h
    obtain ⟨_, -, -, rfl⟩ := createTenant_eq_ok hop
    exact ⟨rfl, rfl, rfl, rfl, rfl⟩
  | setTenantStatus =>
    obtain ⟨_, hop, rfl⟩ := answer_eq_ok.mp h
    obtain ⟨_, -, -, rfl⟩ := setTenantStatus_eq_ok hop
    exact ⟨rfl, rfl, rfl, rfl, rfl⟩
  | upsertUser =>
    obtain ⟨_, hop, rfl⟩ := answer_eq_ok.mp h
    obtain ⟨_, rfl⟩ := upsertUser_eq_ok hop
    exact SameStores.refl _
  | setMembership =>
    obtain ⟨_, hop, rfl⟩ := answer_eq_ok.mp h
    obtain ⟨-, _, -, rfl⟩ := setMembership_eq_ok hop
    exact ⟨rfl, rfl, rfl, rfl, rfl⟩
  | setMembershipStatus =>
    obtain ⟨_, hop, rfl⟩ := answer_eq_ok.mp h
    obtain ⟨_, -, -, rfl⟩ := setMembershipStatus_eq_ok hop
    exact ⟨rfl, rfl, rfl, rfl, rfl⟩
  | recordAuthEvent =>
    obtain ⟨_, hop, rfl⟩ := answer_eq_ok.mp h
    obtain ⟨-, rfl⟩ | ⟨-, -, rfl⟩ := recordAuthEvent_eq_ok hop
    · exact SameStores.refl _
    · exact ⟨rfl, rfl, rfl, rfl, rfl⟩
  | issueApiKey =>
    obtain ⟨_, hop, rfl⟩ := answer_eq_ok.mp h
    obtain ⟨_, -, -, -, -, -, -, -, -, rfl⟩ := issueApiKey_eq_ok hop
    exact ⟨rfl, rfl, rfl, rfl, rfl⟩
  | listApiKeys tenantId includeRevoked =>
    obtain ⟨_, hop, rfl⟩ := answer_eq_ok.mp h
    cases read_eq_ok hop
    exact SameStores.refl _
  | revokeApiKey tenantId apiKeyId actor =>
    obtain ⟨_, hop, rfl⟩ := answer_eq_ok.mp h
    obtain ⟨heq, -⟩ | ⟨_, -, -, -, ⟨-, heq⟩ | ⟨-, heq⟩⟩ := revokeApiKey_cases db draw tenantId apiKeyId actor
    all_goals cases heq.symm.trans (Except.ok.inj hop)
    all_goals exact ⟨rfl, rfl, rfl, rfl, rfl⟩
  | issueIdentityClient =>
    obtain ⟨_, hop, rfl⟩ := answer_eq_ok.mp h
    obtain ⟨_, -, hadd⟩ := issueIdentityClient_eq_ok hop
    obtain ⟨_, -, -, rfl⟩ := addIdentityClient_eq_ok hadd
    exact SameStores.refl _
  | rotateIdentityClient =>
    obtain ⟨_, hop, rfl⟩ := answer_eq_ok.mp h
    obtain ⟨_, -, -, -, hadd⟩ := rotateIdentityClient_eq_ok hop
    obtain ⟨_, -, -, rfl⟩ := addIdentityClient_eq_ok hadd
    exact SameStores.refl _
  | authenticateIdentityClient token issuer =>
    obtain ⟨_, hop, rfl⟩ := answer_eq_ok.mp h
    obtain ⟨-, heq⟩ | ⟨_, -, heq⟩ := authenticateIdentityClient_cases lib db draw.now token issuer
    all_goals cases heq.symm.trans (Except.ok.inj hop)
    all_goals exact SameStores.refl _
  | revokeIdentityClient identityClientId =>
    obtain ⟨_, hop, rfl⟩ := answer_eq_ok.mp h
    obtain ⟨-, heq⟩ | ⟨_, -, ⟨-, heq⟩ | ⟨-, heq⟩⟩ := revokeIdentityClient_cases db draw identityClientId
    all_goals cases heq.symm.trans (Except.ok.inj hop)
    all_goals exact SameStores.refl _
  | issueUserSession =>
    obtain ⟨_, hop, rfl⟩ := answer_eq_ok.mp h
    obtain ⟨-, -, -, -, -, _, -, rfl⟩ := issueUserSession_eq_ok hop
    exact ⟨rfl, rfl, rfl, rfl, rfl⟩
  | authenticateUserSession token =>
    obtain ⟨_, hop, rfl⟩ := answer_eq_ok.mp h
    obtain heq | ⟨_, heq⟩ := authenticateUserSession_cases lib db draw.now token
    all_goals cases heq.symm.trans (Except.ok.inj hop)
    all_goals exact SameStores.refl _
  | revokeUserSession tenantId sessionId actor requestId =>
    obtain ⟨_, hop, rfl⟩ := answer_eq_ok.mp h
    obtain ⟨heq, -⟩ | ⟨_, -, -, -, ⟨-, heq⟩ | ⟨-, heq⟩⟩ :=
      revokeUserSession_cases db draw tenantId sessionId actor requestId
    all_goals cases heq.symm.trans (Except.ok.inj hop)
    all_goals exact ⟨rfl, rfl, rfl, rfl, rfl⟩
  | cleanupExpiredUserSessions =>
    obtain ⟨_, hop, rfl⟩ := answer_eq_ok.mp h
    obtain ⟨_, -, rfl⟩ := cleanupExpiredUserSessions_eq_ok hop
    exact SameStores.refl _
  | getMembership | authenticateApiKey | listIdentityClients =>
    obtain ⟨_, hop, rfl⟩ := answer_eq_ok.mp h
    cases hop
    exact SameStores.refl _

/-- What an identity operation does to the tenants: it changes the status of one, or inserts one that it has
checked. -/
inductive TenantsMove (tenants : Table TenantRow TenantRow.Conflict) : Table TenantRow TenantRow.Conflict → Prop
  | same : TenantsMove tenants tenants
  | status (tenantId status : String) (now : Instant) : TenantsMove tenants
      (tenants.update (fun row => row.id = tenantId) (fun row => { row with status, updatedAt := now })
        ⟨fun _ _ h => h, fun _ _ h => h⟩)
  | created {row : TenantRow} {tenants' : Table TenantRow TenantRow.Conflict} (hid : isIdentifier row.id = true)
    (hslug : isSlug row.slug = true) (hname : PyString.strip row.name ≠ "" ∧ row.name.length ≤ 255)
    (hretention : 1 ≤ row.retentionDays ∧ row.retentionDays ≤ 3650) (hinsert : tenants.insert row = some tenants') :
    TenantsMove tenants tenants'

/-- No tenant disappears, and no id changes. -/
theorem TenantsMove.kept {tenants tenants' : Table TenantRow TenantRow.Conflict} (h : TenantsMove tenants tenants') :
    ∀ row ∈ tenants.rows, ∃ row' ∈ tenants'.rows, row'.id = row.id := by
  intro row hrow
  cases h with
  | same => exact ⟨row, hrow, rfl⟩
  | status tenantId status now =>
    refine ⟨_, List.mem_map_of_mem hrow, ?_⟩
    split <;> rfl
  | created _ _ _ _ hinsert => exact ⟨row, (Table.insert_eq_some hinsert).1 ▸ List.mem_append_left _ hrow, rfl⟩

/-- What `create_tenant` has checked. -/
theorem createTenant_checked {tenantId slug name actor : String} {days : ℤ} {row : TenantRow}
    (h : createTenant db draw tenantId slug name days actor = .ok (db', row)) :
    isIdentifier row.id = true ∧ isSlug row.slug = true ∧
      (PyString.strip row.name ≠ "" ∧ row.name.length ≤ 255) ∧ 1 ≤ row.retentionDays ∧ row.retentionDays ≤ 3650 := by
  simp only [createTenant, validateIdentifier, normalizeClientName, Fallible.bind_eq_ok, require_eq_ok, found_eq_ok,
    pure, Except.pure, Except.ok.injEq, Prod.mk.injEq] at h
  obtain ⟨_, hid, _, hslug, _, ⟨_, hname, rfl⟩, _, hdays, tenants, hinsert, rfl, rfl⟩ := h
  have hstripped : PyString.strip (PyString.strip name) ≠ "" := by
    rw [PyString.strip_strip]
    exact hname.1
  refine ⟨hid, hslug, ⟨hstripped, hname.2⟩, ?_, ?_⟩
  · change 1 ≤ days.toNat
    omega
  · change days.toNat ≤ 3650
    omega

/-- An identity operation moves the tenants so. -/
theorem perform_tenants (h : perform lib db draw call = .ok (db', result)) : TenantsMove db.tenants db'.tenants := by
  by_cases hpart : part call = some .tenants
  · cases call with
    | createTenant =>
      obtain ⟨_, hop, rfl⟩ := answer_eq_ok.mp h
      obtain ⟨hid, hslug, hname, hretention⟩ := createTenant_checked hop
      obtain ⟨_, hinsert, -, rfl⟩ := createTenant_eq_ok hop
      exact TenantsMove.created hid hslug hname hretention hinsert
    | setTenantStatus =>
      obtain ⟨_, hop, rfl⟩ := answer_eq_ok.mp h
      obtain ⟨_, -, -, rfl⟩ := setTenantStatus_eq_ok hop
      exact TenantsMove.status _ _ _
    | _ => cases hpart
  · rw [(perform_frame h).tenants hpart]
    exact TenantsMove.same

end Identity

end SharedIntegration

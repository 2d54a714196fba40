import SharedIntegration.IdentityHistory

/-!
# Credentials are valid exactly as their history says

A session token, an API key or an identity-client key is accepted exactly if it was issued, has
not expired, and nothing that came after its issue revoked it or what it depends on.
-/

namespace SharedIntegration

open Relational PyString

namespace Identity

/-- The history makes the session token stand for the principal at this time. -/
structure GrantsSession (history : List Entry) (now : Instant) (token : String) (p : UserSessionPrincipal) :
    Prop where
  issued : ∃ before draw ttl actor requestId issued after,
    history = before ++ ⟨draw, .issueUserSession p.identityClientId p.tenantId p.userId ttl actor requestId,
      .ok (.sessionIssued issued)⟩ :: after ∧
    issued.token = token ∧ issued.id = p.sessionId ∧ ttl ≤ 15 * 60 ∧ now < draw.now + ttl * PyTime.second ∧
    (∀ entry ∈ after, entry.revokesSession issued = false) ∧
    (∀ entry ∈ after, entry.revokesClient p.identityClientId = false) ∧
    (∀ entry ∈ after, entry.deletesSession issued = false)
  tenant : latest (Entry.tenantStatus p.tenantId) history = some "active"
  member : standing p.tenantId p.userId history = some (p.role, "active")

/-- The history makes the API key stand for the principal at this time. -/
structure GrantsApiKey (history : List Entry) (now : Instant) (token : String) (p : ApiKeyPrincipal) : Prop where
  issued : ∃ before draw scopes expiresAt actor issued after,
    history = before ++ ⟨draw, .issueApiKey p.tenantId p.role scopes expiresAt actor,
      .ok (.apiKeyIssued issued)⟩ :: after ∧
    issued.token = token ∧ issued.id = p.apiKeyId ∧ issued.scopes = p.scopes ∧
    (∀ expiry ∈ issued.expiresAt, now < expiry) ∧ (∀ entry ∈ after, entry.revokesApiKey issued = false)
  tenant : latest (Entry.tenantStatus p.tenantId) history = some "active"

/-- The history makes the key stand for the identity client when it vouches for this issuer. -/
def GrantsClient (history : List Entry) (token : String) (issuer : Option String)
    (p : IdentityClientPrincipal) : Prop :=
  ∃ before entry draw issued after, history = before ++ entry :: after ∧
    entry.client? = some (draw, issued) ∧ issued.token = token ∧
    p = { identityClientId := issued.record.id, name := issued.record.name,
          allowedIssuers := issued.record.allowedIssuers } ∧
    (∀ entry ∈ after, entry.revokesClient issued.record.id = false) ∧
    ∀ text ∈ issuer, strip text ∈ issued.record.allowedIssuers

variable {lib : SecretLibrary} {db : IdentityDatabase} {history : List Entry}

/-- What the answer of a recorded success was computed from. -/
theorem Performed.success (hperformed : Performed lib history) {before after : List Entry} {draw : IdentityDraw}
    {call : IdentityCall} {result : IdentityResult}
    (hsplit : history = before ++ ⟨draw, call, .ok result⟩ :: after) :
    ∃ db db', Summary lib before db ∧ perform lib db draw call = .ok (db', result) := by
  obtain ⟨db, hsummary, houtcome⟩ := hperformed _ _ _ hsplit
  cases hperform : perform lib db draw call with
  | error e =>
    simp only [hperform] at houtcome
    cases houtcome
  | ok success =>
    simp only [hperform] at houtcome
    cases houtcome
    exact ⟨db, success.1, hsummary, hperform⟩

/-- An entry that issues a session is a successful call of `issue_user_session`. -/
theorem eq_of_session? {entry : Entry} {draw : IdentityDraw} {issued : IssuedUserSession}
    (h : entry.session? = some (draw, issued)) :
    ∃ clientId tenantId userId ttl actor requestId, entry =
      ⟨draw, .issueUserSession clientId tenantId userId ttl actor requestId, .ok (.sessionIssued issued)⟩ := by
  obtain ⟨draw', call, outcome⟩ := entry
  unfold Entry.session? at h
  split at h
  · next hcall houtcome =>
    cases h
    subst hcall houtcome
    exact ⟨_, _, _, _, _, _, rfl⟩
  · cases h

/-- An entry that issues an API key is a successful call of `issue_api_key`. -/
theorem eq_of_apiKey? {entry : Entry} {draw : IdentityDraw} {issued : IssuedApiKey}
    (h : entry.apiKey? = some (draw, issued)) :
    ∃ tenantId role scopes expiresAt actor, entry =
      ⟨draw, .issueApiKey tenantId role scopes expiresAt actor, .ok (.apiKeyIssued issued)⟩ := by
  obtain ⟨draw', call, outcome⟩ := entry
  unfold Entry.apiKey? at h
  split at h
  · next hcall houtcome =>
    cases h
    subst hcall houtcome
    exact ⟨_, _, _, _, _, rfl⟩
  · cases h

/-- The status of a tenant is the latest that was set. -/
theorem Summary.tenant_active_iff (hsummary : Summary lib history db) (tenantId : String) :
    (∃ tenant, tenant? db tenantId = some tenant ∧ tenant.status = "active") ↔
      latest (Entry.tenantStatus tenantId) history = some "active" := by
  rw [← hsummary.tenants, Option.map_eq_some_iff]

/-- The membership is the one that the history says. -/
theorem Summary.member_iff (hsummary : Summary lib history db) (tenantId userId role status : String) :
    (∃ row, membership? db tenantId userId = some row ∧ row.role = role ∧ row.status = status) ↔
      standing tenantId userId history = some (role, status) := by
  rw [standing, ← hsummary.roles, Option.map_map, Option.map_eq_some_iff]
  constructor
  · rintro ⟨row, hrow, rfl, rfl⟩
    exact ⟨row, hrow, by simp [hsummary.statuses tenantId userId row hrow]⟩
  · rintro ⟨row, hrow, heq⟩
    rw [Function.comp_apply, ← hsummary.statuses tenantId userId row hrow, Prod.mk.injEq] at heq
    exact ⟨row, hrow, heq⟩

/-- Only valid roles are given to members. -/
theorem Performed.role_mem (hperformed : Performed lib history) {tenantId userId role status : String}
    (h : standing tenantId userId history = some (role, status)) : role ∈ roles := by
  obtain ⟨role', hlatest, heq⟩ := Option.map_eq_some_iff.mp h
  obtain ⟨entry, hentry, hrole⟩ := exists_of_latest hlatest
  obtain ⟨before, after, hsplit⟩ := List.append_of_mem hentry
  obtain ⟨draw, call, outcome⟩ := entry
  unfold Entry.membershipRole at hrole
  split at hrole
  · next hcall houtcome =>
    dsimp only at hcall houtcome
    subst hcall houtcome
    obtain ⟨_, _, -, hperform⟩ := hperformed.success hsplit
    obtain ⟨_, hop, -⟩ := answer_eq_ok.mp hperform
    have hvalid := (setMembership_eq_ok hop).1
    split at hrole
    · cases hrole
      cases heq
      exact hvalid
    · cases hrole
  · cases hrole

/-- A client that was active when an entry was made is active exactly if no later one revoked it. -/
theorem Summary.client_active_iff (hsummary : Summary lib history db) {before after : List Entry} {entry : Entry}
    (hsplit : history = before ++ entry :: after) {db₀ : IdentityDatabase} (hbefore : Summary lib before db₀)
    {client₀ : IdentityClientRow} {identityClientId : String} (hclient : client? db₀ identityClientId = some client₀)
    (hlive : client₀.revokedAt = none) (hquiet : entry.revokesClient identityClientId = false) :
    (∃ client, client? db identityClientId = some client ∧ client.active = true ∧ client.revokedAt = none) ↔
      ∀ later ∈ after, later.revokesClient identityClientId = false := by
  obtain ⟨hmem₀, hid₀⟩ := client?_eq_some hclient
  obtain ⟨item, since, hissued, -, hentered⟩ := clientLedger.exists_of_row hbefore.clients hmem₀
  have hunmarked : clientLedger.marked item since = false := by
    have hflag := congrArg Prod.snd hentered
    simpa [enteredClient, hlive] using hflag.symm
  have hitem : item.2.record.id = identityClientId := by
    have hrow := congrArg (fun entered => entered.1.id) hentered
    exact hrow.symm.trans hid₀
  have hissued' : clientLedger.Issued history item (since ++ entry :: after) := hsplit ▸ hissued.extend _ _
  obtain ⟨row, hrow, hrowEntered⟩ := clientLedger.exists_row hsummary.clients hissued' fun _ _ => rfl
  have hrowId : row.id = identityClientId := (congrArg (fun entered => entered.1.id) hrowEntered).trans hitem
  have hfound : client? db identityClientId = some row := hrowId ▸ client?_of_mem hrow
  have hrevoked : row.revokedAt.isSome = after.any fun later => later.revokesClient identityClientId := by
    have hflag := congrArg Prod.snd hrowEntered
    rw [Ledger.marked, List.any_append, List.any_cons] at hflag
    rw [Ledger.marked] at hunmarked
    rw [hunmarked, Bool.false_or] at hflag
    simp only [clientLedger, hitem, hquiet, Bool.false_or] at hflag
    exact hflag
  have hsound := (hsummary.sound row hrow).1
  rw [hfound]
  constructor
  · rintro ⟨client, hclient, -, hnone⟩
    cases hclient
    rw [hnone] at hrevoked
    simpa using hrevoked
  · intro hnone
    have hrow : row.revokedAt = none := by
      rw [← Option.not_isSome_iff_eq_none, hrevoked]
      simpa using hnone
    exact ⟨row, rfl, by rw [hsound, hrow]; rfl, hrow⟩

/-- What is known of a session that was issued. -/
theorem Performed.session_issued (hperformed : Performed lib history) {before after : List Entry}
    {draw : IdentityDraw} {clientId tenantId userId actor : String} {ttl : ℤ} {requestId : Option String}
    {issued : IssuedUserSession}
    (hsplit : history = before ++ ⟨draw, .issueUserSession clientId tenantId userId ttl actor requestId,
      .ok (.sessionIssued issued)⟩ :: after) :
    ttl ≤ maxSessionTtlSeconds ∧
    issued = ⟨"ses_" ++ draw.uuid, tenantId, userId, clientId, draw.now + ttl * PyTime.second,
      sessionToken draw.urlsafe⟩ ∧
    ∃ db₀ client₀, Summary lib before db₀ ∧ client? db₀ clientId = some client₀ ∧ client₀.revokedAt = none := by
  obtain ⟨db₀, _, hbefore, hperform⟩ := hperformed.success hsplit
  obtain ⟨_, hop, heq⟩ := answer_eq_ok.mp hperform
  cases heq
  obtain ⟨⟨client₀, hclient, -, hlive⟩, -, -, httl, hissued, -⟩ := issueUserSession_eq_ok hop
  exact ⟨httl, hissued, db₀, client₀, hbefore, hclient, hlive⟩

/-- The row of an issued session is accepted exactly if nothing speaks against it. -/
theorem sessionPrincipal_iff_of_split (hsummary : Summary lib history db) (hperformed : Performed lib history)
    {before after : List Entry} {draw : IdentityDraw} {clientId tenantId userId actor : String} {ttl : ℤ}
    {requestId : Option String} {issued : IssuedUserSession}
    (hsplit : history = before ++ ⟨draw, .issueUserSession clientId tenantId userId ttl actor requestId,
      .ok (.sessionIssued issued)⟩ :: after)
    {row : UserSessionRow} (hentered : enteredSession row =
      (storedSession lib draw issued, sessionLedger.marked (draw, issued) after))
    (now : Instant) (p : UserSessionPrincipal) :
    sessionPrincipal db now row = some p ↔
      (clientId = p.identityClientId ∧ tenantId = p.tenantId ∧ userId = p.userId ∧ issued.id = p.sessionId) ∧
      now < draw.now + ttl * PyTime.second ∧ (∀ entry ∈ after, entry.revokesSession issued = false) ∧
      (∀ entry ∈ after, entry.revokesClient clientId = false) ∧
      latest (Entry.tenantStatus tenantId) history = some "active" ∧
      standing tenantId userId history = some (p.role, "active") := by
  obtain ⟨-, hissued, db₀, client₀, hbefore, hclient, hlive⟩ := hperformed.session_issued hsplit
  have hid : row.id = issued.id := congrArg (fun entered => entered.1.id) hentered
  have htenant : row.tenantId = tenantId := by
    have h : row.tenantId = issued.tenantId := congrArg (fun entered => entered.1.tenantId) hentered
    rw [h, hissued]
  have huser : row.userId = userId := by
    have h : row.userId = issued.userId := congrArg (fun entered => entered.1.userId) hentered
    rw [h, hissued]
  have hclientId : row.identityClientId = clientId := by
    have h : row.identityClientId = issued.identityClientId :=
      congrArg (fun entered => entered.1.identityClientId) hentered
    rw [h, hissued]
  have hexpires : row.expiresAt = draw.now + ttl * PyTime.second := by
    have h : row.expiresAt = issued.expiresAt := congrArg (fun entered => entered.1.expiresAt) hentered
    rw [h, hissued]
  have hrevoked : row.revokedAt = none ↔ ∀ entry ∈ after, entry.revokesSession issued = false := by
    have hflag : row.revokedAt.isSome = after.any fun entry => entry.revokesSession issued :=
      congrArg Prod.snd hentered
    rw [← Option.not_isSome_iff_eq_none, hflag]
    simp
  have hactive := hsummary.client_active_iff hsplit hbefore hclient hlive rfl
  rw [sessionPrincipal_eq_some, hclientId, htenant, huser, hexpires, hid, hrevoked, hactive,
    hsummary.tenant_active_iff, hsummary.member_iff]
  constructor
  · rintro ⟨hlive, hnow, hclients, hstatus, -, hmember, hp⟩
    rw [hp]
    exact ⟨⟨rfl, rfl, rfl, rfl⟩, hnow, hlive, hclients, hstatus, hmember⟩
  · rintro ⟨⟨hc, ht, hu, hs⟩, hnow, hlive, hclients, hstatus, hmember⟩
    exact ⟨hlive, hnow, hclients, hstatus, hperformed.role_mem hmember, hmember, by rw [hc, ht, hu, hs]⟩

/-- A session token is accepted exactly if the history grants it. -/
theorem authenticateUserSession_iff (hsummary : Summary lib history db) (hperformed : Performed lib history)
    (now : Instant) (token : String) (p : UserSessionPrincipal) :
    (authenticateUserSession lib db now token).2 = some p ↔ GrantsSession history now token p := by
  rw [authenticateUserSession_snd, Option.bind_eq_some_iff]
  constructor
  · rintro ⟨row, hfound, hprincipal⟩
    obtain ⟨-, hmem, hhash⟩ := sessionOf_eq_some.mp hfound
    obtain ⟨⟨draw, issued⟩, after, ⟨before, entry, hsplit, hissues⟩, hkept, hentered⟩ :=
      sessionLedger.exists_of_row hsummary.sessions hmem
    obtain ⟨clientId, tenantId, userId, ttl, actor, requestId, rfl⟩ := eq_of_session? hissues
    have htoken : issued.token = token := by
      have h : row.tokenHash = hashSessionToken lib issued.token :=
        congrArg (fun entered => entered.1.tokenHash) hentered
      exact lib.sha256_injective (h.symm.trans hhash)
    obtain ⟨⟨rfl, rfl, rfl, hid⟩, hnow, hlive, hclient, htenant, hmember⟩ :=
      (sessionPrincipal_iff_of_split hsummary hperformed hsplit hentered now p).mp hprincipal
    obtain ⟨httl, -, -⟩ := hperformed.session_issued hsplit
    exact ⟨⟨before, draw, ttl, actor, requestId, issued, after, hsplit, htoken, hid, httl, hnow, hlive, hclient,
      hkept⟩, htenant, hmember⟩
  · rintro ⟨⟨before, draw, ttl, actor, requestId, issued, after, hsplit, htoken, hid, -, hnow, hlive, hclient,
      hkept⟩, htenant, hmember⟩
    obtain ⟨row, hmem, hentered⟩ :=
      sessionLedger.exists_row hsummary.sessions ⟨before, _, hsplit, rfl⟩ hkept
    obtain ⟨-, hissued, -⟩ := hperformed.session_issued hsplit
    have hwell : isSessionToken token = true := by
      rw [← htoken, hissued]
      exact isSessionToken_sessionToken draw.urlsafe
    have hhash : row.tokenHash = hashSessionToken lib token := by
      have h : row.tokenHash = hashSessionToken lib issued.token :=
        congrArg (fun entered => entered.1.tokenHash) hentered
      rw [h, htoken]
    exact ⟨row, sessionOf_eq_some.mpr ⟨hwell, hmem, hhash⟩,
      (sessionPrincipal_iff_of_split hsummary hperformed hsplit hentered now p).mpr
        ⟨⟨rfl, rfl, rfl, hid⟩, hnow, hlive, hclient, htenant, hmember⟩⟩

/-- What is known of an API key that was issued. -/
theorem Performed.apiKey_issued (hperformed : Performed lib history) {before after : List Entry}
    {draw : IdentityDraw} {tenantId role actor : String} {scopes : List String} {expiresAt : Option Timestamp}
    {issued : IssuedApiKey}
    (hsplit : history = before ++ ⟨draw, .issueApiKey tenantId role scopes expiresAt actor,
      .ok (.apiKeyIssued issued)⟩ :: after) :
    issued.tenantId = tenantId ∧ issued.role = role ∧ role ∈ roles ∧
      issued.token = joinToken (keyPrefix "igw_" draw.hex) draw.urlsafe.text := by
  obtain ⟨_, _, -, hperform⟩ := hperformed.success hsplit
  obtain ⟨_, hop, heq⟩ := answer_eq_ok.mp hperform
  cases heq
  obtain ⟨_, -, htoken, -, htenant, hrole, hvalid, -⟩ := issueApiKey_eq_ok hop
  exact ⟨htenant, hrole, hvalid, htoken⟩

/-- An API key is accepted exactly if the history grants it. -/
theorem authenticateApiKey_iff (hsummary : Summary lib history db) (hperformed : Performed lib history)
    (now : Instant) (token : String) (p : ApiKeyPrincipal) :
    authenticateApiKey lib db now token = some p ↔ GrantsApiKey history now token p := by
  rw [authenticateApiKey_eq_some]
  constructor
  · rintro ⟨first, secret, row, hparse, hmem, hprefix, hverify, hprincipal⟩
    obtain ⟨⟨draw, issued⟩, after, ⟨before, entry, hsplit, hissues⟩, -, hentered⟩ :=
      apiKeyLedger.exists_of_row hsummary.apiKeys hmem
    obtain ⟨tenantId, role, scopes, expiresAt, actor, rfl⟩ := eq_of_apiKey? hissues
    obtain ⟨htenant, hrole, -, htoken⟩ := hperformed.apiKey_issued hsplit
    obtain ⟨hstatus, hlive, hexpiry, -, rfl⟩ := apiKeyPrincipal_eq_some.mp hprincipal
    have hrow : ({ row with revokedAt := none } : ApiKeyRow) = storedApiKey lib draw issued :=
      congrArg Prod.fst hentered
    have hrowTenant : row.tenantId = tenantId := (congrArg ApiKeyRow.tenantId hrow).trans htenant
    have hrowRole : row.role = role := (congrArg (fun row => row.role) hrow).trans hrole
    have hsecret : secret = draw.urlsafe.text := by
      have hhash : row.secretHash = hashSecret lib draw.salt draw.urlsafe.text :=
        congrArg ApiKeyRow.secretHash hrow
      rw [hhash] at hverify
      exact (verifySecret_hashSecret lib _ _ _).mp hverify
    have hfirst : first = keyPrefix "igw_" draw.hex :=
      hprefix.symm.trans (congrArg (fun row => row.keyPrefix) hrow)
    have hflag : row.revokedAt.isSome = after.any fun entry => entry.revokesApiKey issued :=
      congrArg Prod.snd hentered
    have hkept : ∀ entry ∈ after, entry.revokesApiKey issued = false := by
      rw [hlive] at hflag
      simpa using hflag
    refine ⟨⟨before, draw, scopes, expiresAt, actor, issued, after, ?_, ?_, ?_, ?_, ?_, hkept⟩, ?_⟩
    · rw [hsplit, hrowTenant, hrowRole]
    · rw [htoken, eq_of_parseToken hparse, hfirst, hsecret]
    · exact (congrArg (fun row => row.id) hrow).symm
    · exact (congrArg (fun row => row.scopes) hrow).symm
    · have hrowExpiry : row.expiresAt = issued.expiresAt := congrArg ApiKeyRow.expiresAt hrow
      exact hrowExpiry ▸ hexpiry
    · exact (hsummary.tenant_active_iff _).mp hstatus
  · rintro ⟨⟨before, draw, scopes, expiresAt, actor, issued, after, hsplit, htoken, hid, hscopes, hexpiry, hkept⟩,
      hstatus⟩
    obtain ⟨htenant, hrole, hvalid, hissued⟩ := hperformed.apiKey_issued hsplit
    obtain ⟨row, hmem, hentered⟩ :=
      apiKeyLedger.exists_row hsummary.apiKeys ⟨before, _, hsplit, rfl⟩ fun _ _ => rfl
    have hrow : ({ row with revokedAt := none } : ApiKeyRow) = storedApiKey lib draw issued :=
      congrArg Prod.fst hentered
    have hrowTenant : row.tenantId = p.tenantId := (congrArg ApiKeyRow.tenantId hrow).trans htenant
    have hrowRole : row.role = p.role := (congrArg (fun row => row.role) hrow).trans hrole
    have hrowExpiry : row.expiresAt = issued.expiresAt := congrArg ApiKeyRow.expiresAt hrow
    have hrowScopes : row.scopes = p.scopes := (congrArg (fun row => row.scopes) hrow).trans hscopes
    have hrowId : row.id = p.apiKeyId := (congrArg (fun row => row.id) hrow).trans hid
    have hflag : row.revokedAt.isSome = after.any fun entry => entry.revokesApiKey issued :=
      congrArg Prod.snd hentered
    have hlive : row.revokedAt = none := by
      rw [← Option.not_isSome_iff_eq_none, hflag]
      simpa using hkept
    refine ⟨keyPrefix "igw_" draw.hex, draw.urlsafe.text, row, ?_, hmem, ?_, ?_, ?_⟩
    · rw [← htoken, hissued]
      exact parseToken_joinToken rfl (by decide) draw.hex draw.urlsafe
    · exact congrArg (fun row => row.keyPrefix) hrow
    · have hhash : row.secretHash = hashSecret lib draw.salt draw.urlsafe.text :=
        congrArg ApiKeyRow.secretHash hrow
      rw [hhash]
      exact (verifySecret_hashSecret lib _ _ _).mpr rfl
    · rw [apiKeyPrincipal_eq_some, hrowTenant, hrowRole, hrowExpiry, hrowScopes, hrowId,
        hsummary.tenant_active_iff]
      exact ⟨hstatus, hlive, hexpiry, hvalid, rfl⟩

/-- An entry that issues an identity client has added it, on its own or in place of another. -/
theorem Performed.client_issued (hperformed : Performed lib history) {before after : List Entry} {entry : Entry}
    (hsplit : history = before ++ entry :: after) {draw : IdentityDraw} {issued : IssuedIdentityClient}
    (hissues : entry.client? = some (draw, issued)) :
    ∃ db₀ db₀' name issuers rotatedFromId, Summary lib before db₀ ∧
      addIdentityClient lib db₀ draw name issuers rotatedFromId = .ok (db₀', issued) := by
  obtain ⟨draw', call, outcome⟩ := entry
  unfold Entry.client? at hissues
  split at hissues
  · next hcall houtcome =>
    dsimp only at hcall houtcome
    subst hcall houtcome
    cases hissues
    obtain ⟨db₀, db₀', hbefore, hperform⟩ := hperformed.success hsplit
    obtain ⟨_, hop, heq⟩ := answer_eq_ok.mp hperform
    cases heq
    obtain ⟨clean, -, hadd⟩ := issueIdentityClient_eq_ok hop
    exact ⟨db₀, db₀', _, clean, none, hbefore, hadd⟩
  · next hcall houtcome =>
    dsimp only at hcall houtcome
    subst hcall houtcome
    cases hissues
    obtain ⟨db₀, db₀', hbefore, hperform⟩ := hperformed.success hsplit
    obtain ⟨_, hop, heq⟩ := answer_eq_ok.mp hperform
    cases heq
    obtain ⟨previous, -, -, -, hadd⟩ := rotateIdentityClient_eq_ok hop
    exact ⟨db₀, db₀', _, _, _, hbefore, hadd⟩
  · cases hissues

/-- What `addIdentityClient` hands out for what it stores. -/
theorem storedClient_of_add {db' : IdentityDatabase} {draw : IdentityDraw} {name : String} {issuers : List String}
    {rotatedFromId : Option String} {issued : IssuedIdentityClient}
    (hadd : addIdentityClient lib db draw name issuers rotatedFromId = .ok (db', issued)) :
    issued.token = joinToken (keyPrefix "igb_" draw.hex) draw.urlsafe.text ∧
      issued.record.keyPrefix = keyPrefix "igb_" draw.hex ∧ issued.record.name = name ∧
      issued.record.allowedIssuers = issuers := by
  obtain ⟨_, -, rfl, -⟩ := addIdentityClient_eq_ok hadd
  exact ⟨rfl, rfl, rfl, rfl⟩

/-- An identity client is accepted exactly if the history grants it. -/
theorem authenticateIdentityClient_iff (hsummary : Summary lib history db) (hperformed : Performed lib history)
    (now : Instant) (token : String) (issuer : Option String) (p : IdentityClientPrincipal) :
    (authenticateIdentityClient lib db now token issuer).2 = some p ↔ GrantsClient history token issuer p := by
  rw [authenticateIdentityClient_snd, Option.map_eq_some_iff]
  constructor
  · rintro ⟨row, hrow, rfl⟩
    obtain ⟨first, secret, hparse, -, hmem, hprefix, hverify, -, hlive, hallowed⟩ :=
      acceptedClient_eq_some.mp hrow
    obtain ⟨⟨draw, issued⟩, after, ⟨before, entry, hsplit, hissues⟩, -, hentered⟩ :=
      clientLedger.exists_of_row hsummary.clients hmem
    obtain ⟨_, _, _, _, _, -, hadd⟩ := hperformed.client_issued hsplit hissues
    obtain ⟨htoken, hissuedPrefix, -, -⟩ := storedClient_of_add hadd
    have hsecret : secret = draw.urlsafe.text := by
      have hhash : row.secretHash = hashSecret lib draw.salt draw.urlsafe.text :=
        congrArg (fun entered => entered.1.secretHash) hentered
      rw [hhash] at hverify
      exact (verifySecret_hashSecret lib _ _ _).mp hverify
    have hfirst : first = keyPrefix "igb_" draw.hex := by
      have h : row.keyPrefix = issued.record.keyPrefix := congrArg (fun entered => entered.1.keyPrefix) hentered
      exact hprefix.symm.trans (h.trans hissuedPrefix)
    have hid : row.id = issued.record.id := congrArg (fun entered => entered.1.id) hentered
    have hname : row.name = issued.record.name := congrArg (fun entered => entered.1.name) hentered
    have hissuers : row.allowedIssuers = issued.record.allowedIssuers :=
      congrArg (fun entered => entered.1.allowedIssuers) hentered
    have hflag : row.revokedAt.isSome = after.any fun entry => entry.revokesClient issued.record.id :=
      congrArg Prod.snd hentered
    refine ⟨before, entry, draw, issued, after, hsplit, hissues, ?_, ?_, ?_, ?_⟩
    · rw [htoken, eq_of_parseToken hparse, hfirst, hsecret]
    · rw [hid, hname, hissuers]
    · rw [hlive] at hflag
      simpa using hflag
    · exact hissuers ▸ hallowed
  · rintro ⟨before, entry, draw, issued, after, hsplit, hissues, htoken, rfl, hkept, hallowed⟩
    obtain ⟨_, _, _, _, _, -, hadd⟩ := hperformed.client_issued hsplit hissues
    obtain ⟨hissued, hissuedPrefix, -, -⟩ := storedClient_of_add hadd
    obtain ⟨row, hmem, hentered⟩ :=
      clientLedger.exists_row hsummary.clients ⟨before, entry, hsplit, hissues⟩ fun _ _ => rfl
    have hid : row.id = issued.record.id := congrArg (fun entered => entered.1.id) hentered
    have hname : row.name = issued.record.name := congrArg (fun entered => entered.1.name) hentered
    have hissuers : row.allowedIssuers = issued.record.allowedIssuers :=
      congrArg (fun entered => entered.1.allowedIssuers) hentered
    have hflag : row.revokedAt.isSome = after.any fun entry => entry.revokesClient issued.record.id :=
      congrArg Prod.snd hentered
    have hlive : row.revokedAt = none := by
      rw [← Option.not_isSome_iff_eq_none, hflag]
      simpa using hkept
    obtain ⟨hactive, hblank⟩ := hsummary.sound row hmem
    refine ⟨row, acceptedClient_eq_some.mpr ⟨keyPrefix "igb_" draw.hex, draw.urlsafe.text, ?_, ?_, hmem, ?_, ?_, ?_,
      hlive, hissuers ▸ hallowed⟩, by rw [hid, hname, hissuers]⟩
    · rw [← htoken, hissued]
      exact parseToken_joinToken rfl (by decide) draw.hex draw.urlsafe
    · intro text htext hempty
      exact hblank (hissuers ▸ hempty ▸ hallowed text htext)
    · have h : row.keyPrefix = issued.record.keyPrefix := congrArg (fun entered => entered.1.keyPrefix) hentered
      exact h.trans hissuedPrefix
    · have hhash : row.secretHash = hashSecret lib draw.salt draw.urlsafe.text :=
        congrArg (fun entered => entered.1.secretHash) hentered
      rw [hhash]
      exact (verifySecret_hashSecret lib _ _ _).mpr rfl
    · rw [hactive, hlive]
      rfl

/-- A rotation hands out a client with the name and the allow-list of one that is not revoked. -/
theorem Performed.rotation_copies (hperformed : Performed lib history) {before after : List Entry}
    {draw : IdentityDraw} {identityClientId : String} {issued : IssuedIdentityClient}
    (hsplit : history = before ++ ⟨draw, .rotateIdentityClient identityClientId, .ok (.clientIssued issued)⟩ :: after) :
    ∃ earlier entry draw₀ previous since, before = earlier ++ entry :: since ∧
      entry.client? = some (draw₀, previous) ∧ previous.record.id = identityClientId ∧
      (∀ entry ∈ since, entry.revokesClient identityClientId = false) ∧
      issued.record.name = previous.record.name ∧
      issued.record.allowedIssuers = previous.record.allowedIssuers := by
  obtain ⟨db₀, _, hbefore, hperform⟩ := hperformed.success hsplit
  obtain ⟨_, hop, heq⟩ := answer_eq_ok.mp hperform
  cases heq
  obtain ⟨row, hfound, -, hlive, hadd⟩ := rotateIdentityClient_eq_ok hop
  obtain ⟨-, -, hname, hissuers⟩ := storedClient_of_add hadd
  obtain ⟨hmem, hid⟩ := client?_eq_some hfound
  obtain ⟨⟨draw₀, previous⟩, since, ⟨earlier, entry, hsplit₀, hissues⟩, -, hentered⟩ :=
    clientLedger.exists_of_row hbefore.clients hmem
  have hrowId : row.id = previous.record.id := congrArg (fun entered => entered.1.id) hentered
  have hrowName : row.name = previous.record.name := congrArg (fun entered => entered.1.name) hentered
  have hrowIssuers : row.allowedIssuers = previous.record.allowedIssuers :=
    congrArg (fun entered => entered.1.allowedIssuers) hentered
  have hflag : row.revokedAt.isSome = since.any fun entry => entry.revokesClient previous.record.id :=
    congrArg Prod.snd hentered
  refine ⟨earlier, entry, draw₀, previous, since, hsplit₀, hissues, hrowId.symm.trans hid, ?_,
    hname.trans hrowName, hissuers.trans hrowIssuers⟩
  rw [hlive, ← hrowId, hid] at hflag
  simpa using hflag

/-- After every sequence of identity operations and at every time, a credential is accepted exactly
if the history of the operations grants it, and rotation copies the allow-list of a client. -/
theorem credentials_valid_iff_history (lib : SecretLibrary) (calls : List (IdentityDraw × IdentityCall))
    (now : Instant) :
    (∀ token p, (authenticateUserSession lib (runCalls lib calls).1 now token).2 = some p ↔
      GrantsSession (runCalls lib calls).2 now token p) ∧
    (∀ token p, authenticateApiKey lib (runCalls lib calls).1 now token = some p ↔
      GrantsApiKey (runCalls lib calls).2 now token p) ∧
    (∀ token issuer p, (authenticateIdentityClient lib (runCalls lib calls).1 now token issuer).2 = some p ↔
      GrantsClient (runCalls lib calls).2 token issuer p) ∧
    ∀ before draw identityClientId issued after, (runCalls lib calls).2 =
        before ++ ⟨draw, .rotateIdentityClient identityClientId, .ok (.clientIssued issued)⟩ :: after →
      ∃ earlier entry draw₀ previous since, before = earlier ++ entry :: since ∧
        entry.client? = some (draw₀, previous) ∧ previous.record.id = identityClientId ∧
        (∀ entry ∈ since, entry.revokesClient identityClientId = false) ∧
        issued.record.name = previous.record.name ∧
        issued.record.allowedIssuers = previous.record.allowedIssuers := by
  obtain ⟨hsummary, hperformed⟩ := runCalls_summary lib calls
  exact ⟨authenticateUserSession_iff hsummary hperformed now, authenticateApiKey_iff hsummary hperformed now,
    authenticateIdentityClient_iff hsummary hperformed now,
    fun _ _ _ _ _ hsplit => hperformed.rotation_copies hsplit⟩

end Identity

end SharedIntegration

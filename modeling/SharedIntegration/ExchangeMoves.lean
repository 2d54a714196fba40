import SharedIntegration.Exchange

/-!
# What transactions do to users and sessions

Users are never deleted and keep their identity; a session keeps its columns, is never revived,
and comes into being only with a token that was just drawn. Every administrative operation and
every step of an exchange is of this kind.
-/

namespace SharedIntegration

open Relational PyString Transition

namespace Exchange

/-- The same session: what no transaction changes. -/
structure SameSession (row row' : UserSessionRow) : Prop where
  id : row'.id = row.id
  tokenHash : row'.tokenHash = row.tokenHash
  tenantId : row'.tenantId = row.tenantId
  userId : row'.userId = row.userId
  identityClientId : row'.identityClientId = row.identityClientId
  revoked : row.revokedAt.isSome → row'.revokedAt.isSome

/-- A row with this identity. -/
def HasUser (db : IdentityDatabase) (userId issuer subject : String) : Prop :=
  ∃ row ∈ db.users.rows, row.id = userId ∧ row.issuer = issuer ∧ row.subject = subject

/-- No user is lost. -/
def UsersKept (db db' : IdentityDatabase) : Prop :=
  ∀ userId issuer subject, HasUser db userId issuer subject → HasUser db' userId issuer subject

/-- No session has come into being. -/
def SessionsKept (db db' : IdentityDatabase) : Prop :=
  ∀ row' ∈ db'.userSessions.rows, ∃ row ∈ db.userSessions.rows, SameSession row row'

/-- No session has come into being but possibly one with the token that was drawn. -/
def SessionsDrawn (lib : SecretLibrary) (draw : IdentityDraw) (db db' : IdentityDatabase) : Prop :=
  ∀ row' ∈ db'.userSessions.rows, (∃ row ∈ db.userSessions.rows, SameSession row row') ∨
    (row'.id = "ses_" ++ draw.uuid ∧ row'.tokenHash = hashSessionToken lib (sessionToken draw.urlsafe))

/-- A session is the same as itself. -/
theorem SameSession.refl (row : UserSessionRow) : SameSession row row :=
  ⟨rfl, rfl, rfl, rfl, rfl, fun h => h⟩

variable {lib : SecretLibrary} {db db' : IdentityDatabase} {draw : IdentityDraw}

/-- Users that did not change are kept. -/
theorem UsersKept.of_eq (h : db'.users = db.users) : UsersKept db db' := by
  intro userId issuer subject huser
  unfold HasUser
  rw [h]
  exact huser

/-- Sessions that did not change are kept. -/
theorem SessionsKept.of_eq (h : db'.userSessions = db.userSessions) : SessionsKept db db' := by
  intro row hrow
  rw [h] at hrow
  exact ⟨row, hrow, .refl row⟩

/-- Kept sessions may as well be drawn ones. -/
theorem SessionsKept.drawn (h : SessionsKept db db') (lib : SecretLibrary) (draw : IdentityDraw) :
    SessionsDrawn lib draw db db' := fun row hrow => Or.inl (h row hrow)

/-- Updating rows one by one keeps the sessions if it keeps each. -/
theorem SessionsKept.of_map {selected : UserSessionRow → Bool} {change : UserSessionRow → UserSessionRow}
    (hrows : db'.userSessions.rows = db.userSessions.rows.map fun row => if selected row then change row else row)
    (hchange : ∀ row, SameSession row (change row)) : SessionsKept db db' := by
  intro row' hrow'
  rw [hrows] at hrow'
  obtain ⟨row, hrow, rfl⟩ := List.mem_map.mp hrow'
  refine ⟨row, hrow, ?_⟩
  split
  · exact hchange row
  · exact .refl row

/-- A profile is written to a user without changing who it is. -/
theorem hasUser_assignProfile (db : IdentityDatabase) (wanted : String) (email displayName : Option String)
    (now : Instant) : UsersKept db (Identity.assignProfile db wanted email displayName now) := by
  rintro userId issuer subject ⟨row, hrow, hid, hissuer, hsubject⟩
  refine ⟨_, List.mem_map_of_mem hrow, ?_⟩
  split
  · exact ⟨hid, hissuer, hsubject⟩
  · exact ⟨hid, hissuer, hsubject⟩

/-- The row that a lookup by identity finds. -/
theorem userNamed_eq_some {issuer subject : String} {row : UserRow}
    (h : Identity.userNamed db issuer subject = some row) :
    HasUser db row.id issuer subject := by
  obtain ⟨hmem, hkey⟩ := Table.find_eq_some h
  obtain ⟨hissuer, hsubject⟩ := of_decide_eq_true hkey
  exact ⟨row, hmem, rfl, hissuer, hsubject⟩

/-- A checked profile names the stripped identity. -/
theorem checkProfile_eq_ok {issuer subject : String} {email displayName : Option String} {named : String × String}
    (h : Identity.checkProfile issuer subject email displayName = .ok named) :
    named = (strip issuer, strip subject) := by
  simp only [Identity.checkProfile, Fallible.bind_eq_ok, Identity.require_eq_ok, pure, Except.pure,
    Except.ok.injEq] at h
  obtain ⟨_, -, _, -, _, -, _, -, rfl⟩ := h
  rfl

/-- Writing a profile keeps all users and yields one of this identity. -/
theorem writeProfile_spec {row : Option UserRow} {issuer subject : String} {email displayName : Option String}
    {user : UserRow} (h : Identity.writeProfile db draw row issuer subject email displayName = some (db', user)) :
    UsersKept db db' ∧ db'.userSessions = db.userSessions ∧
      ((∀ old ∈ row, HasUser db old.id issuer subject) → HasUser db' user.id issuer subject) := by
  unfold Identity.writeProfile at h
  split at h
  · next old =>
    rw [Option.some.injEq, Prod.mk.injEq] at h
    obtain ⟨rfl, rfl⟩ := h
    have hkept := hasUser_assignProfile db old.id email displayName draw.now
    exact ⟨hkept, rfl, fun hrow => hkept _ _ _ (hrow old rfl)⟩
  · simp only [Option.map_eq_some_iff, Prod.mk.injEq] at h
    obtain ⟨users, hinsert, rfl, rfl⟩ := h
    have hrows := (Table.insert_eq_some hinsert).1
    refine ⟨?_, rfl, fun _ => ⟨_, ?_, rfl, rfl, rfl⟩⟩
    · rintro userId issuer' subject' ⟨old, hold, hkey⟩
      refine ⟨old, ?_, hkey⟩
      change old ∈ users.rows
      rw [hrows]
      exact List.mem_append_left _ hold
    · change _ ∈ users.rows
      rw [hrows]
      exact List.mem_append_right _ List.mem_cons_self

/-- Recovering from a lost insert keeps all users and yields one of this identity. -/
theorem recoverProfile_spec {issuer subject : String} {email displayName : Option String} {user : UserRow}
    (h : Identity.recoverProfile db draw issuer subject email displayName = .ok (db', user)) :
    UsersKept db db' ∧ db'.userSessions = db.userSessions ∧ HasUser db' user.id issuer subject := by
  simp only [Identity.recoverProfile, Fallible.bind_eq_ok, Identity.found_eq_ok, pure, Except.pure,
    Except.ok.injEq, Prod.mk.injEq] at h
  obtain ⟨row, hrow, rfl, rfl⟩ := h
  have hkept := hasUser_assignProfile db row.id email displayName draw.now
  have huser := userNamed_eq_some hrow
  exact ⟨hkept, rfl, hkept _ _ _ huser⟩

/-- `upsert_user` keeps all users. -/
theorem usersKept_upsertUser {issuer subject : String} {email displayName : Option String} {user : UserRow}
    (h : Identity.upsertUser db draw issuer subject email displayName = .ok (db', user)) : UsersKept db db' := by
  simp only [Identity.upsertUser, Fallible.bind_eq_ok] at h
  obtain ⟨⟨issuer', subject'⟩, -, h⟩ := h
  split at h
  · next hwrite =>
    simp only [pure, Except.pure, Except.ok.injEq, Prod.mk.injEq] at h
    obtain ⟨rfl, rfl⟩ := h
    exact (writeProfile_spec hwrite).1
  · exact (recoverProfile_spec h).1

/-- Stamping a use keeps the sessions. -/
theorem sessionsKept_touchSession (db : IdentityDatabase) (sessionId : String) (now : Instant) :
    SessionsKept db (Identity.touchSession db sessionId now) :=
  SessionsKept.of_map rfl fun _ => ⟨rfl, rfl, rfl, rfl, rfl, fun h => h⟩

/-- Stamping a revocation keeps the sessions. -/
theorem sessionsKept_stampSession (db : IdentityDatabase) (sessionId : String) (now : Instant) :
    SessionsKept db (Identity.stampSession db sessionId now) :=
  SessionsKept.of_map rfl fun _ => ⟨rfl, rfl, rfl, rfl, rfl, fun _ => rfl⟩

/-- `authenticate_user_session` keeps users and sessions. -/
theorem authenticateUserSession_keeps (lib : SecretLibrary) (db : IdentityDatabase) (now : Instant)
    (token : String) : UsersKept db (Identity.authenticateUserSession lib db now token).1 ∧
      SessionsKept db (Identity.authenticateUserSession lib db now token).1 := by
  obtain heq | ⟨principal, heq⟩ := Identity.authenticateUserSession_cases lib db now token
  · rw [heq]
    exact ⟨UsersKept.of_eq rfl, SessionsKept.of_eq rfl⟩
  · rw [heq]
    exact ⟨UsersKept.of_eq rfl, sessionsKept_touchSession db principal.sessionId now⟩

/-- `revoke_user_session` keeps users and sessions, and the sessions that it names are revoked. -/
theorem revokeUserSession_spec (db : IdentityDatabase) (draw : IdentityDraw) (tenantId sessionId actor : String)
    (requestId : Option String) :
    UsersKept db (Identity.revokeUserSession db draw tenantId sessionId actor requestId).1 ∧
    SessionsKept db (Identity.revokeUserSession db draw tenantId sessionId actor requestId).1 ∧
      ∀ row ∈ (Identity.revokeUserSession db draw tenantId sessionId actor requestId).1.userSessions.rows,
        row.tenantId = tenantId → row.id = sessionId → row.revokedAt.isSome := by
  obtain ⟨heq, hnone⟩ | ⟨found, hfound, htenant, hid, ⟨hrevoked, heq⟩ | ⟨-, heq⟩⟩ :=
    Identity.revokeUserSession_cases db draw tenantId sessionId actor requestId
  · rw [heq]
    exact ⟨UsersKept.of_eq rfl, SessionsKept.of_eq rfl,
      fun row hrow htenant hid => absurd hid (hnone row hrow htenant)⟩
  · rw [heq]
    refine ⟨UsersKept.of_eq rfl, SessionsKept.of_eq rfl, fun row hrow _ hrow' => ?_⟩
    rw [Identity.session_eq_of_id hrow hfound (hrow'.trans hid.symm)]
    exact Option.isSome_iff_ne_none.mpr hrevoked
  · rw [heq]
    refine ⟨UsersKept.of_eq rfl, sessionsKept_stampSession db sessionId draw.now, fun row hrow _ hrow' => ?_⟩
    obtain ⟨old, -, rfl⟩ := List.mem_map.mp hrow
    by_cases hold : old.id = sessionId
    · simp [hold]
    · simp only [hold, decide_false, Bool.false_eq_true, if_false] at hrow'

/-- An issued session is the only new one. -/
theorem issueUserSession_rows {identityClientId tenantId userId actor : String} {ttlSeconds : ℤ}
    {requestId : Option String} {issued : IssuedUserSession}
    (h : Identity.issueUserSession lib db draw identityClientId tenantId userId ttlSeconds actor requestId =
      .ok (db', issued)) :
    db'.userSessions.rows = db.userSessions.rows ++ [Identity.storedSession lib draw issued] ∧
      (∀ row ∈ db.userSessions.rows, row.id ≠ issued.id ∧ row.tokenHash ≠ hashSessionToken lib issued.token) ∧
      db'.users = db.users ∧ issued.id = "ses_" ++ draw.uuid ∧ issued.token = sessionToken draw.urlsafe ∧
      issued.tenantId = tenantId ∧ issued.userId = userId ∧ issued.identityClientId = identityClientId := by
  obtain ⟨-, -, -, -, rfl, userSessions, hinsert, rfl⟩ := Identity.issueUserSession_eq_ok h
  obtain ⟨hrows, hfree⟩ := Table.insert_eq_some hinsert
  refine ⟨hrows, fun row hrow => ?_, rfl, rfl, rfl, rfl, rfl, rfl⟩
  exact ⟨fun hid => hfree row hrow (Or.inl hid), fun hhash => hfree row hrow (Or.inr hhash)⟩

/-- A new session has the token that was drawn. -/
theorem sessionsDrawn_issue {identityClientId tenantId userId actor : String} {ttlSeconds : ℤ}
    {requestId : Option String} {issued : IssuedUserSession}
    (h : Identity.issueUserSession lib db draw identityClientId tenantId userId ttlSeconds actor requestId =
      .ok (db', issued)) : SessionsDrawn lib draw db db' := by
  obtain ⟨hrows, -, -, hid, htoken, -⟩ := issueUserSession_rows h
  intro row hrow
  rw [hrows] at hrow
  rcases List.mem_append.mp hrow with hold | hnew
  · exact Or.inl ⟨row, hold, .refl row⟩
  · rw [List.mem_singleton.mp hnew]
    exact Or.inr ⟨hid, by rw [← htoken]; rfl⟩

/-- Recording a failure changes neither users nor sessions. -/
theorem recordFailure_keeps (db : IdentityDatabase) (draw : IdentityDraw) (request : Request)
    (actor reason : String) : UsersKept db (recordFailure db draw request actor reason) ∧
      SessionsKept db (recordFailure db draw request actor reason) := by
  unfold recordFailure
  split
  · next hrecord =>
    obtain ⟨-, rfl⟩ | ⟨-, -, rfl⟩ := Identity.recordAuthEvent_eq_ok hrecord
    · exact ⟨UsersKept.of_eq rfl, SessionsKept.of_eq rfl⟩
    · exact ⟨UsersKept.of_eq rfl, SessionsKept.of_eq rfl⟩
  · exact ⟨UsersKept.of_eq rfl, SessionsKept.of_eq rfl⟩

/-- Authenticating a client changes neither users nor sessions, and accepts allowed issuers only. -/
theorem authenticateIdentityClient_keeps (lib : SecretLibrary) (db : IdentityDatabase) (now : Instant)
    (token issuer : String) :
    UsersKept db (Identity.authenticateIdentityClient lib db now token (some issuer)).1 ∧
    SessionsKept db (Identity.authenticateIdentityClient lib db now token (some issuer)).1 ∧
    ∀ client ∈ (Identity.authenticateIdentityClient lib db now token (some issuer)).2,
      strip issuer ∈ client.allowedIssuers := by
  obtain ⟨-, heq⟩ | ⟨row, hrow, heq⟩ := Identity.authenticateIdentityClient_cases lib db now token (some issuer)
  · rw [heq]
    exact ⟨UsersKept.of_eq rfl, SessionsKept.of_eq rfl, by simp⟩
  · rw [heq]
    refine ⟨UsersKept.of_eq rfl, SessionsKept.of_eq rfl, fun client hclient => ?_⟩
    cases hclient
    obtain ⟨_, _, -, -, -, -, -, -, -, hallowed⟩ := Identity.acceptedClient_eq_some.mp hrow
    exact hallowed issuer rfl

/-- Every administrative operation keeps users, and draws what sessions it creates. -/
theorem perform_spec {call : IdentityCall} {result : IdentityResult}
    (h : Identity.perform lib db draw call = .ok (db', result)) :
    UsersKept db db' ∧ SessionsDrawn lib draw db db' := by
  have hframe := Identity.perform_frame h
  constructor
  · by_cases hpart : Identity.part call = some .users
    · cases call with
      | upsertUser issuer subject email displayName =>
        obtain ⟨_, hop, -⟩ := Identity.answer_eq_ok.mp h
        exact usersKept_upsertUser hop
      | _ => cases hpart
    · exact UsersKept.of_eq (hframe.users hpart)
  · by_cases hpart : Identity.part call = some .userSessions
    · cases call with
      | issueUserSession clientId tenantId userId ttl actor requestId =>
        obtain ⟨_, hop, -⟩ := Identity.answer_eq_ok.mp h
        exact sessionsDrawn_issue hop
      | authenticateUserSession token =>
        obtain ⟨_, hop, -⟩ := Identity.answer_eq_ok.mp h
        have hdb : (Identity.authenticateUserSession lib db draw.now token).1 = db' :=
          congrArg Prod.fst (Except.ok.inj hop)
        rw [← hdb]
        exact (authenticateUserSession_keeps lib db draw.now token).2.drawn lib draw
      | revokeUserSession tenantId sessionId actor requestId =>
        obtain ⟨_, hop, -⟩ := Identity.answer_eq_ok.mp h
        have hdb : (Identity.revokeUserSession db draw tenantId sessionId actor requestId).1 = db' :=
          congrArg Prod.fst (Except.ok.inj hop)
        rw [← hdb]
        exact (revokeUserSession_spec db draw tenantId sessionId actor requestId).2.1.drawn lib draw
      | cleanupExpiredUserSessions before =>
        obtain ⟨_, hop, -⟩ := Identity.answer_eq_ok.mp h
        obtain ⟨cutoff, -, rfl⟩ := Identity.cleanupExpiredUserSessions_eq_ok hop
        intro row hrow
        exact Or.inl ⟨row, (List.mem_filter.mp hrow).1, .refl row⟩
      | _ => cases hpart
    · exact (SessionsKept.of_eq (hframe.userSessions hpart)).drawn lib draw

/-- A transaction of a request keeps the users; it creates a session only where it issues one. -/
theorem advance_keeps {request : Request} {pc pc' : Pc}
    (h : Call.advance lib db draw ⟨request, pc⟩ = some (db', pc')) :
    UsersKept db db' ∧ ((pc'.locals.issued = pc.locals.issued ∧ SessionsKept db db') ∨
      ∃ client user issued, pc = .issuing client user ∧ pc' = .reauthenticating client user issued ∧
        Identity.issueUserSession lib db draw client.identityClientId request.body.requestedTenantId user.id
          Identity.defaultSessionTtlSeconds (clientActor client) (some request.requestId) = .ok (db', issued)) := by
  have hsame : UsersKept db db ∧ SessionsKept db db := ⟨UsersKept.of_eq rfl, SessionsKept.of_eq rfl⟩
  cases pc with
  | checkingLimit => cases h
  | answered answer locals => cases h
  | recordingLimit seconds =>
    cases h
    obtain ⟨husers, hsessions⟩ := recordFailure_keeps db draw request
      ("identity_client:" ++ safeBridgePrefix request.token) "rate_limited"
    exact ⟨husers, Or.inl ⟨rfl, hsessions⟩⟩
  | authenticating =>
    obtain ⟨husers, hsessions, -⟩ := authenticateIdentityClient_keeps lib db draw.now
      (request.token.getD "") request.body.issuer
    simp only [Call.advance] at h
    split at h
    · next heq =>
      cases h
      rw [heq] at husers hsessions
      exact ⟨husers, Or.inl ⟨rfl, hsessions⟩⟩
    · next heq =>
      cases h
      rw [heq] at husers hsessions
      exact ⟨husers, Or.inl ⟨rfl, hsessions⟩⟩
  | recordingFailure =>
    cases h
    obtain ⟨husers, hsessions⟩ := recordFailure_keeps db draw request
      ("identity_client:" ++ safeBridgePrefix request.token) "authentication_failed"
    exact ⟨husers, Or.inl ⟨rfl, hsessions⟩⟩
  | lookingUp client =>
    simp only [Call.advance] at h
    split at h
    · cases h
      exact ⟨hsame.1, Or.inl ⟨rfl, hsame.2⟩⟩
    · cases h
      exact ⟨hsame.1, Or.inl ⟨rfl, hsame.2⟩⟩
  | writing client started row =>
    simp only [Call.advance] at h
    split at h
    · next hwrite =>
      cases h
      obtain ⟨husers, hsessions, -⟩ := writeProfile_spec hwrite
      exact ⟨husers, Or.inl ⟨rfl, SessionsKept.of_eq hsessions⟩⟩
    · cases h
      exact ⟨hsame.1, Or.inl ⟨rfl, hsame.2⟩⟩
  | recovering client started =>
    simp only [Call.advance] at h
    split at h
    · next hrecover =>
      cases h
      obtain ⟨husers, hsessions, -⟩ := recoverProfile_spec hrecover
      exact ⟨husers, Or.inl ⟨rfl, SessionsKept.of_eq hsessions⟩⟩
    · cases h
      exact ⟨hsame.1, Or.inl ⟨rfl, hsame.2⟩⟩
  | issuing client user =>
    simp only [Call.advance] at h
    split at h
    · next issued hissue =>
      cases h
      obtain ⟨-, -, husers, -⟩ := issueUserSession_rows hissue
      exact ⟨UsersKept.of_eq husers, Or.inr ⟨client, user, issued, rfl, rfl, hissue⟩⟩
    · cases h
      exact ⟨hsame.1, Or.inl ⟨rfl, hsame.2⟩⟩
    · cases h
      exact ⟨hsame.1, Or.inl ⟨rfl, hsame.2⟩⟩
  | recordingDenial client user =>
    cases h
    obtain ⟨husers, hsessions⟩ := recordFailure_keeps db draw request (clientActor client) "access_denied"
    exact ⟨husers, Or.inl ⟨rfl, hsessions⟩⟩
  | reauthenticating client user issued =>
    obtain ⟨husers, hsessions⟩ := authenticateUserSession_keeps lib db draw.now issued.token
    simp only [Call.advance] at h
    split at h
    · next heq =>
      cases h
      rw [heq] at husers hsessions
      exact ⟨husers, Or.inl ⟨rfl, hsessions⟩⟩
    · next heq =>
      cases h
      rw [heq] at husers hsessions
      exact ⟨husers, Or.inl ⟨rfl, hsessions⟩⟩
  | revoking client user issued =>
    cases h
    obtain ⟨husers, hsessions, -⟩ := revokeUserSession_spec db draw issued.tenantId issued.id
      (clientActor client) (some request.requestId)
    exact ⟨husers, Or.inl ⟨rfl, hsessions⟩⟩

/-- A transaction of a request draws what sessions it creates. -/
theorem advance_drawn {request : Request} {pc pc' : Pc}
    (h : Call.advance lib db draw ⟨request, pc⟩ = some (db', pc')) : SessionsDrawn lib draw db db' := by
  obtain ⟨-, ⟨-, hkept⟩ | ⟨_, _, _, -, -, hissue⟩⟩ := advance_keeps h
  · exact hkept.drawn lib draw
  · exact sessionsDrawn_issue hissue

end Exchange

end SharedIntegration

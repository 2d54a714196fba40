import SharedIntegration.ExchangeSafety

/-!
# Cleaning up sessions

`cleanup_expired_user_sessions` deletes by a cutoff that the caller may choose. A database that was
cleaned and one that was not run side by side, through the same operations: they differ in the deleted
sessions only, so that no other credential and no other session is answered differently. A cutoff in
the future also ends the sessions that would have lived until then.
-/

namespace SharedIntegration

open Relational

namespace Identity

/-- Two computations fail together, or their values are related. -/
def Alike {ε α β : Type} (related : α → β → Prop) : Except ε α → Except ε β → Prop
  | .ok a, .ok b => related a b
  | .error _, .error _ => True
  | _, _ => False

/-- Computations that begin alike are alike if they go on alike. -/
theorem Alike.bind {ε α β γ : Type} {related : β → γ → Prop} {first : Except ε α}
    {rest : α → Except ε β} {rest' : α → Except ε γ}
    (h : ∀ a, first = .ok a → Alike related (rest a) (rest' a)) :
    Alike related (first >>= rest) (first >>= rest') := by
  cases first with
  | error e => exact trivial
  | ok a => exact h a rfl

/-- A database without its sessions and its audit events. -/
def sessionless (db : IdentityDatabase) : IdentityDatabase := { db with userSessions := .empty, auditEvents := [] }

/-- The databases agree but for sessions and audit events. -/
def Agree (db db' : IdentityDatabase) : Prop := sessionless db' = sessionless db

variable {lib : SecretLibrary} {db db' db₁ db₁' : IdentityDatabase} {draw : IdentityDraw}

/-- Databases that agree have the same tables. -/
theorem Agree.tables (h : Agree db db') : db'.tenants = db.tenants ∧ db'.users = db.users ∧
    db'.memberships = db.memberships ∧ db'.apiKeys = db.apiKeys ∧ db'.identityClients = db.identityClients :=
  ⟨congrArg (fun db => db.tenants) h, congrArg (fun db => db.users) h, congrArg (fun db => db.memberships) h,
    congrArg (fun db => db.apiKeys) h, congrArg (fun db => db.identityClients) h⟩

/-- Lookups by id find the same in databases that agree. -/
theorem Agree.lookups (h : Agree db db') : client? db' = client? db ∧ tenant? db' = tenant? db ∧
    user? db' = user? db ∧ membership? db' = membership? db := by
  obtain ⟨htenants, husers, hmemberships, -, hclients⟩ := h.tables
  unfold client? tenant? user? membership?
  rw [htenants, husers, hmemberships, hclients]
  exact ⟨rfl, rfl, rfl, rfl⟩

/-- Wrapping the answers changes no database. -/
theorem alike_answer {α : Type} {wrap : α → IdentityResult} {related : IdentityDatabase → IdentityDatabase → Prop}
    {result result' : Except IdentityError (IdentityDatabase × α)}
    (h : Alike (fun success success' => related success.1 success'.1) result result') :
    Alike (fun success success' => related success.1 success'.1) (answer wrap result) (answer wrap result') := by
  cases result with
  | error e =>
    cases result' with
    | error e' => exact trivial
    | ok success' => exact h
  | ok success =>
    cases result' with
    | error e' => exact h
    | ok success' => exact h

/-- `upsert_user` writes its profile without looking at sessions or audit events. -/
theorem alike_writeProfile {issuer subject : String} {email displayName : Option String} :
    Alike (fun success success' => Agree success.1 success'.1)
      (match writeProfile db draw (userNamed db issuer subject) issuer subject email displayName with
        | some (db', row) => return (db', row)
        | none => recoverProfile db draw issuer subject email displayName)
      (match writeProfile (sessionless db) draw (userNamed (sessionless db) issuer subject) issuer subject email
          displayName with
        | some (db', row) => return (db', row)
        | none => recoverProfile (sessionless db) draw issuer subject email displayName) := by
  have hfound : userNamed (sessionless db) issuer subject = userNamed db issuer subject := rfl
  have husers : (sessionless db).users = db.users := rfl
  rw [hfound]
  unfold writeProfile
  cases userNamed db issuer subject with
  | some row => exact rfl
  | none =>
    dsimp only
    rw [husers]
    cases db.users.insert ⟨"usr_" ++ draw.uuid, issuer, subject, email, displayName, draw.now, draw.now⟩ with
    | some users => exact rfl
    | none => exact .bind fun _ _ => rfl

/-- An operation on tables other than the sessions does the same without sessions and audit events. -/
theorem alike_sessionless (db : IdentityDatabase) {call : IdentityCall} (hpart : part call ≠ some .userSessions) :
    Alike (fun success success' => Agree success.1 success'.1) (perform lib db draw call)
      (perform lib (sessionless db) draw call) := by
  cases call with
  | createTenant =>
    exact alike_answer (.bind fun _ _ => .bind fun _ _ => .bind fun _ _ => .bind fun _ _ => .bind fun _ _ => rfl)
  | setTenantStatus => exact alike_answer (.bind fun _ _ => .bind fun _ _ => rfl)
  | upsertUser =>
    exact alike_answer (.bind fun _ _ => alike_writeProfile)
  | setMembership tenantId userId =>
    refine alike_answer (.bind fun _ _ => .bind fun _ _ => .bind fun _ _ => ?_)
    have hfound : membership? (sessionless db) tenantId userId = membership? db tenantId userId := rfl
    unfold writeMembership
    rw [hfound]
    cases membership? db tenantId userId with
    | some row => exact rfl
    | none =>
      dsimp only
      rw [bind_assoc, bind_assoc]
      exact .bind fun _ _ => rfl
  | setMembershipStatus => exact alike_answer (.bind fun _ _ => .bind fun _ _ => rfl)
  | getMembership => exact rfl
  | recordAuthEvent tenantId =>
    refine alike_answer (.bind fun _ _ => ?_)
    have hfound : tenant? (sessionless db) tenantId = tenant? db tenantId := rfl
    rw [hfound]
    cases tenant? db tenantId with
    | some row => exact rfl
    | none => exact rfl
  | issueApiKey =>
    refine alike_answer (.bind fun _ _ => .bind fun _ _ => .bind fun _ _ => .bind fun _ _ => ?_)
    exact .bind fun _ _ => .bind fun _ _ => .bind fun _ _ => rfl
  | authenticateApiKey => exact rfl
  | listApiKeys => exact alike_answer (.bind fun _ _ => rfl)
  | revokeApiKey tenantId apiKeyId =>
    have hfound : (sessionless db).apiKeys = db.apiKeys := rfl
    refine alike_answer ?_
    unfold revokeApiKey
    rw [hfound]
    split
    · exact rfl
    · split <;> exact rfl
  | issueIdentityClient => exact alike_answer (.bind fun _ _ => .bind fun _ _ => .bind fun _ _ => rfl)
  | listIdentityClients => exact rfl
  | rotateIdentityClient => exact alike_answer (.bind fun _ _ => .bind fun _ _ => .bind fun _ _ => rfl)
  | authenticateIdentityClient token issuer =>
    have hfound : acceptedClient lib (sessionless db) token issuer = acceptedClient lib db token issuer := rfl
    refine alike_answer ?_
    unfold authenticateIdentityClient
    rw [hfound]
    split <;> exact rfl
  | revokeIdentityClient identityClientId =>
    have hfound : client? (sessionless db) identityClientId = client? db identityClientId := rfl
    refine alike_answer ?_
    unfold revokeIdentityClient
    rw [hfound]
    split
    · exact rfl
    · split <;> exact rfl
  | issueUserSession => exact absurd rfl hpart
  | authenticateUserSession => exact absurd rfl hpart
  | revokeUserSession => exact absurd rfl hpart
  | cleanupExpiredUserSessions => exact absurd rfl hpart

/-- Operations that are alike leave databases that are related. -/
theorem afterCall_alike {related : IdentityDatabase → IdentityDatabase → Prop} {call call' : IdentityCall}
    (h : related db db') (halike : Alike (fun success success' => related success.1 success'.1)
      (perform lib db draw call) (perform lib db' draw call')) :
    related (afterCall lib db (draw, call)) (afterCall lib db' (draw, call')) := by
  unfold afterCall
  cases hrun : perform lib db draw call with
  | error e =>
    cases hrun' : perform lib db' draw call' with
    | error e' => exact h
    | ok success' => simp [hrun, hrun', Alike] at halike
  | ok success =>
    cases hrun' : perform lib db' draw call' with
    | error e' => simp [hrun, hrun', Alike] at halike
    | ok success' =>
      rw [hrun, hrun'] at halike
      exact halike

/-- After such an operation, databases that agreed still do. -/
theorem Agree.afterCall (h : Agree db db') {call : IdentityCall} (hpart : part call ≠ some .userSessions) :
    Agree (afterCall lib db (draw, call)) (afterCall lib db' (draw, call)) := by
  have hfirst : Agree (Identity.afterCall lib db (draw, call))
      (Identity.afterCall lib (sessionless db) (draw, call)) :=
    afterCall_alike rfl (alike_sessionless db hpart)
  have hsecond : Agree (Identity.afterCall lib db' (draw, call))
      (Identity.afterCall lib (sessionless db') (draw, call)) :=
    afterCall_alike rfl (alike_sessionless db' hpart)
  rw [h] at hsecond
  exact hsecond.symm.trans hfirst

/-- A session stands for the same in databases that agree. -/
theorem Agree.sessionPrincipal (h : Agree db db') (now : Instant) (row : UserSessionRow) :
    sessionPrincipal db' now row = sessionPrincipal db now row := by
  obtain ⟨hclient, htenant, -, hmembership⟩ := h.lookups
  unfold Identity.sessionPrincipal
  rw [hclient, htenant, hmembership]

/-- The ids of sessions. -/
def sessionIds (sessions : List UserSessionRow) : List String := sessions.map UserSessionRow.id

/-- The second database is the first without the sessions that a cleanup removed. -/
structure Cleaned (removed : List UserSessionRow) (db db' : IdentityDatabase) : Prop where
  agree : Agree db db'
  rows : db'.userSessions.rows = db.userSessions.rows.filter fun row => !(sessionIds removed).contains row.id
  known : ∀ row ∈ db.userSessions.rows, row.id ∈ sessionIds removed →
    ∃ old ∈ removed, row.id = old.id ∧ row.tokenHash = old.tokenHash ∧ row.expiresAt = old.expiresAt

/-- An operation on other tables leaves the sessions as they are. -/
theorem afterCall_userSessions (db : IdentityDatabase) {call : IdentityCall}
    (hpart : part call ≠ some .userSessions) :
    (afterCall lib db (draw, call)).userSessions = db.userSessions := by
  unfold afterCall
  split
  · next hrun => exact (perform_frame hrun).userSessions hpart
  · rfl

/-- What an operation draws is not the id or the token of one of these sessions. -/
def DrawnApart (lib : SecretLibrary) (sessions : List UserSessionRow) (draw : IdentityDraw) : Prop :=
  ∀ row ∈ sessions, row.id ≠ "ses_" ++ draw.uuid ∧
    row.tokenHash ≠ hashSessionToken lib (sessionToken draw.urlsafe)

/-- A drawn id is not that of a removed session. -/
theorem DrawnApart.id {removed : List UserSessionRow} (h : DrawnApart lib removed draw) :
    "ses_" ++ draw.uuid ∉ sessionIds removed := by
  intro hid
  obtain ⟨row, hrow, heq⟩ := List.mem_map.mp hid
  exact (h row hrow).1 heq

/-- Change the session of one id. -/
def changeAt (sessionId : String) (change : UserSessionRow → UserSessionRow) (row : UserSessionRow) :
    UserSessionRow :=
  if row.id = sessionId then change row else row

/-- The sessions after the use of one was stamped. -/
theorem rows_touchSession (db : IdentityDatabase) (sessionId : String) (now : Instant) :
    (touchSession db sessionId now).userSessions.rows =
      db.userSessions.rows.map (changeAt sessionId fun row => { row with lastSeenAt := some now }) := by
  simp [touchSession, changeAt]

/-- The sessions after one was stamped as revoked. -/
theorem rows_stampSession (db : IdentityDatabase) (sessionId : String) (now : Instant) :
    (stampSession db sessionId now).userSessions.rows =
      db.userSessions.rows.map (changeAt sessionId fun row => { row with revokedAt := some now }) := by
  simp [stampSession, changeAt]

namespace Cleaned

variable {removed : List UserSessionRow}

/-- A session that is left is one that was not removed. -/
theorem mem_iff (h : Cleaned removed db db') {row : UserSessionRow} :
    row ∈ db'.userSessions.rows ↔ row ∈ db.userSessions.rows ∧ row.id ∉ sessionIds removed := by
  rw [h.rows, List.mem_filter]
  simp

/-- The cleanup itself removes the sessions that expire by its cutoff. -/
theorem of_delete (db : IdentityDatabase) (expired : UserSessionRow → Bool) :
    Cleaned (db.userSessions.select expired) db { db with userSessions := db.userSessions.delete expired } where
  agree := rfl
  rows := by
    change db.userSessions.rows.filter _ = _
    refine List.filter_congr fun row hrow => congrArg _ ?_
    rw [Bool.eq_iff_iff, List.contains_iff_mem]
    constructor
    · intro hexpired
      exact List.mem_map_of_mem (List.mem_filter.mpr ⟨hrow, hexpired⟩)
    · intro hid
      obtain ⟨old, hold, hsame⟩ := List.mem_map.mp hid
      obtain ⟨hmem, hexpired⟩ := List.mem_filter.mp hold
      rw [← session_eq_of_id hmem hrow hsame]
      exact hexpired
  known row hrow hid := by
    obtain ⟨old, hold, hsame⟩ := List.mem_map.mp hid
    have heq := session_eq_of_id (List.mem_filter.mp hold).1 hrow hsame
    exact ⟨old, hold, by rw [heq], by rw [heq], by rw [heq]⟩

/-- The databases stay apart by the removed sessions when both change all sessions alike. -/
theorem change (h : Cleaned removed db db') {change : UserSessionRow → UserSessionRow}
    (hchange : ∀ row, (change row).id = row.id ∧ (change row).tokenHash = row.tokenHash ∧
      (change row).expiresAt = row.expiresAt)
    (hagree : Agree db₁ db₁') (hrows : db₁.userSessions.rows = db.userSessions.rows.map change)
    (hrows' : db₁'.userSessions.rows = db'.userSessions.rows.map change) : Cleaned removed db₁ db₁' where
  agree := hagree
  rows := by
    rw [hrows', hrows, h.rows, List.filter_map]
    refine congrArg _ (List.filter_congr fun row _ => ?_)
    simp only [Function.comp_apply, (hchange row).1]
  known row hrow hid := by
    rw [hrows] at hrow
    obtain ⟨before, hbefore, rfl⟩ := List.mem_map.mp hrow
    obtain ⟨hsameId, hsameHash, hsameExpiry⟩ := hchange before
    rw [hsameId] at hid
    obtain ⟨old, hold, hids, hhashes, hexpiries⟩ := h.known before hbefore hid
    exact ⟨old, hold, hsameId.trans hids, hsameHash.trans hhashes, hsameExpiry.trans hexpiries⟩

/-- An operation on other tables leaves both sets of sessions as they are. -/
theorem other (h : Cleaned removed db db') {call : IdentityCall} (hpart : part call ≠ some .userSessions) :
    Cleaned removed (afterCall lib db (draw, call)) (afterCall lib db' (draw, call)) where
  agree := h.agree.afterCall hpart
  rows := by rw [afterCall_userSessions db' hpart, afterCall_userSessions db hpart, h.rows]
  known := by
    rw [afterCall_userSessions db hpart]
    exact h.known

/-- A token is answered with the same session, unless that session was removed. -/
theorem authenticate (h : Cleaned removed db db') (now : Instant) (token : String) :
    (authenticateUserSession lib db' now token).2 =
      (authenticateUserSession lib db now token).2.filter fun p => !(sessionIds removed).contains p.sessionId := by
  rw [authenticateUserSession_snd, authenticateUserSession_snd]
  ext p
  simp only [Option.bind_eq_some_iff, Option.filter_eq_some_iff, sessionOf_eq_some, h.mem_iff,
    h.agree.sessionPrincipal]
  constructor
  · rintro ⟨row, ⟨htoken, ⟨hrow, hid⟩, hhash⟩, hp⟩
    obtain ⟨-, -, -, -, -, -, hvalue⟩ := sessionPrincipal_eq_some.mp hp
    refine ⟨⟨row, ⟨htoken, hrow, hhash⟩, hp⟩, ?_⟩
    rw [hvalue]
    simpa using hid
  · rintro ⟨⟨row, ⟨htoken, hrow, hhash⟩, hp⟩, hleft⟩
    obtain ⟨-, -, -, -, -, -, hvalue⟩ := sessionPrincipal_eq_some.mp hp
    rw [hvalue] at hleft
    exact ⟨row, ⟨htoken, ⟨hrow, by simpa using hleft⟩, hhash⟩, hp⟩

/-- Changing one session changes nothing where that session was removed. -/
theorem map_removed (h : Cleaned removed db db') {sessionId : String} (hid : sessionId ∈ sessionIds removed)
    (change : UserSessionRow → UserSessionRow) :
    db'.userSessions.rows.map (changeAt sessionId change) = db'.userSessions.rows := by
  refine (List.map_congr_left fun row hrow => ?_).trans (List.map_id _)
  have hother : row.id ≠ sessionId := fun heq => (h.mem_iff.mp hrow).2 (heq ▸ hid)
  exact if_neg hother

/-- The databases stay apart by the removed sessions when a session is changed that may be removed. -/
theorem assign (h : Cleaned removed db db') {sessionId : String} {change : UserSessionRow → UserSessionRow}
    (hagree : Agree db₁ db₁')
    (hrows : db₁.userSessions.rows = db.userSessions.rows.map (changeAt sessionId change))
    (hrows' : db₁'.userSessions.rows = db'.userSessions.rows.map (changeAt sessionId change) ∨
      sessionId ∈ sessionIds removed ∧ db₁'.userSessions.rows = db'.userSessions.rows)
    (hchange : ∀ row, (change row).id = row.id ∧ (change row).tokenHash = row.tokenHash ∧
      (change row).expiresAt = row.expiresAt) :
    Cleaned removed db₁ db₁' := by
  have hsame : ∀ row, (changeAt sessionId change row).id = row.id ∧
      (changeAt sessionId change row).tokenHash = row.tokenHash ∧
      (changeAt sessionId change row).expiresAt = row.expiresAt := by
    intro row
    unfold changeAt
    split
    · exact hchange row
    · exact ⟨rfl, rfl, rfl⟩
  rcases hrows' with hboth | ⟨hid, hleft⟩
  · exact h.change hsame hagree hrows hboth
  · exact h.change hsame hagree hrows (hleft.trans (h.map_removed hid change).symm)

/-- An authentication stamps the same session in both databases, or one that was removed. -/
theorem authenticated (h : Cleaned removed db db') (now : Instant) (token : String) :
    Cleaned removed (authenticateUserSession lib db now token).1 (authenticateUserSession lib db' now token).1 := by
  have hanswers := @authenticate lib db db' removed h now token
  obtain heq | ⟨principal, heq⟩ := authenticateUserSession_cases lib db now token
  · rw [heq] at hanswers ⊢
    obtain heq' | ⟨principal', heq'⟩ := authenticateUserSession_cases lib db' now token
    · rw [heq']
      exact h
    · rw [heq'] at hanswers
      cases hanswers
  · rw [heq] at hanswers ⊢
    by_cases hid : principal.sessionId ∈ sessionIds removed
    · obtain heq' | ⟨principal', heq'⟩ := authenticateUserSession_cases lib db' now token
      · rw [heq']
        exact h.assign h.agree (rows_touchSession db principal.sessionId now)
          (Or.inr ⟨hid, rfl⟩) fun row => ⟨rfl, rfl, rfl⟩
      · rw [heq'] at hanswers
        simp [Option.filter, hid] at hanswers
    · obtain heq' | ⟨principal', heq'⟩ := authenticateUserSession_cases lib db' now token
      · rw [heq'] at hanswers
        simp [Option.filter, hid] at hanswers
      · rw [heq'] at hanswers ⊢
        have hprincipal : principal' = principal := by simpa [Option.filter, hid] using hanswers
        rw [hprincipal]
        exact h.assign h.agree (rows_touchSession db principal.sessionId now)
          (Or.inl (rows_touchSession db' principal.sessionId now)) fun row => ⟨rfl, rfl, rfl⟩

/-- A revocation stamps the same session in both databases, or one that was removed. -/
theorem revoked (h : Cleaned removed db db') (draw : IdentityDraw) (tenantId sessionId actor : String)
    (requestId : Option String) :
    Cleaned removed (revokeUserSession db draw tenantId sessionId actor requestId).1
      (revokeUserSession db' draw tenantId sessionId actor requestId).1 := by
  obtain ⟨heq', hnone⟩ | ⟨row', hrow', htenant', hid', hcase'⟩ :=
    revokeUserSession_cases db' draw tenantId sessionId actor requestId
  · rw [heq']
    obtain ⟨heq, -⟩ | ⟨row, hrow, htenant, hid, ⟨-, heq⟩ | ⟨-, heq⟩⟩ :=
      revokeUserSession_cases db draw tenantId sessionId actor requestId
    · rw [heq]
      exact h
    · rw [heq]
      exact h
    · rw [heq]
      have hremoved : sessionId ∈ sessionIds removed := by
        by_contra hleft
        exact hnone row (h.mem_iff.mpr ⟨hrow, hid ▸ hleft⟩) htenant hid
      exact h.assign h.agree (rows_stampSession db sessionId draw.now)
        (Or.inr ⟨hremoved, rfl⟩) fun row => ⟨rfl, rfl, rfl⟩
  · obtain ⟨hrow, -⟩ := h.mem_iff.mp hrow'
    obtain ⟨-, hnone⟩ | ⟨row, hfound, -, hid, hcase⟩ :=
      revokeUserSession_cases db draw tenantId sessionId actor requestId
    · exact absurd hid' (hnone row' hrow htenant')
    · cases session_eq_of_id hfound hrow (hid.trans hid'.symm)
      obtain ⟨hrevoked, heq⟩ | ⟨hlive, heq⟩ := hcase
      · obtain ⟨-, heq'⟩ | ⟨hlive', -⟩ := hcase'
        · rw [heq, heq']
          exact h
        · exact absurd hlive' hrevoked
      · obtain ⟨hrevoked', -⟩ | ⟨-, heq'⟩ := hcase'
        · exact absurd hlive hrevoked'
        · rw [heq, heq']
          exact h.assign h.agree (rows_stampSession db sessionId draw.now)
            (Or.inl (rows_stampSession db' sessionId draw.now)) fun row => ⟨rfl, rfl, rfl⟩

/-- The databases stay apart by the removed sessions when a new one is added to both. -/
theorem push (h : Cleaned removed db db') {row : UserSessionRow} (hrow : row.id ∉ sessionIds removed)
    (hagree : Agree db₁ db₁') (hrows : db₁.userSessions.rows = db.userSessions.rows ++ [row])
    (hrows' : db₁'.userSessions.rows = db'.userSessions.rows ++ [row]) : Cleaned removed db₁ db₁' where
  agree := hagree
  rows := by
    rw [hrows', hrows, h.rows, List.filter_append]
    simp [hrow]
  known old hold hid := by
    rw [hrows] at hold
    rcases List.mem_append.mp hold with hbefore | hnew
    · exact h.known old hbefore hid
    · rw [List.mem_singleton.mp hnew] at hid
      exact absurd hid hrow

/-- A session is issued in both databases or in neither, unless it is drawn like one that was removed. -/
theorem issued (h : Cleaned removed db db') (hfresh : DrawnApart lib removed draw)
    (identityClientId tenantId userId : String) (ttlSeconds : ℤ) (actor : String) (requestId : Option String) :
    Alike (fun success success' => Cleaned removed success.1 success'.1)
      (issueUserSession lib db draw identityClientId tenantId userId ttlSeconds actor requestId)
      (issueUserSession lib db' draw identityClientId tenantId userId ttlSeconds actor requestId) := by
  obtain ⟨hclient, htenant, huser, hmembership⟩ := h.agree.lookups
  unfold issueUserSession
  rw [hclient, htenant, huser, hmembership]
  refine .bind fun ttl _ => .bind fun _ _ => .bind fun tenant _ => .bind fun _ _ => .bind fun _ _ => ?_
  refine .bind fun _ _ => .bind fun _ _ => ?_
  cases hinsert : db.userSessions.insert ⟨"ses_" ++ draw.uuid, hashSessionToken lib (sessionToken draw.urlsafe),
    userId, tenantId, identityClientId, draw.now, draw.now + ttl, none, none⟩ with
  | none =>
    obtain ⟨old, hold, hconflict⟩ := (Table.insert_eq_none_iff _ _).mp hinsert
    have hleft : old.id ∉ sessionIds removed := by
      intro hid
      obtain ⟨gone, hgone, hsameId, hsameHash, -⟩ := h.known old hold hid
      rcases hconflict with hconflict | hconflict
      · exact (hfresh gone hgone).1 (hsameId.symm.trans hconflict)
      · exact (hfresh gone hgone).2 (hsameHash.symm.trans hconflict)
    have hinsert' : db'.userSessions.insert _ = none :=
      (Table.insert_eq_none_iff _ _).mpr ⟨old, h.mem_iff.mpr ⟨hold, hleft⟩, hconflict⟩
    rw [hinsert']
    exact trivial
  | some userSessions =>
    obtain ⟨hrows, hfree⟩ := Table.insert_eq_some hinsert
    cases hinsert' : db'.userSessions.insert ⟨"ses_" ++ draw.uuid,
      hashSessionToken lib (sessionToken draw.urlsafe), userId, tenantId, identityClientId, draw.now,
      draw.now + ttl, none, none⟩ with
    | none =>
      obtain ⟨old, hold, hconflict⟩ := (Table.insert_eq_none_iff _ _).mp hinsert'
      exact absurd hconflict (hfree old (h.mem_iff.mp hold).1)
    | some userSessions' => exact h.push hfresh.id h.agree hrows (Table.insert_eq_some hinsert').1

/-- A further cleanup deletes the same sessions of those that are left. -/
theorem deleted (h : Cleaned removed db db') (draw : IdentityDraw) (before : Option Timestamp) :
    Alike (fun success success' => Cleaned removed success.1 success'.1)
      (cleanupExpiredUserSessions db draw before) (cleanupExpiredUserSessions db' draw before) := by
  refine .bind fun cutoff _ => ⟨h.agree, ?_, fun row hrow hid => ?_⟩
  · change db'.userSessions.rows.filter _ = (db.userSessions.rows.filter _).filter _
    rw [h.rows]
    exact List.filter_comm _ _ _
  · exact h.known row (List.mem_filter.mp hrow).1 hid

/-- Any operation leaves the databases apart by the removed sessions. -/
theorem afterCall (h : Cleaned removed db db') (hfresh : DrawnApart lib removed draw) (call : IdentityCall) :
    Cleaned removed (afterCall lib db (draw, call)) (afterCall lib db' (draw, call)) := by
  by_cases hpart : part call = some .userSessions
  · cases call with
    | issueUserSession identityClientId tenantId userId ttlSeconds actor requestId =>
      have hissued := h.issued hfresh identityClientId tenantId userId ttlSeconds actor requestId
      exact afterCall_alike h (alike_answer hissued)
    | authenticateUserSession token => exact h.authenticated draw.now token
    | revokeUserSession tenantId sessionId actor requestId =>
      exact h.revoked draw tenantId sessionId actor requestId
    | cleanupExpiredUserSessions before => exact afterCall_alike h (alike_answer (h.deleted draw before))
    | _ => cases hpart
  · exact h.other hpart

/-- Any sequence of operations leaves the databases apart by the removed sessions. -/
theorem afterCalls (h : Cleaned removed db db') (calls : List (IdentityDraw × IdentityCall))
    (hfresh : ∀ made ∈ calls, DrawnApart lib removed made.1) :
    Cleaned removed (calls.foldl (Identity.afterCall lib) db) (calls.foldl (Identity.afterCall lib) db') := by
  induction calls generalizing db db' with
  | nil => exact h
  | cons made calls ih =>
    have hnext := h.afterCall (hfresh made List.mem_cons_self) made.2
    exact ih hnext fun made' hmade => hfresh made' (List.mem_cons_of_mem _ hmade)

end Cleaned

/-- API keys are authenticated alike in databases that agree. -/
theorem Agree.authenticateApiKey (h : Agree db db') (now : Instant) (token : String) :
    authenticateApiKey lib db' now token = authenticateApiKey lib db now token := by
  obtain ⟨-, -, -, hkeys, -⟩ := h.tables
  obtain ⟨-, htenant, -, -⟩ := h.lookups
  unfold Identity.authenticateApiKey apiKeyPrincipal
  rw [hkeys, htenant]

/-- Identity clients are authenticated alike in databases that agree. -/
theorem Agree.authenticateIdentityClient (h : Agree db db') (now : Instant) (token : String)
    (issuer : Option String) : (authenticateIdentityClient lib db' now token issuer).2 =
      (authenticateIdentityClient lib db now token issuer).2 := by
  obtain ⟨-, -, -, -, hclients⟩ := h.tables
  rw [authenticateIdentityClient_snd, authenticateIdentityClient_snd]
  unfold acceptedClient
  rw [hclients]

/-- A session that was removed by a cutoff is accepted nowhere from the cutoff on. -/
theorem Cleaned.authenticate_after {removed : List UserSessionRow} (h : Cleaned removed db db') {cutoff : Instant}
    (hremoved : ∀ old ∈ removed, old.expiresAt ≤ cutoff) {now : Instant} (hnow : cutoff ≤ now) (token : String) :
    (authenticateUserSession lib db' now token).2 = (authenticateUserSession lib db now token).2 := by
  rw [h.authenticate now token]
  cases hp : (authenticateUserSession lib db now token).2 with
  | none => rfl
  | some p =>
    rw [authenticateUserSession_snd, Option.bind_eq_some_iff] at hp
    obtain ⟨row, hfound, hprincipal⟩ := hp
    obtain ⟨-, hrow, -⟩ := sessionOf_eq_some.mp hfound
    obtain ⟨-, hlive, -, -, -, -, hvalue⟩ := sessionPrincipal_eq_some.mp hprincipal
    have hleft : p.sessionId ∉ sessionIds removed := by
      intro hid
      rw [hvalue] at hid
      obtain ⟨old, hold, -, -, hexpiry⟩ := h.known row hrow hid
      have hexpired : row.expiresAt ≤ now := hexpiry.le.trans ((hremoved old hold).trans hnow)
      exact absurd hlive (not_lt.mpr hexpired)
    simp [Option.filter, hleft]

/-- A cleanup with no cutoff, or with one that has a timezone, succeeds. -/
theorem cleanupExpiredUserSessions_ok (db : IdentityDatabase) (draw : IdentityDraw) {before : Option Timestamp}
    (hbefore : ∀ value ∈ before, value.aware = true) :
    let cutoff := (before.map Timestamp.micros).getD draw.now
    let expired := fun row : UserSessionRow => decide (row.expiresAt ≤ cutoff)
    cleanupExpiredUserSessions db draw before =
      .ok ({ db with userSessions := db.userSessions.delete expired }, (db.userSessions.select expired).length) := by
  cases before with
  | none => rfl
  | some value =>
    have haware := hbefore value rfl
    simp only [cleanupExpiredUserSessions, cleanupCutoff, normalizeExpiry, require, haware, if_true]
    rfl

/-- A cleanup with no cutoff, or with one that has a timezone, removes no audit event; and whatever is done
afterwards, API keys and identity clients are answered as without it, and so are sessions but for those that
it deleted, which are missed only before the cutoff. -/
theorem cleanup_unobservable (lib : SecretLibrary) (db : IdentityDatabase) (draw : IdentityDraw)
    (before : Option Timestamp) (hbefore : ∀ value ∈ before, value.aware = true) :
    let cutoff := (before.map Timestamp.micros).getD draw.now
    let removed := db.userSessions.select fun row => row.expiresAt ≤ cutoff
    ∃ cleaned, cleanupExpiredUserSessions db draw before = .ok (cleaned, removed.length) ∧
      cleaned.auditEvents = db.auditEvents ∧
      ∀ calls : List (IdentityDraw × IdentityCall), (∀ made ∈ calls, DrawnApart lib removed made.1) →
        let after := calls.foldl (afterCall lib) db
        let after' := calls.foldl (afterCall lib) cleaned
        ∀ (now : Instant) (token : String),
          authenticateApiKey lib after' now token = authenticateApiKey lib after now token ∧
          (∀ issuer, (authenticateIdentityClient lib after' now token issuer).2 =
            (authenticateIdentityClient lib after now token issuer).2) ∧
          (authenticateUserSession lib after' now token).2 =
            ((authenticateUserSession lib after now token).2.filter fun p =>
              !(sessionIds removed).contains p.sessionId) ∧
          (cutoff ≤ now → (authenticateUserSession lib after' now token).2 =
            (authenticateUserSession lib after now token).2) := by
  intro cutoff removed
  refine ⟨_, cleanupExpiredUserSessions_ok db draw hbefore, rfl, fun calls hfresh => ?_⟩
  intro after after' now token
  have hcleaned : Cleaned removed after after' :=
    (Cleaned.of_delete db fun row => row.expiresAt ≤ cutoff).afterCalls calls hfresh
  have hremoved : ∀ old ∈ removed, old.expiresAt ≤ cutoff := fun old hold =>
    of_decide_eq_true (List.mem_filter.mp hold).2
  exact ⟨hcleaned.agree.authenticateApiKey now token,
    fun issuer => hcleaned.agree.authenticateIdentityClient now token issuer,
    hcleaned.authenticate now token, fun hnow => hcleaned.authenticate_after hremoved hnow token⟩

section

open Exchange

/-- A member of the tenant with a session of a minute and one of five. -/
def seated : IdentityDatabase :=
  [(letterDraw 0 "3" 'c', IdentityCall.upsertUser "https://idp" "u" none none),
    (letterDraw 0 "4" 'd', .setMembership "tenant-a" "usr_3" "viewer" "system"),
    (letterDraw 0 "5" 'e', .issueUserSession "idc_2" "tenant-a" "usr_3" 60 "system" none),
    (letterDraw 0 "6" 'f', .issueUserSession "idc_2" "tenant-a" "usr_3" 300 "system" none)].foldl
    (afterCall plainDigests) bridged

/-- The token of the longer session. -/
def seatedToken : String := sessionToken (letterDraw 0 "6" 'f').urlsafe

/-- The theorem applies to a cleanup after two minutes, which deletes the shorter session and not the other. -/
theorem cleanup_unobservable_seated :
    ∃ cleaned, cleanupExpiredUserSessions seated (drawOf (120 * PyTime.second) "7" 'g' rfl) none = .ok (cleaned, 1) ∧
      (authenticateUserSession plainDigests cleaned (120 * PyTime.second) seatedToken).2 =
        (authenticateUserSession plainDigests seated (120 * PyTime.second) seatedToken).2 := by
  obtain ⟨cleaned, hcleaned, -, hsame⟩ := cleanup_unobservable plainDigests seated
    (drawOf (120 * PyTime.second) "7" 'g' rfl) none (by simp)
  have hone : (seated.userSessions.select fun row => row.expiresAt ≤ 120 * PyTime.second).length = 1 := by
    decide +kernel
  obtain ⟨-, -, -, hsession⟩ := hsame [] (by simp) (120 * PyTime.second) seatedToken
  exact ⟨cleaned, hone ▸ hcleaned, hsession le_rfl⟩

/-- A cutoff in the future ends a session that is alive. -/
theorem cleanup_ends_live_session :
    ¬ ∀ (lib : SecretLibrary) (db cleaned : IdentityDatabase) (draw : IdentityDraw) (before : Option Timestamp)
      (count : ℕ), (∀ value ∈ before, value.aware = true) →
      cleanupExpiredUserSessions db draw before = .ok (cleaned, count) →
      ∀ (now : Instant) (token : String), draw.now ≤ now →
        (authenticateUserSession lib cleaned now token).2 = (authenticateUserSession lib db now token).2 := by
  intro hclaim
  have hcleanup := @cleanupExpiredUserSessions_ok seated (drawOf PyTime.second "7" 'g' rfl)
    (some ⟨3600 * PyTime.second, true⟩) (by simp)
  have hsame := hclaim plainDigests seated _ _ _ _ (by simp) hcleanup PyTime.second seatedToken le_rfl
  revert hsame
  decide +kernel

end

end Identity

end SharedIntegration

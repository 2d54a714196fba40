import SharedIntegration.SessionRevocation

/-!
# Revoking a session over HTTP is safe

A session is ended over HTTP only by a request whose bearer token was accepted as that session or as the
identity client that issued it; a request ends one session at most, and none unless it is answered with
status 200; and then the session that it addressed is accepted no more.
-/

namespace SharedIntegration

open Relational Transition

namespace Revocation

open Exchange (Fresh SessionsKept SessionsDrawn SameSession)

variable {lib : SecretLibrary} {configured : Bool} {db db' : IdentityDatabase} {drawn : List IdentityDraw}
  {draw : IdentityDraw} {request : RevokeCall} {pc pc' : Pc} {s s' : System} {index : ℕ}

/-- The session that a request has come to address: its own, or the target of its bridge. -/
def Locals.addressed (locals : Locals) : Option UserSessionPrincipal :=
  locals.sessionPrincipal.or locals.target

/-- A session that is accepted is stored, as what it stands for. -/
theorem exists_row_of_authenticated {now : Instant} {token : String} {p : UserSessionPrincipal}
    (h : (Identity.authenticateUserSession lib db now token).2 = some p) :
    ∃ row ∈ db.userSessions.rows, row.id = p.sessionId ∧ row.tenantId = p.tenantId ∧
      row.identityClientId = p.identityClientId ∧ row.revokedAt = none := by
  rw [Identity.authenticateUserSession_snd, Option.bind_eq_some_iff] at h
  obtain ⟨row, hfound, hprincipal⟩ := h
  obtain ⟨-, hrow, -⟩ := Identity.sessionOf_eq_some.mp hfound
  obtain ⟨hlive, -, -, -, -, -, hp⟩ := Identity.sessionPrincipal_eq_some.mp hprincipal
  refine ⟨row, hrow, ?_, ?_, ?_, hlive⟩
  · rw [hp]
  · rw [hp]
  · rw [hp]

/-- Authenticating a client changes no session. -/
theorem authenticateIdentityClient_sessions (lib : SecretLibrary) (db : IdentityDatabase) (now : Instant)
    (token : String) (issuer : Option String) :
    (Identity.authenticateIdentityClient lib db now token issuer).1.userSessions = db.userSessions := by
  obtain ⟨-, heq⟩ | ⟨row, -, heq⟩ := Identity.authenticateIdentityClient_cases lib db now token issuer
  · rw [heq]
  · rw [heq]
    rfl

/-- What an accepted session does next addresses that session, and is answered with 200 by no means yet. -/
theorem ownDecision_cases (request : RevokeCall) (principal : UserSessionPrincipal) :
    ownDecision request principal = .revokingOwn principal ∨
    ∃ answer, ownDecision request principal = .answered answer ⟨some principal, none, none⟩ ∧
      answer.statusCode ≠ 200 := by
  unfold ownDecision
  split
  · exact Or.inl rfl
  · split
    · exact Or.inr ⟨_, rfl, (by decide : 500 ≠ 200)⟩
    · exact Or.inr ⟨_, rfl, (by decide : 403 ≠ 200)⟩
    · exact Or.inl rfl

/-- Everything that a transaction of a revocation can do. -/
inductive Advanced (lib : SecretLibrary) (db : IdentityDatabase) (draw : IdentityDraw) (request : RevokeCall) :
    Pc → IdentityDatabase → Pc → Prop
  | own {principal : UserSessionPrincipal} {pc' : Pc}
      (haccepted : (Identity.authenticateUserSession lib db draw.now (bearer request)).2 = some principal)
      (hlocals : pc'.locals = ⟨some principal, none, none⟩)
      (hpc : pc' = .revokingOwn principal ∨ ∃ answer, pc' = .answered answer ⟨some principal, none, none⟩ ∧
        answer.statusCode ≠ 200) :
      Advanced lib db draw request .authenticatingSession
        (Identity.authenticateUserSession lib db draw.now (bearer request)).1 pc'
  | other : Advanced lib db draw request .authenticatingSession
      (Identity.authenticateUserSession lib db draw.now (bearer request)).1 .authenticatingClient
  | client {bridge : IdentityClientPrincipal} {text : String}
      (haccepted : (Identity.authenticateIdentityClient lib db draw.now (bearer request) none).2 = some bridge)
      (htarget : request.named = some text) :
      Advanced lib db draw request .authenticatingClient
        (Identity.authenticateIdentityClient lib db draw.now (bearer request) none).1
        (.authenticatingTarget bridge text)
  | target {bridge : IdentityClientPrincipal} {target : UserSessionPrincipal} {text : String} {pc' : Pc}
      (haccepted : (Identity.authenticateUserSession lib db draw.now text).2 = some target)
      (hlocals : pc'.locals = ⟨none, some bridge, some target⟩)
      (hpc : pc' = .revokingTarget bridge target ∧ target.identityClientId = bridge.identityClientId ∨
        ∃ answer, pc' = .answered answer ⟨none, some bridge, some target⟩ ∧ answer.statusCode ≠ 200) :
      Advanced lib db draw request (.authenticatingTarget bridge text)
        (Identity.authenticateUserSession lib db draw.now text).1 pc'
  | refused {pc : Pc} {db' : IdentityDatabase} {answer : JsonAnswer} {locals : Locals}
      (hdb : db'.userSessions = db.userSessions) (haddressed : locals.addressed = none)
      (hbridge : ∀ bridge, locals.bridge = some bridge → pc.locals.bridge = some bridge ∨
        (Identity.authenticateIdentityClient lib db draw.now (bearer request) none).2 = some bridge)
      (hstatus : answer.statusCode ≠ 200) : Advanced lib db draw request pc db' (.answered answer locals)
  | revoke {pc : Pc} {principal : UserSessionPrincipal} {actor : String}
      (hpc : pc = .revokingOwn principal ∨ ∃ bridge, pc = .revokingTarget bridge principal) :
      Advanced lib db draw request pc
        (Identity.revokeUserSession db draw principal.tenantId principal.sessionId actor
          (some request.requestId)).1 (.answered RevokeCall.revoked pc.locals)

/-- A transaction of a revocation does one of these. -/
theorem advance_cases (h : Call.advance lib db draw ⟨request, pc⟩ = some (db', pc')) :
    Advanced lib db draw request pc db' pc' := by
  cases pc with
  | answered answer locals => cases h
  | authenticatingSession =>
    simp only [Call.advance] at h
    split at h
    · next heq =>
      cases h
      have hother := @Advanced.other lib db draw request
      rwa [heq] at hother
    · next principal heq =>
      cases h
      have hown : Advanced lib db draw request .authenticatingSession
          (Identity.authenticateUserSession lib db draw.now (bearer request)).1 (ownDecision request principal) := by
        obtain hrevoking | ⟨answer, hanswer, hstatus⟩ := ownDecision_cases request principal
        · exact .own (by rw [heq]) (by rw [hrevoking]; rfl) (Or.inl hrevoking)
        · exact .own (by rw [heq]) (by rw [hanswer]; rfl) (Or.inr ⟨answer, hanswer, hstatus⟩)
      rwa [heq] at hown
  | revokingOwn principal =>
    cases h
    exact .revoke (Or.inl rfl)
  | authenticatingClient =>
    simp only [Call.advance] at h
    split at h
    · next bridge text heq htarget =>
      cases h
      have hclient := @Advanced.client lib db draw request bridge text (by rw [heq]) htarget
      rwa [heq] at hclient
    · next bridge _ _ heq _ =>
      cases h
      have hdb := authenticateIdentityClient_sessions lib db draw.now (bearer request) none
      rw [heq] at hdb
      refine .refused hdb rfl (fun bridge' hbridge => Or.inr ?_) (by decide : 401 ≠ 200)
      rw [heq]
      exact hbridge
  | authenticatingTarget bridge text =>
    simp only [Call.advance] at h
    split at h
    · next heq =>
      cases h
      obtain hnone | ⟨principal, hsome⟩ := Identity.authenticateUserSession_cases lib db draw.now text
      · cases heq.symm.trans hnone
        exact .refused rfl rfl (fun bridge' hbridge => Or.inl hbridge) (by decide : 401 ≠ 200)
      · cases heq.symm.trans hsome
    · next target heq =>
      split at h
      · next hissuer =>
        cases h
        have htarget : Advanced lib db draw request (.authenticatingTarget bridge text)
            (Identity.authenticateUserSession lib db draw.now text).1 (.revokingTarget bridge target) :=
          .target (by rw [heq]) rfl (Or.inl ⟨rfl, hissuer⟩)
        rwa [heq] at htarget
      · cases h
        have htarget : Advanced lib db draw request (.authenticatingTarget bridge text)
            (Identity.authenticateUserSession lib db draw.now text).1
            (.answered request.authenticationFailed ⟨none, some bridge, some target⟩) :=
          .target (by rw [heq]) rfl (Or.inr ⟨_, rfl, (by decide : 401 ≠ 200)⟩)
        rwa [heq] at htarget
  | revokingTarget bridge target =>
    cases h
    exact .revoke (Or.inr ⟨bridge, rfl⟩)

/-- A transaction of a revocation keeps the sessions. -/
theorem Advanced.keeps (h : Advanced lib db draw request pc db' pc') : SessionsKept db db' := by
  cases h with
  | own => exact (Exchange.authenticateUserSession_keeps lib db draw.now (bearer request)).2
  | other => exact (Exchange.authenticateUserSession_keeps lib db draw.now (bearer request)).2
  | client =>
    exact SessionsKept.of_eq (authenticateIdentityClient_sessions lib db draw.now (bearer request) none)
  | @target _ _ text => exact (Exchange.authenticateUserSession_keeps lib db draw.now text).2
  | refused hdb => exact SessionsKept.of_eq hdb
  | @revoke _ principal actor =>
    exact (Exchange.revokeUserSession_spec db draw principal.tenantId principal.sessionId actor
      (some request.requestId)).2.1

/-- Between two databases with the same revocations no session is stamped. -/
theorem stampedBetween_eq_nil (h : ∀ row' ∈ db'.userSessions.rows, ∃ row ∈ db.userSessions.rows,
    row.id = row'.id ∧ row.revokedAt = row'.revokedAt) : stampedBetween db db' = [] := by
  rw [stampedBetween, List.filter_eq_nil_iff]
  intro row hrow hstamped
  rw [Bool.and_eq_true, List.any_eq_true] at hstamped
  obtain ⟨hlive, row', hrow', hmatch⟩ := hstamped
  rw [Bool.and_eq_true, decide_eq_true_eq] at hmatch
  obtain ⟨before, hbefore, hid, hsame⟩ := h row' hrow'
  rw [Identity.session_eq_of_id hbefore hrow (hid.trans hmatch.1), Option.isNone_iff_eq_none.mp hlive] at hsame
  rw [← hsame] at hmatch
  cases hmatch.2

/-- An authentication stamps no revocation. -/
theorem stampedBetween_authenticate (lib : SecretLibrary) (db : IdentityDatabase) (now : Instant)
    (token : String) : stampedBetween db (Identity.authenticateUserSession lib db now token).1 = [] := by
  refine stampedBetween_eq_nil fun row' hrow' => ?_
  obtain heq | ⟨principal, heq⟩ := Identity.authenticateUserSession_cases lib db now token
  · rw [heq] at hrow'
    exact ⟨row', hrow', rfl, rfl⟩
  · rw [heq] at hrow'
    obtain ⟨row, hrow, rfl⟩ := List.mem_map.mp hrow'
    refine ⟨row, hrow, ?_⟩
    split
    · exact ⟨rfl, rfl⟩
    · exact ⟨rfl, rfl⟩

/-- A revocation stamps the session that it names at most. -/
theorem mem_stampedBetween_revoke {tenantId sessionId actor : String} {requestId : Option String}
    {row : UserSessionRow}
    (hrow : row ∈ stampedBetween db (Identity.revokeUserSession db draw tenantId sessionId actor requestId).1) :
    row ∈ db.userSessions.rows ∧ row.id = sessionId := by
  obtain ⟨hmem, hstamped⟩ := List.mem_filter.mp hrow
  refine ⟨hmem, ?_⟩
  rw [Bool.and_eq_true, List.any_eq_true] at hstamped
  obtain ⟨hlive, row', hrow', hmatch⟩ := hstamped
  rw [Bool.and_eq_true, decide_eq_true_eq] at hmatch
  obtain ⟨hid, hrevoked⟩ := hmatch
  -- a row that is the one before cannot have been stamped
  have hunchanged : row' ∈ db.userSessions.rows → False := by
    intro hbefore
    rw [Identity.session_eq_of_id hbefore hmem hid, Option.isNone_iff_eq_none.mp hlive] at hrevoked
    cases hrevoked
  obtain ⟨heq, -⟩ | ⟨found, hfound, htenant, hfoundId, ⟨-, heq⟩ | ⟨-, heq⟩⟩ :=
    Identity.revokeUserSession_cases db draw tenantId sessionId actor requestId
  · rw [heq] at hrow'
    exact absurd hrow' hunchanged
  · rw [heq] at hrow'
    exact absurd hrow' hunchanged
  · rw [heq] at hrow'
    obtain ⟨before, hbefore, rfl⟩ := List.mem_map.mp hrow'
    by_cases hold : before.id = sessionId
    · simp only [hold, decide_true, if_true] at hid
      exact hid.symm
    · simp only [hold, decide_false, Bool.false_eq_true, if_false] at hunchanged
      exact absurd hbefore hunchanged

/-- Sessions of one id are at most one. -/
theorem length_stampedBetween_le {sessionId : String}
    (h : ∀ row ∈ stampedBetween db db', row.id = sessionId) : (stampedBetween db db').length ≤ 1 := by
  have hselect := db.userSessions.select_eq_toList_find (fun row => row.id = sessionId)
    fun _ _ ha hb => Or.inl ((of_decide_eq_true ha).trans (of_decide_eq_true hb).symm)
  have hcount : (stampedBetween db db').length ≤ (db.userSessions.select fun row => row.id = sessionId).length := by
    rw [stampedBetween, Table.select, ← List.countP_eq_length_filter, ← List.countP_eq_length_filter]
    exact List.countP_mono_left fun row hrow hstamped =>
      decide_eq_true (h row (List.mem_filter.mpr ⟨hrow, hstamped⟩))
  rw [hselect] at hcount
  exact hcount.trans (by cases db.userSessions.find fun row => row.id = sessionId <;> simp)

/-- A transaction of a revocation stamps a session only where it is answered with 200, and then the one
that it addresses at most. -/
theorem Advanced.stamps (h : Advanced lib db draw request pc db' pc') :
    stampedBetween db db' = [] ∨ ∃ p, (pc = .revokingOwn p ∨ ∃ bridge, pc = .revokingTarget bridge p) ∧
      pc' = .answered RevokeCall.revoked pc.locals ∧ ∀ row ∈ stampedBetween db db', row ∈ db.userSessions.rows ∧
        row.id = p.sessionId := by
  cases h with
  | own => exact Or.inl (stampedBetween_authenticate lib db draw.now (bearer request))
  | other => exact Or.inl (stampedBetween_authenticate lib db draw.now (bearer request))
  | client =>
    have hsame := authenticateIdentityClient_sessions lib db draw.now (bearer request) none
    exact Or.inl (stampedBetween_eq_nil fun row hrow => ⟨row, hsame ▸ hrow, rfl, rfl⟩)
  | @target _ _ text => exact Or.inl (stampedBetween_authenticate lib db draw.now text)
  | refused hdb => exact Or.inl (stampedBetween_eq_nil fun row hrow => ⟨row, hdb ▸ hrow, rfl, rfl⟩)
  | @revoke _ principal _ hpc => exact Or.inr ⟨principal, hpc, rfl, fun row hrow => mem_stampedBetween_revoke hrow⟩

/-- A request that has addressed a session has had it accepted: by its bearer token, or by the token of its
body. -/
def AcceptedAs (lib : SecretLibrary) (db : IdentityDatabase) (draw : IdentityDraw) (request : RevokeCall)
    (principal : UserSessionPrincipal) : Prop :=
  (Identity.authenticateUserSession lib db draw.now (bearer request)).2 = some principal ∨
    ∃ text, request.named = some text ∧
      (Identity.authenticateUserSession lib db draw.now text).2 = some principal

/-- What a request can rely on at every point, whatever else is going on. -/
structure Sound (db : IdentityDatabase) (drawn : List IdentityDraw) (request : RevokeCall) (pc : Pc) : Prop where
  target : ∀ bridge text, pc = .authenticatingTarget bridge text → request.named = some text
  issuer : ∀ bridge target, pc = .revokingTarget bridge target →
    target.identityClientId = bridge.identityClientId
  drawn : ∀ p ∈ pc.locals.addressed, ∃ draw ∈ drawn, p.sessionId = "ses_" ++ draw.uuid
  session : ∀ p ∈ pc.locals.addressed, ∀ row ∈ db.userSessions.rows, row.id = p.sessionId →
    row.tenantId = p.tenantId ∧ row.identityClientId = p.identityClientId
  ended : ∀ answer locals, pc = .answered answer locals → answer.statusCode = 200 →
    ∃ p, locals.addressed = some p ∧ ∀ row ∈ db.userSessions.rows, row.id = p.sessionId → row.revokedAt.isSome

/-- Every stored session has been drawn. -/
def AllDrawn (db : IdentityDatabase) (drawn : List IdentityDraw) : Prop :=
  ∀ row ∈ db.userSessions.rows, ∃ draw ∈ drawn, row.id = "ses_" ++ draw.uuid

/-- A uuid that was just drawn is not one that was drawn before. -/
theorem id_ne_of_fresh (hfresh : Fresh drawn draw) {id : String} (hid : ∃ old ∈ drawn, id = "ses_" ++ old.uuid) :
    id ≠ "ses_" ++ draw.uuid := by
  obtain ⟨old, hold, rfl⟩ := hid
  intro heq
  rw [← String.toList_inj, String.toList_append, String.toList_append, List.append_right_inj,
    String.toList_inj] at heq
  exact (hfresh old hold).1 heq

/-- Stored sessions stay drawn. -/
theorem AllDrawn.frame (h : AllDrawn db drawn) (hsessions : SessionsDrawn lib draw db db') :
    AllDrawn db' (drawn ++ [draw]) := by
  intro row hrow
  obtain ⟨old, hold, hsame⟩ | ⟨hid, -⟩ := hsessions row hrow
  · obtain ⟨before, hbefore, hid⟩ := h old hold
    exact ⟨before, List.mem_append_left _ hbefore, hsame.id.trans hid⟩
  · exact ⟨draw, List.mem_append_right _ List.mem_cons_self, hid⟩

/-- A request keeps what it relies on when another transaction runs. -/
theorem Sound.frame (h : Sound db drawn request pc) (hfresh : Fresh drawn draw)
    (hsessions : SessionsDrawn lib draw db db') : Sound db' (drawn ++ [draw]) request pc where
  target := h.target
  issuer := h.issuer
  drawn p hp := by
    obtain ⟨old, hold, hid⟩ := h.drawn p hp
    exact ⟨old, List.mem_append_left _ hold, hid⟩
  session p hp row hrow hid := by
    obtain ⟨old, hold, hsame⟩ | ⟨hnew, -⟩ := hsessions row hrow
    · rw [hsame.tenantId, hsame.identityClientId]
      exact h.session p hp old hold (hsame.id.symm.trans hid)
    · exact absurd (hid.symm.trans hnew) (id_ne_of_fresh hfresh (h.drawn p hp))
  ended answer locals hpc hstatus := by
    obtain ⟨p, hp, hrevoked⟩ := h.ended answer locals hpc hstatus
    refine ⟨p, hp, fun row hrow hid => ?_⟩
    obtain ⟨old, hold, hsame⟩ | ⟨hnew, -⟩ := hsessions row hrow
    · exact hsame.revoked (hrevoked old hold (hsame.id.symm.trans hid))
    · have hdrawn : ∃ old ∈ drawn, p.sessionId = "ses_" ++ old.uuid := by
        refine h.drawn p ?_
        rw [hpc]
        exact hp
      exact absurd (hid.symm.trans hnew) (id_ne_of_fresh hfresh hdrawn)

/-- A request that addresses no session relies on the text of its target only. -/
theorem Sound.of_unaddressed (haddressed : pc.locals.addressed = none)
    (htarget : ∀ bridge text, pc = .authenticatingTarget bridge text → request.named = some text)
    (hstatus : ∀ answer locals, pc = .answered answer locals → answer.statusCode ≠ 200) :
    Sound db drawn request pc where
  target := htarget
  issuer bridge target hpc := by
    rw [hpc] at haddressed
    cases haddressed
  drawn := by simp [haddressed]
  session := by simp [haddressed]
  ended answer locals hpc hok := absurd hok (hstatus answer locals hpc)

/-- A request that has just had a session accepted addresses it. -/
theorem Sound.of_accepted (hall : AllDrawn db drawn) (hkept : SessionsKept db db') {now : Instant} {token : String}
    {p : UserSessionPrincipal}
    (haccepted : (Identity.authenticateUserSession lib db now token).2 = some p)
    (haddressed : pc.locals.addressed = some p)
    (htarget : ∀ bridge text, pc ≠ .authenticatingTarget bridge text)
    (hissuer : ∀ bridge target, pc = .revokingTarget bridge target →
      target.identityClientId = bridge.identityClientId)
    (hstatus : ∀ answer locals, pc = .answered answer locals → answer.statusCode ≠ 200) :
    Sound db' (drawn ++ [draw]) request pc := by
  obtain ⟨row, hrow, hid, htenant, hclient, -⟩ := exists_row_of_authenticated haccepted
  refine ⟨fun bridge text hpc => absurd hpc (htarget bridge text), hissuer, ?_, ?_,
    fun answer locals hpc hok => absurd hok (hstatus answer locals hpc)⟩
  · intro q hq
    cases haddressed.symm.trans hq
    obtain ⟨old, hold, hdrawn⟩ := hall row hrow
    exact ⟨old, List.mem_append_left _ hold, hid.symm.trans hdrawn⟩
  · intro q hq row' hrow' hid'
    cases haddressed.symm.trans hq
    obtain ⟨before, hbefore, hsame⟩ := hkept row' hrow'
    have hone : before = row :=
      Identity.session_eq_of_id hbefore hrow (hsame.id.symm.trans (hid'.trans hid.symm))
    rw [hsame.tenantId, hsame.identityClientId, hone]
    exact ⟨htenant, hclient⟩

/-- What a request can rely on holds after its own next transaction. -/
theorem Sound.advance (hsound : Sound db drawn request pc) (hall : AllDrawn db drawn) (hfresh : Fresh drawn draw)
    (h : Advanced lib db draw request pc db' pc') : Sound db' (drawn ++ [draw]) request pc' := by
  have hkept := h.keeps
  have hframe := hsound.frame hfresh (hkept.drawn lib draw)
  cases h with
  | @own principal _ haccepted hlocals hpc =>
    have haddressed : pc'.locals.addressed = some principal := by
      rw [hlocals]
      rfl
    obtain rfl | ⟨answer, rfl, hstatus⟩ := hpc
    · exact .of_accepted hall hkept haccepted haddressed (fun _ _ => nofun) (fun _ _ => nofun) (fun _ _ => nofun)
    · refine .of_accepted hall hkept haccepted haddressed (fun _ _ => nofun) (fun _ _ => nofun) ?_
      intro answer' locals hpc
      cases hpc
      exact hstatus
  | other => exact .of_unaddressed rfl (fun _ _ => nofun) (fun _ _ => nofun)
  | @client bridge text _ htarget =>
    refine .of_unaddressed rfl (fun bridge' text' hpc => ?_) (fun _ _ => nofun)
    cases hpc
    exact htarget
  | @target bridge target text _ haccepted hlocals hpc =>
    have haddressed : pc'.locals.addressed = some target := by
      rw [hlocals]
      rfl
    obtain ⟨rfl, hissuer⟩ | ⟨answer, rfl, hstatus⟩ := hpc
    · refine .of_accepted hall hkept haccepted haddressed (fun _ _ => nofun) ?_ (fun _ _ => nofun)
      intro bridge' target' hpc
      cases hpc
      exact hissuer
    · refine .of_accepted hall hkept haccepted haddressed (fun _ _ => nofun) (fun _ _ => nofun) ?_
      intro answer' locals hpc
      cases hpc
      exact hstatus
  | @refused _ _ answer locals _ haddressed _ hstatus =>
    refine .of_unaddressed haddressed (fun _ _ => nofun) fun answer' locals' hpc => ?_
    cases hpc
    exact hstatus
  | @revoke _ principal actor hpc =>
    have haddressed : pc.locals.addressed = some principal := by
      rcases hpc with rfl | ⟨bridge, rfl⟩
      · rfl
      · rfl
    refine ⟨fun _ _ => nofun, fun _ _ => nofun, hframe.drawn, hframe.session, fun answer locals hanswer _ => ?_⟩
    cases hanswer
    refine ⟨principal, haddressed, fun row hrow hid => ?_⟩
    obtain ⟨htenant, -⟩ := hframe.session principal haddressed row hrow hid
    obtain ⟨-, -, hrevoked⟩ := Exchange.revokeUserSession_spec db draw principal.tenantId principal.sessionId
      actor (some request.requestId)
    exact hrevoked row hrow htenant hid

/-- A request that arrives has bound no variable, and is not answered with status 200. -/
theorem arrive_cases (configured : Bool) (token : Option String) (body : Option (Option String))
    (requestId : String) : (Call.arrive configured token body requestId).pc.locals = ⟨none, none, none⟩ ∧
      ((Call.arrive configured token body requestId).pc = .authenticatingSession ∨
        ∃ answer locals, (Call.arrive configured token body requestId).pc = .answered answer locals ∧
          answer.statusCode ≠ 200) := by
  unfold Call.arrive
  split
  · exact ⟨rfl, Or.inr ⟨_, _, rfl, (by decide : 422 ≠ 200)⟩⟩
  · cases configured with
    | true => exact ⟨rfl, Or.inl rfl⟩
    | false => exact ⟨rfl, Or.inr ⟨_, _, rfl, (by decide : 503 ≠ 200)⟩⟩

/-- What a request can rely on holds when it arrives. -/
theorem Sound.arrive (token : Option String) (body : Option (Option String)) (requestId : String) :
    Sound db drawn (Call.arrive configured token body requestId).request
      (Call.arrive configured token body requestId).pc := by
  obtain ⟨hlocals, hpc⟩ := arrive_cases configured token body requestId
  refine .of_unaddressed (by rw [hlocals]; rfl) ?_ ?_
  · intro bridge text htarget
    rw [htarget] at hlocals
    cases hlocals
  · intro answer locals hanswer
    obtain hstart | ⟨answer', locals', hanswer', hstatus⟩ := hpc
    · cases hstart.symm.trans hanswer
    · cases hanswer'.symm.trans hanswer
      exact hstatus

/-- A step of the exchanges, or an administrative operation, draws what sessions it creates. -/
theorem exchange_step_sessions {t t' : Exchange.System} {l : Exchange.Label}
    (h : t.step lib configured l = some t') : (t'.db = t.db ∧ t'.drawn = t.drawn) ∨
      ∃ draw, Fresh t.drawn draw ∧ t'.drawn = t.drawn ++ [draw] ∧ SessionsDrawn lib draw t.db t'.db := by
  cases l with
  | start request =>
    cases h
    exact Or.inl ⟨rfl, rfl⟩
  | limit i retryAfter =>
    obtain ⟨call, call', -, -, rfl⟩ := Exchange.System.step_limit h
    exact Or.inl ⟨rfl, rfl⟩
  | advance i draw =>
    obtain ⟨hfresh, ⟨request, pc⟩, db', pc', -, hadvance, rfl⟩ := Exchange.System.step_advance h
    exact Or.inr ⟨draw, hfresh, rfl, Exchange.advance_drawn hadvance⟩
  | administer draw call =>
    obtain ⟨hfresh, rfl⟩ := Exchange.System.step_administer h
    refine Or.inr ⟨draw, hfresh, rfl, ?_⟩
    unfold Identity.afterCall
    split
    · next hperform => exact (Exchange.perform_spec hperform).2
    · exact (SessionsKept.of_eq rfl).drawn lib draw

/-- What a reachable state of the system satisfies. -/
structure System.Sound (s : System) : Prop where
  drawn : AllDrawn s.db s.drawn
  calls : ∀ call ∈ s.revocations, Revocation.Sound s.db s.drawn call.request call.pc

/-- What a step does to a revocation: nothing, or it arrives, or its next transaction runs. -/
theorem System.step_call {l : Label} (h : s.step lib configured l = some s') {call' : Call}
    (hcall' : s'.revocations[index]? = some call') :
    s.revocations[index]? = some call' ∨
    (∃ token body requestId, call' = Call.arrive configured token body requestId) ∨
    ∃ draw call, l = .advance index draw ∧ s.revocations[index]? = some call ∧
      Advanced lib s.db draw call.request call.pc s'.db call'.pc ∧ call'.request = call.request := by
  cases l with
  | exchange label =>
    obtain ⟨exchanges, -, rfl⟩ := System.step_exchange h
    exact Or.inl hcall'
  | start token body requestId =>
    cases h
    rcases Nat.lt_or_ge index s.revocations.length with hlt | hge
    · rw [List.getElem?_append_left hlt] at hcall'
      exact Or.inl hcall'
    · rw [List.getElem?_append_right hge] at hcall'
      exact Or.inr (Or.inl ⟨token, body, requestId, List.mem_singleton.mp (List.mem_of_getElem? hcall')⟩)
  | advance i draw =>
    obtain ⟨-, call, db', pc', hcall, hadvance, rfl⟩ := System.step_advance h
    by_cases hi : i = index
    · rw [hi, List.getElem?_set_self (hi ▸ (List.getElem?_eq_some_iff.mp hcall).1)] at hcall'
      cases hcall'
      exact Or.inr (Or.inr ⟨draw, call, by rw [hi], hi ▸ hcall, advance_cases hadvance, rfl⟩)
    · rw [List.getElem?_set_ne hi] at hcall'
      exact Or.inl hcall'

/-- Every step leaves every revocation what it relies on. -/
theorem System.sound_step {l : Label} (hsound : s.Sound) (h : s.step lib configured l = some s') : s'.Sound := by
  cases l with
  | exchange label =>
    obtain ⟨exchanges, hexchange, rfl⟩ := System.step_exchange h
    obtain ⟨hdb, hdrawn⟩ | ⟨draw, hfresh, hdrawn, hsessions⟩ := exchange_step_sessions hexchange
    · have hsame : exchanges.db = s.db ∧ exchanges.drawn = s.drawn := ⟨hdb, hdrawn⟩
      constructor
      · dsimp only
        rw [hdb, hdrawn]
        exact hsound.drawn
      · dsimp only
        rw [hdb, hdrawn]
        exact hsound.calls
    · constructor
      · dsimp only
        rw [hdrawn]
        exact hsound.drawn.frame hsessions
      · dsimp only
        rw [hdrawn]
        exact fun call hcall => (hsound.calls call hcall).frame hfresh hsessions
  | start token body requestId =>
    cases h
    refine ⟨hsound.drawn, fun call hcall => ?_⟩
    rcases List.mem_append.mp hcall with hold | hnew
    · exact hsound.calls call hold
    · rw [List.mem_singleton.mp hnew]
      exact Sound.arrive token body requestId
  | advance i draw =>
    obtain ⟨hfresh, call, db', pc', hcall, hadvance, rfl⟩ := System.step_advance h
    have hstep := advance_cases hadvance
    have hsessions := hstep.keeps.drawn lib draw
    have hnext := (hsound.calls call (List.mem_of_getElem? hcall)).advance hsound.drawn hfresh hstep
    refine ⟨hsound.drawn.frame hsessions, fun call' hcall' => ?_⟩
    rcases List.mem_or_eq_of_mem_set hcall' with hold | rfl
    · exact (hsound.calls call' hold).frame hfresh hsessions
    · exact hnext

/-- Every reached state leaves every revocation what it relies on. -/
theorem reachable_sound {schedule : List Label}
    (hrun : runSteps (System.step lib configured) .initial schedule = some s) : s.Sound := by
  refine runSteps_invariant System.Sound (fun _ _ _ hsound h => System.sound_step hsound h) ⟨?_, ?_⟩ hrun
  · intro row hrow
    cases hrow
  · intro call hcall
    cases hcall

/-- What a request has bound to a local variable was accepted by an earlier step of the request. -/
theorem bound_before {schedule : List Label} (bound : Locals → Prop)
    (accepted : IdentityDatabase → IdentityDraw → Prop) (hblank : ¬ bound ⟨none, none, none⟩)
    (hbound : ∀ db drawn draw pc db' pc', Sound db drawn request pc → Advanced lib db draw request pc db' pc' →
      bound pc'.locals → bound pc.locals ∨ accepted db draw)
    (hrun : runSteps (System.step lib configured) .initial schedule = some s)
    (hcall : s.revocations[index]? = some ⟨request, pc⟩) (hpc : bound pc.locals) :
    ∃ earlier draw later s₀, schedule = earlier ++ .advance index draw :: later ∧
      runSteps (System.step lib configured) .initial earlier = some s₀ ∧
      (∃ pc₀, s₀.revocations[index]? = some ⟨request, pc₀⟩) ∧ accepted s₀.db draw := by
  have hnone : ¬ ∃ pc, System.initial.revocations[index]? = some ⟨request, pc⟩ ∧ bound pc.locals := by
    rintro ⟨pc, hcall, -⟩
    cases hcall
  obtain ⟨earlier, l, later, s₀, s₁, rfl, hearlier, hstep, hbefore, pc₁, hcall₁, hbound₁⟩ :=
    exists_step_of_not (P := fun s => ∃ pc, s.revocations[index]? = some ⟨request, pc⟩ ∧ bound pc.locals)
      hnone ⟨pc, hcall, hpc⟩ hrun
  rcases System.step_call hstep hcall₁ with hsame | ⟨token, body, requestId, harrive⟩ |
    ⟨draw, ⟨request₀, pc₀⟩, rfl, hcall₀, hadvance, hrequest⟩
  · exact absurd ⟨pc₁, hsame, hbound₁⟩ hbefore
  · have hlocals : pc₁.locals = ⟨none, none, none⟩ := by
      have hpc₁ := congrArg Call.pc harrive
      dsimp only at hpc₁
      rw [hpc₁]
      exact (arrive_cases configured token body requestId).1
    rw [hlocals] at hbound₁
    exact absurd hbound₁ hblank
  · cases (hrequest : request = request₀)
    have hsound := (reachable_sound hearlier).calls _ (List.mem_of_getElem? hcall₀)
    rcases hbound s₀.db s₀.drawn draw pc₀ s₁.db pc₁ hsound hadvance hbound₁ with hold | haccepted
    · exact absurd ⟨pc₀, hcall₀, hold⟩ hbefore
    · exact ⟨earlier, draw, later, s₀, rfl, hearlier, ⟨pc₀, hcall₀⟩, haccepted⟩

/-- A session is bound where the bearer token was accepted as it. -/
theorem Advanced.bound_session {p : UserSessionPrincipal} (h : Advanced lib db draw request pc db' pc')
    (hp : pc'.locals.sessionPrincipal = some p) : pc.locals.sessionPrincipal = some p ∨
      (Identity.authenticateUserSession lib db draw.now (bearer request)).2 = some p := by
  cases h with
  | own haccepted hlocals =>
    rw [hlocals] at hp
    cases hp
    exact Or.inr haccepted
  | other => cases hp
  | client => cases hp
  | target _ hlocals =>
    rw [hlocals] at hp
    cases hp
  | @refused _ _ _ locals _ haddressed =>
    have hnone : locals.sessionPrincipal = none := (Option.or_eq_none_iff.mp haddressed).1
    cases hnone.symm.trans hp
  | revoke => exact Or.inl hp

/-- A client is bound where the bearer token was accepted as it. -/
theorem Advanced.bound_bridge {bridge : IdentityClientPrincipal}
    (h : Advanced lib db draw request pc db' pc') (hbridge : pc'.locals.bridge = some bridge) :
    pc.locals.bridge = some bridge ∨
      (Identity.authenticateIdentityClient lib db draw.now (bearer request) none).2 = some bridge := by
  cases h with
  | own _ hlocals =>
    rw [hlocals] at hbridge
    cases hbridge
  | other => cases hbridge
  | client haccepted =>
    cases hbridge
    exact Or.inr haccepted
  | target _ hlocals =>
    rw [hlocals] at hbridge
    cases hbridge
    exact Or.inl rfl
  | refused _ _ hbound => exact hbound bridge hbridge
  | revoke => exact Or.inl hbridge

/-- A session is addressed where the bearer token, or that of the body, was accepted as it. -/
theorem Advanced.bound_addressed {p : UserSessionPrincipal} (hsound : Sound db drawn request pc)
    (h : Advanced lib db draw request pc db' pc') (hp : pc'.locals.addressed = some p) :
    pc.locals.addressed = some p ∨ AcceptedAs lib db draw request p := by
  cases h with
  | own haccepted hlocals =>
    rw [hlocals] at hp
    cases hp
    exact Or.inr (Or.inl haccepted)
  | other => cases hp
  | client => cases hp
  | @target bridge target text _ haccepted hlocals =>
    rw [hlocals] at hp
    cases hp
    exact Or.inr (Or.inr ⟨text, hsound.target bridge text rfl, haccepted⟩)
  | refused _ haddressed =>
    change _ = some p at hp
    cases haddressed.symm.trans hp
  | revoke => exact Or.inl hp

/-- Earlier in the run the bearer token of the request was accepted as this session, or as the identity client
that issued it. -/
def Authorized (lib : SecretLibrary) (configured : Bool) (schedule : List Label) (index : ℕ)
    (session : UserSessionRow) : Prop :=
  ∃ earlier draw later s call, schedule = earlier ++ .advance index draw :: later ∧
    runSteps (System.step lib configured) .initial earlier = some s ∧ s.revocations[index]? = some call ∧
    ((∃ p, (Identity.authenticateUserSession lib s.db draw.now (bearer call.request)).2 = some p ∧
        p.sessionId = session.id) ∨
      ∃ client, (Identity.authenticateIdentityClient lib s.db draw.now (bearer call.request) none).2 = some client ∧
        client.identityClientId = session.identityClientId)

/-- A step that stamps a session is that of a request whose bearer token may do so. -/
theorem authorized_of_stamped {first : List Label} {session : UserSessionRow}
    (hrun : runSteps (System.step lib configured) .initial first = some s)
    (hstamped : session ∈ stamped lib configured index s (.advance index draw)) :
    Authorized lib configured first index session := by
  rw [stamped, if_pos rfl] at hstamped
  cases hstep : s.step lib configured (.advance index draw) with
  | none =>
    rw [hstep] at hstamped
    cases hstamped
  | some s' =>
    rw [hstep, Option.elim_some] at hstamped
    obtain ⟨-, ⟨request, pc⟩, db', pc', hcall, hadvance, rfl⟩ := System.step_advance hstep
    have hsound := (reachable_sound hrun).calls _ (List.mem_of_getElem? hcall)
    obtain hnone | ⟨p, hpc, -, hrows⟩ := (advance_cases hadvance).stamps
    · rw [hnone] at hstamped
      cases hstamped
    · obtain ⟨hrow, hid⟩ := hrows session hstamped
      rcases hpc with rfl | ⟨bridge, rfl⟩
      · obtain ⟨earlier, draw₀, later, s₀, hfirst, hearlier, ⟨pc₀, hcall₀⟩, haccepted⟩ :=
          bound_before (fun locals => locals.sessionPrincipal = some p)
            (fun db draw => (Identity.authenticateUserSession lib db draw.now (bearer request)).2 = some p)
            nofun (fun _ _ _ _ _ _ _ hadvanced => hadvanced.bound_session) hrun hcall rfl
        exact ⟨earlier, draw₀, later, s₀, _, hfirst, hearlier, hcall₀, Or.inl ⟨p, haccepted, hid.symm⟩⟩
      · obtain ⟨earlier, draw₀, later, s₀, hfirst, hearlier, ⟨pc₀, hcall₀⟩, haccepted⟩ :=
          bound_before (fun locals => locals.bridge = some bridge)
            (fun db draw =>
              (Identity.authenticateIdentityClient lib db draw.now (bearer request) none).2 = some bridge)
            nofun (fun _ _ _ _ _ _ _ hadvanced => hadvanced.bound_bridge) hrun hcall rfl
        obtain ⟨-, hclient⟩ := hsound.session p rfl session hrow hid
        exact ⟨earlier, draw₀, later, s₀, _, hfirst, hearlier, hcall₀,
          Or.inr ⟨bridge, haccepted, (hsound.issuer bridge p rfl).symm.trans hclient.symm⟩⟩

/-- What a request has stamped so far: one session at most, and none unless it is answered with status 200. -/
structure Stamps (index : ℕ) (history : List UserSessionRow) (s : System) : Prop where
  one : history.length ≤ 1
  answered : history ≠ [] → ∃ call answer locals, s.revocations[index]? = some call ∧
    call.pc = .answered answer locals ∧ answer.statusCode = 200

/-- Every step keeps count of what a request has stamped. -/
theorem Stamps.step {history : List UserSessionRow} {l : Label} (hstamps : Stamps index history s)
    (h : s.step lib configured l = some s') : Stamps index (history ++ stamped lib configured index s l) s' := by
  cases l with
  | exchange label =>
    obtain ⟨exchanges, -, rfl⟩ := System.step_exchange h
    have hnone : stamped lib configured index s (.exchange label) = [] := rfl
    rw [hnone, List.append_nil]
    exact ⟨hstamps.one, hstamps.answered⟩
  | start token body requestId =>
    cases h
    have hnone : stamped lib configured index s (.start token body requestId) = [] := rfl
    rw [hnone, List.append_nil]
    refine ⟨hstamps.one, fun hne => ?_⟩
    obtain ⟨call, answer, locals, hcall, hpc⟩ := hstamps.answered hne
    refine ⟨call, answer, locals, ?_, hpc⟩
    dsimp only
    rw [List.getElem?_append_left (List.getElem?_eq_some_iff.mp hcall).1]
    exact hcall
  | advance i draw =>
    have hstep := h
    obtain ⟨-, call, db', pc', hcall, hadvance, rfl⟩ := System.step_advance h
    by_cases hi : i = index
    · subst hi
      have hhistory : history = [] := by
        by_contra hne
        obtain ⟨call', answer, locals, hcall', hpc, -⟩ := hstamps.answered hne
        cases hcall.symm.trans hcall'
        simp only [Call.advance, hpc] at hadvance
        cases hadvance
      rw [stamped, if_pos rfl, hstep, Option.elim_some, hhistory, List.nil_append]
      obtain hnone | ⟨p, -, hpc', hrows⟩ := (advance_cases hadvance).stamps
      · rw [hnone]
        exact ⟨Nat.zero_le 1, fun hne => absurd rfl hne⟩
      · refine ⟨length_stampedBetween_le fun row hrow => (hrows row hrow).2, fun _ => ?_⟩
        refine ⟨⟨call.request, pc'⟩, RevokeCall.revoked, call.pc.locals, ?_, hpc', rfl⟩
        exact List.getElem?_set_self (List.getElem?_eq_some_iff.mp hcall).1
    · rw [stamped, if_neg hi, List.append_nil]
      refine ⟨hstamps.one, fun hne => ?_⟩
      obtain ⟨call', answer, locals, hcall', hpc⟩ := hstamps.answered hne
      refine ⟨call', answer, locals, ?_, hpc⟩
      dsimp only
      rw [List.getElem?_set_ne hi]
      exact hcall'

/-- In every run of exchanges and revocations with any tokens and bodies, and of administrative operations in
any interleaving: a session is stamped as revoked by a revocation request only if its bearer token was
accepted as that session or as the client that issued it; a request stamps one session at most, and none if it
is answered with another status than 200; and once it is answered with 200, the session that it addressed,
which its bearer token or that of its body was accepted as, is never accepted again. -/
theorem revocation_safe (lib : SecretLibrary) (configured : Bool) {schedule : List Label} {s : System}
    (hrun : runSteps (System.step lib configured) .initial schedule = some s) :
    (∀ index first draw rest s₁, schedule = first ++ .advance index draw :: rest →
      runSteps (System.step lib configured) .initial first = some s₁ →
      ∀ session ∈ stamped lib configured index s₁ (.advance index draw),
        Authorized lib configured first index session) ∧
    ∀ index,
      (emitted (System.step lib configured) (stamped lib configured index) .initial schedule).length ≤ 1 ∧
      ∀ request answer locals, s.revocations[index]? = some ⟨request, .answered answer locals⟩ →
        (answer.statusCode ≠ 200 →
          emitted (System.step lib configured) (stamped lib configured index) .initial schedule = []) ∧
        (answer.statusCode = 200 → ∃ p, locals.addressed = some p ∧
          (∃ earlier draw later s₀, schedule = earlier ++ .advance index draw :: later ∧
            runSteps (System.step lib configured) .initial earlier = some s₀ ∧
            AcceptedAs lib s₀.db draw request p) ∧
          ∀ now token q, (Identity.authenticateUserSession lib s.db now token).2 = some q →
            q.sessionId ≠ p.sessionId) := by
  have hsound := reachable_sound hrun
  refine ⟨fun index first draw rest s₁ _ hfirst session => authorized_of_stamped hfirst, fun index => ?_⟩
  have hstamps : Stamps index ([] ++
      emitted (System.step lib configured) (stamped lib configured index) .initial schedule) s :=
    runSteps_history (Stamps index) (fun _ _ _ _ hstamps h => hstamps.step h)
      ⟨Nat.zero_le 1, fun hne => absurd rfl hne⟩ hrun
  rw [List.nil_append] at hstamps
  refine ⟨hstamps.one, fun request answer locals hcall => ⟨fun hstatus => ?_, fun hstatus => ?_⟩⟩
  · by_contra hne
    obtain ⟨call, answer', locals', hcall', hpc, hok⟩ := hstamps.answered hne
    cases hcall.symm.trans hcall'
    cases hpc
    exact hstatus hok
  · obtain ⟨p, hp, hrevoked⟩ := (hsound.calls _ (List.mem_of_getElem? hcall)).ended answer locals rfl hstatus
    obtain ⟨earlier, draw, later, s₀, hschedule, hearlier, -, haccepted⟩ :=
      bound_before (fun locals => locals.addressed = some p) (fun db draw => AcceptedAs lib db draw request p)
        nofun (fun _ _ _ _ _ _ hsound hadvanced => hadvanced.bound_addressed hsound) hrun hcall hp
    refine ⟨p, hp, ⟨earlier, draw, later, s₀, hschedule, hearlier, haccepted⟩, fun now token q hq hid => ?_⟩
    obtain ⟨row, hrow, hrowId, -, -, hlive⟩ := exists_row_of_authenticated hq
    have hended := hrevoked row hrow (hrowId.trans hid)
    rw [hlive] at hended
    cases hended

section

open Exchange (drawOf letterDraw plainDigests)

/-- A member with two sessions; one of them names the other, and then the bridge names it. -/
def endings : List Label :=
  [.exchange (.administer (letterDraw 0 "1" 'a') (.createTenant "tenant-a" "tenant-a" "Tenant A" 90 "system")),
    .exchange (.administer (letterDraw 0 "2" 'b') (.issueIdentityClient "bff" ["https://idp"])),
    .exchange (.administer (letterDraw 0 "3" 'c') (.upsertUser "https://idp" "u" none none)),
    .exchange (.administer (letterDraw 0 "4" 'd') (.setMembership "tenant-a" "usr_3" "viewer" "system")),
    .exchange (.administer (letterDraw 0 "5" 'e')
      (.issueUserSession "idc_2" "tenant-a" "usr_3" 300 "system" none)),
    .exchange (.administer (letterDraw 0 "6" 'f')
      (.issueUserSession "idc_2" "tenant-a" "usr_3" 300 "system" none)),
    .start (sessionToken (letterDraw 0 "6" 'f').urlsafe) (some (sessionToken (letterDraw 0 "5" 'e').urlsafe)) "r",
    .advance 0 (letterDraw 1 "7" 'g'),
    .start (joinToken (keyPrefix "igb_" (letterDraw 0 "2" 'b').hex) (letterDraw 0 "2" 'b').urlsafe.text)
      (some (sessionToken (letterDraw 0 "5" 'e').urlsafe)) "r",
    .advance 1 (letterDraw 2 "8" 'h'), .advance 1 (letterDraw 2 "9" 'i'), .advance 1 (letterDraw 2 "10" 'j'),
    .advance 1 (letterDraw 2 "11" 'k')]

/-- The status of a call that is answered. -/
def Call.status (call : Call) : Option ℕ :=
  match call.pc with
  | .answered answer _ => some answer.statusCode
  | _ => none

set_option maxRecDepth 8000 in
/-- The theorem applies to these requests: the first ends no session, and the second the one that it names. -/
theorem revocation_safe_endings :
    ∃ s, runSteps (System.step plainDigests true) .initial endings = some s ∧
      s.revocations.map Call.status = [some 403, some 200] ∧
      emitted (System.step plainDigests true) (stamped plainDigests true 0) .initial endings = [] ∧
      ∃ p : UserSessionPrincipal, ∀ now token q,
        (Identity.authenticateUserSession plainDigests s.db now token).2 = some q → q.sessionId ≠ p.sessionId := by
  have hreach : (runSteps (System.step plainDigests true) .initial endings).any (fun s =>
      s.revocations.map Call.status = [some 403, some 200]) = true := by decide +kernel
  obtain ⟨s, hrun, hstatus⟩ := (Option.any_eq_true _ _).mp hreach
  rw [decide_eq_true_eq] at hstatus
  obtain ⟨-, hanswers⟩ := revocation_safe plainDigests true hrun
  have hanswered : ∀ (index status : ℕ), (s.revocations.map Call.status)[index]? = some (some status) →
      ∃ (request : RevokeCall) (answer : JsonAnswer) (locals : Locals),
        s.revocations[index]? = some ⟨request, .answered answer locals⟩ ∧ answer.statusCode = status := by
    intro index status hcall
    rw [List.getElem?_map, Option.map_eq_some_iff] at hcall
    obtain ⟨⟨request, pc⟩, hcall, hpc⟩ := hcall
    cases pc with
    | answered answer locals => exact ⟨request, answer, locals, hcall, Option.some.inj hpc⟩
    | _ => cases hpc
  obtain ⟨request, answer, locals, hcall, hdenied⟩ := hanswered 0 403 (by rw [hstatus]; rfl)
  obtain ⟨request', answer', locals', hcall', hok⟩ := hanswered 1 200 (by rw [hstatus]; rfl)
  obtain ⟨p, -, -, hended⟩ := ((hanswers 1).2 request' answer' locals' hcall').2 hok
  exact ⟨s, hrun, hstatus, ((hanswers 0).2 request answer locals hcall).1 (by rw [hdenied]; decide), p, hended⟩

end

end Revocation

end SharedIntegration

import SharedIntegration.ExchangeMoves

/-!
# The identity exchange is safe

A request that is answered with a session has seen that session accepted as what it hands out, by
a bridge that may vouch for the user's issuer; any other answer leaves no session behind that is
not revoked; and all requests for one external identity use one user.
-/

namespace SharedIntegration

open Relational PyString Transition

namespace Exchange

/-- What a request can rely on at every point, whatever else is going on. -/
structure Sound (lib : SecretLibrary) (db : IdentityDatabase) (drawn : List IdentityDraw) (request : Request)
    (pc : Pc) : Prop where
  allowed : ∀ client ∈ pc.locals.client, strip request.body.issuer ∈ client.allowedIssuers
  user : ∀ user ∈ pc.locals.user, HasUser db user.id (strip request.body.issuer) (strip request.body.subject)
  row : ∀ client draw row, pc = .writing client draw (some row) →
    HasUser db row.id (strip request.body.issuer) (strip request.body.subject)
  owner : ∀ issued ∈ pc.locals.issued, ∃ user ∈ pc.locals.user, issued.userId = user.id
  drawn : ∀ issued ∈ pc.locals.issued, ∃ draw ∈ drawn,
    issued.id = "ses_" ++ draw.uuid ∧ issued.token = sessionToken draw.urlsafe
  sessions : ∀ issued ∈ pc.locals.issued, ∀ row ∈ db.userSessions.rows,
    row.id = issued.id ∨ row.tokenHash = hashSessionToken lib issued.token →
      row.id = issued.id ∧ row.tenantId = issued.tenantId ∧ row.userId = issued.userId
  refused : ∀ answer locals, pc = .answered answer locals → answer.statusCode ≠ 200 →
    ∀ issued ∈ locals.issued, ∀ row ∈ db.userSessions.rows, row.id = issued.id → row.revokedAt.isSome

variable {lib : SecretLibrary} {db db' : IdentityDatabase} {drawn : List IdentityDraw} {draw : IdentityDraw}
  {request : Request} {pc pc' : Pc}

/-- Tokens are equal only if the same characters were drawn. -/
theorem chars_eq_of_sessionToken {a b : UrlsafeToken} (h : sessionToken a = sessionToken b) :
    a.chars = b.chars := by
  have hchars := congrArg String.toList h
  simpa [sessionToken] using hchars

/-- A session that was just drawn is not one that was drawn before. -/
theorem not_drawn_before (hfresh : Fresh drawn draw) {issued : IssuedUserSession}
    (hissued : ∃ old ∈ drawn, issued.id = "ses_" ++ old.uuid ∧ issued.token = sessionToken old.urlsafe) :
    "ses_" ++ draw.uuid ≠ issued.id ∧
      hashSessionToken lib (sessionToken draw.urlsafe) ≠ hashSessionToken lib issued.token := by
  obtain ⟨old, hold, hid, htoken⟩ := hissued
  obtain ⟨huuid, hchars⟩ := hfresh old hold
  constructor
  · intro heq
    rw [hid, ← String.toList_inj, String.toList_append, String.toList_append, List.append_right_inj,
      String.toList_inj] at heq
    exact huuid heq.symm
  · intro heq
    rw [htoken] at heq
    exact hchars (chars_eq_of_sessionToken (lib.sha256_injective heq)).symm

/-- A request keeps what it relies on when another transaction runs. -/
theorem Sound.frame (hsound : Sound lib db drawn request pc) (hfresh : Fresh drawn draw)
    (husers : UsersKept db db') (hsessions : SessionsDrawn lib draw db db') :
    Sound lib db' (drawn ++ [draw]) request pc where
  allowed := hsound.allowed
  user user huser := husers _ _ _ (hsound.user user huser)
  row client old row hpc := husers _ _ _ (hsound.row client old row hpc)
  owner := hsound.owner
  drawn issued hissued := by
    obtain ⟨old, hold, hissued'⟩ := hsound.drawn issued hissued
    exact ⟨old, List.mem_append_left _ hold, hissued'⟩
  sessions issued hissued row hrow hmatch := by
    obtain ⟨hid, hhash⟩ := @not_drawn_before lib drawn draw hfresh issued (hsound.drawn issued hissued)
    obtain ⟨old, hold, hsame⟩ | ⟨hrowId, hrowHash⟩ := hsessions row hrow
    · rw [hsame.id, hsame.tokenHash] at hmatch
      rw [hsame.id, hsame.tenantId, hsame.userId]
      exact hsound.sessions issued hissued old hold hmatch
    · rcases hmatch with hmatch | hmatch
      · exact absurd (hrowId.symm.trans hmatch) hid
      · exact absurd (hrowHash.symm.trans hmatch) hhash
  refused answer locals hpc hstatus issued hissued row hrow hid := by
    have hissued' : issued ∈ pc.locals.issued := by
      rw [hpc]
      exact hissued
    obtain ⟨old, hold, hsame⟩ | ⟨hrowId, -⟩ := hsessions row hrow
    · exact hsame.revoked (hsound.refused answer locals hpc hstatus issued hissued old hold (hsame.id ▸ hid))
    · exact absurd (hrowId.symm.trans hid)
        (@not_drawn_before lib drawn draw hfresh issued (hsound.drawn issued hissued')).1

/-- Without a session, a request relies on its client, on its user and on the row it looked up. -/
theorem Sound.of_unissued (hissued : pc.locals.issued = none)
    (hallowed : ∀ client ∈ pc.locals.client, strip request.body.issuer ∈ client.allowedIssuers)
    (huser : ∀ user ∈ pc.locals.user,
      HasUser db user.id (strip request.body.issuer) (strip request.body.subject))
    (hrow : ∀ client draw row, pc = .writing client draw (some row) →
      HasUser db row.id (strip request.body.issuer) (strip request.body.subject)) :
    Sound lib db drawn request pc where
  allowed := hallowed
  user := huser
  row := hrow
  owner := by simp [hissued]
  drawn := by simp [hissued]
  sessions := by simp [hissued]
  refused answer locals hpc _ issued hmem := by
    have hnone : locals.issued = none := by
      rw [hpc] at hissued
      exact hissued
    rw [hnone] at hmem
    cases hmem

/-- A request that has bound no variable relies on nothing. -/
theorem Sound.blank (hlocals : pc.locals = ⟨none, none, none⟩) : Sound lib db drawn request pc := by
  refine Sound.of_unissued (by rw [hlocals]) (by simp [hlocals]) (by simp [hlocals])
    fun client draw row hpc => ?_
  rw [hpc] at hlocals
  cases hlocals

/-- A request moves on without binding a variable. -/
theorem Sound.move (hsound : Sound lib db drawn request pc) (hlocals : pc'.locals = pc.locals)
    (hrow : ∀ client draw row, pc' ≠ .writing client draw (some row))
    (hrefused : ∀ answer locals, pc' = .answered answer locals → answer.statusCode ≠ 200 →
      ∀ issued ∈ locals.issued, ∀ row ∈ db.userSessions.rows, row.id = issued.id → row.revokedAt.isSome) :
    Sound lib db drawn request pc' where
  allowed := hlocals ▸ hsound.allowed
  user := hlocals ▸ hsound.user
  row client draw row hpc := absurd hpc (hrow client draw row)
  owner := hlocals ▸ hsound.owner
  drawn := hlocals ▸ hsound.drawn
  sessions := hlocals ▸ hsound.sessions
  refused := hrefused

/-- A request without a session is answered. -/
theorem Sound.answer (hsound : Sound lib db drawn request pc) (hissued : pc.locals.issued = none)
    (answer : JsonAnswer) : Sound lib db drawn request (.answered answer pc.locals) := by
  refine hsound.move rfl (fun _ _ _ => nofun) fun answer' locals hpc _ issued hmem => ?_
  cases hpc
  rw [hissued] at hmem
  cases hmem

/-- What a request can rely on holds after its own next transaction. -/
theorem Sound.advance (hsound : Sound lib db drawn request pc) (hfresh : Fresh drawn draw)
    (h : Call.advance lib db draw ⟨request, pc⟩ = some (db', pc')) :
    Sound lib db' (drawn ++ [draw]) request pc' := by
  have hframe := hsound.frame hfresh (advance_keeps h).1 (advance_drawn h)
  cases pc with
  | checkingLimit => cases h
  | answered answer locals => cases h
  | recordingLimit seconds =>
    cases h
    exact hframe.answer rfl _
  | authenticating =>
    obtain ⟨-, -, hallowed⟩ := authenticateIdentityClient_keeps lib db draw.now (request.token.getD "")
      request.body.issuer
    simp only [Call.advance] at h
    split at h
    · cases h
      exact hframe.move rfl (by simp) (by simp)
    · next client heq =>
      cases h
      rw [heq] at hallowed
      exact Sound.of_unissued rfl hallowed (by simp [Pc.locals]) (by simp)
  | recordingFailure =>
    cases h
    exact hframe.answer rfl _
  | lookingUp client =>
    simp only [Call.advance] at h
    split at h
    · cases h
      exact hframe.answer rfl _
    · next issuer subject hcheck =>
      cases h
      refine Sound.of_unissued rfl hframe.allowed (by simp [Pc.locals]) fun client' started row hpc => ?_
      cases checkProfile_eq_ok hcheck
      injection hpc with _ _ hnamed
      exact userNamed_eq_some hnamed
  | writing client started row =>
    simp only [Call.advance] at h
    split at h
    · next user hwrite =>
      cases h
      obtain ⟨-, -, huser⟩ := writeProfile_spec hwrite
      refine Sound.of_unissued rfl hframe.allowed (fun user' huser' => ?_) (by simp)
      cases huser'
      exact huser fun old hold => hsound.row client started old (by rw [Option.mem_def.mp hold])
    · cases h
      exact hframe.move rfl (by simp) (by simp)
  | recovering client started =>
    simp only [Call.advance] at h
    split at h
    · next user hrecover =>
      cases h
      refine Sound.of_unissued rfl hframe.allowed (fun user' huser' => ?_) (by simp)
      cases huser'
      exact (recoverProfile_spec hrecover).2.2
    · cases h
      exact hframe.answer rfl _
  | issuing client user =>
    simp only [Call.advance] at h
    split at h
    · next issued hissue =>
      cases h
      obtain ⟨hrows, hnew, -, hid, htoken, -, huser, -⟩ := issueUserSession_rows hissue
      refine ⟨hframe.allowed, hframe.user, (by simp), ?_, ?_, ?_, (by simp)⟩
      · intro issued' hissued'
        cases hissued'
        exact ⟨user, rfl, huser⟩
      · intro issued' hissued'
        cases hissued'
        exact ⟨draw, by simp, hid, htoken⟩
      · intro issued' hissued' row hrow hmatch
        cases hissued'
        rw [hrows] at hrow
        rcases List.mem_append.mp hrow with hold | hlast
        · exact absurd hmatch (not_or.mpr (hnew row hold))
        · rw [List.mem_singleton.mp hlast]
          exact ⟨rfl, rfl, rfl⟩
    · cases h
      exact hframe.answer rfl _
    · cases h
      exact hframe.move rfl (by simp) (by simp)
  | recordingDenial client user =>
    cases h
    exact hframe.answer rfl _
  | reauthenticating client user issued =>
    simp only [Call.advance] at h
    split at h
    · cases h
      exact hframe.move rfl (by simp) (by simp)
    · cases h
      refine hframe.move rfl (by simp) fun answer locals hpc hstatus => ?_
      cases hpc
      exact absurd rfl hstatus
  | revoking client user issued =>
    cases h
    obtain ⟨-, -, hrevoked⟩ := revokeUserSession_spec db draw issued.tenantId issued.id (clientActor client)
      (some request.requestId)
    refine hframe.move rfl (by simp) ?_
    intro answer locals hpc _ issued' hissued' row hrow hid
    cases hpc
    cases hissued'
    exact hrevoked row hrow (hframe.sessions issued rfl row hrow (Or.inl hid)).2.1 hid

/-- The sessions that a call has issued. -/
def System.issued (s : System) (index : ℕ) : List String :=
  s.calls[index]?.elim [] fun call => (call.pc.locals.issued.map IssuedUserSession.id).toList

/-- Every request can rely on what it needs. -/
def System.Sound (lib : SecretLibrary) (s : System) : Prop :=
  ∀ call ∈ s.calls, Exchange.Sound lib s.db s.drawn call.request call.pc

variable {configured : Bool} {s s' : System} {index : ℕ}

/-- No variable is bound on arrival. -/
theorem arrive_locals (request : Request) : (Call.arrive request).pc.locals = ⟨none, none, none⟩ := by
  unfold Call.arrive
  split <;> rfl

/-- No variable is bound until the limiter has answered. -/
theorem limit_locals {call call' : Call} {retryAfter : Option ℕ}
    (h : call.limit configured retryAfter = some call') :
    call.pc.locals = ⟨none, none, none⟩ ∧ call'.pc.locals = ⟨none, none, none⟩ := by
  unfold Call.limit at h
  split at h
  · next hpc =>
    rw [hpc]
    cases h
    refine ⟨rfl, ?_⟩
    split <;> rfl
  · next hpc =>
    rw [hpc]
    cases h
    refine ⟨rfl, ?_⟩
    split <;> rfl
  · cases h

/-- A step of the system leaves every request what it relies on. -/
theorem System.sound_step (hsound : s.Sound lib) {l : Label} (h : s.step lib configured l = some s') :
    s'.Sound lib := by
  cases l with
  | start request =>
    cases h
    intro call hcall
    rcases List.mem_append.mp hcall with hold | hnew
    · exact hsound call hold
    · rw [List.mem_singleton.mp hnew]
      exact Sound.blank (arrive_locals request)
  | limit i retryAfter =>
    obtain ⟨call, call', hcall, hlimit, rfl⟩ := System.step_limit h
    obtain ⟨before, after, hcalls, hset, -⟩ := exists_split_of_getElem? hcall call'
    exact forall_mem_of_split hcalls hset hsound (Sound.blank (limit_locals hlimit).2)
  | advance i draw =>
    obtain ⟨hfresh, call, db', pc', hcall, hadvance, rfl⟩ := System.step_advance h
    obtain ⟨before, after, hcalls, hset, -⟩ := exists_split_of_getElem? hcall ⟨call.request, pc'⟩
    have hmem : call ∈ s.calls := List.mem_of_getElem? hcall
    refine forall_mem_of_split hcalls hset (fun other hother => ?_)
      ((hsound call hmem).advance hfresh hadvance)
    exact (hsound other hother).frame hfresh (advance_keeps hadvance).1 (advance_drawn hadvance)
  | administer draw call =>
    obtain ⟨hfresh, rfl⟩ := System.step_administer h
    intro other hother
    have hkeeps : UsersKept s.db (Identity.afterCall lib s.db (draw, call)) ∧
        SessionsDrawn lib draw s.db (Identity.afterCall lib s.db (draw, call)) := by
      unfold Identity.afterCall
      split
      · next hperform => exact perform_spec hperform
      · exact ⟨UsersKept.of_eq rfl, (SessionsKept.of_eq rfl).drawn lib draw⟩
    exact (hsound other hother).frame hfresh hkeeps.1 hkeeps.2

/-- A call has issued the sessions that its steps created. -/
theorem System.issued_step {l : Label} (h : s.step lib configured l = some s') (index : ℕ) :
    s'.issued index = s.issued index ++ created lib configured index s l := by
  cases l with
  | start request =>
    cases h
    simp only [System.issued, created, List.append_nil]
    rcases Nat.lt_trichotomy index s.calls.length with hlt | heq | hgt
    · rw [List.getElem?_append_left hlt]
    · rw [heq, List.getElem?_concat_length, List.getElem?_eq_none (Nat.le_refl _)]
      simp [arrive_locals]
    · rw [List.getElem?_eq_none (by simp; omega), List.getElem?_eq_none (by omega)]
  | limit i retryAfter =>
    obtain ⟨call, call', hcall, hlimit, rfl⟩ := System.step_limit h
    obtain ⟨hold, hnew⟩ := limit_locals hlimit
    simp only [System.issued, created, List.append_nil]
    by_cases hi : i = index
    · rw [← hi, hcall, List.getElem?_set_self (List.getElem?_eq_some_iff.mp hcall).1]
      simp [hold, hnew]
    · rw [List.getElem?_set_ne hi]
  | advance i draw =>
    have hstep := h
    obtain ⟨hfresh, call, db', pc', hcall, hadvance, rfl⟩ := System.step_advance h
    by_cases hi : i = index
    · subst hi
      simp only [System.issued, created, hstep, if_true, Option.elim_some]
      rw [hcall, List.getElem?_set_self (List.getElem?_eq_some_iff.mp hcall).1]
      obtain ⟨-, ⟨hissued, hkept⟩ | ⟨client, user, issued, hpc, hpc', hissue⟩⟩ := advance_keeps hadvance
      · have hnone : (db'.userSessions.rows.map UserSessionRow.id).filter (fun id =>
            !(s.db.userSessions.rows.map UserSessionRow.id).contains id) = [] := by
          rw [List.filter_eq_nil_iff]
          intro id hid
          obtain ⟨row, hrow, rfl⟩ := List.mem_map.mp hid
          obtain ⟨old, hold, hsame⟩ := hkept row hrow
          rw [hsame.id]
          simpa using ⟨old, hold, rfl⟩
        rw [hnone, List.append_nil, Option.elim_some, Option.elim_some, hissued]
      · obtain ⟨hrows, hnew, -⟩ := issueUserSession_rows hissue
        have hone : (db'.userSessions.rows.map UserSessionRow.id).filter (fun id =>
            !(s.db.userSessions.rows.map UserSessionRow.id).contains id) = [issued.id] := by
          rw [hrows, List.map_append, List.filter_append]
          have hold : (s.db.userSessions.rows.map UserSessionRow.id).filter (fun id =>
              !(s.db.userSessions.rows.map UserSessionRow.id).contains id) = [] := by
            rw [List.filter_eq_nil_iff]
            intro id hid
            simpa using hid
          have hlast : !(s.db.userSessions.rows.map UserSessionRow.id).contains issued.id := by
            rw [Bool.not_eq_true', ← Bool.not_eq_true, List.contains_iff_mem]
            intro hmem
            obtain ⟨row, hrow, hid⟩ := List.mem_map.mp hmem
            exact (hnew row hrow).1 hid
          rw [hold, List.nil_append, List.map_singleton]
          exact List.filter_cons_of_pos hlast
        rw [hone, Option.elim_some, Option.elim_some, hpc, hpc']
        rfl
    · simp only [System.issued, created, if_neg hi, List.append_nil]
      rw [List.getElem?_set_ne hi]
  | administer draw call =>
    obtain ⟨-, rfl⟩ := System.step_administer h
    simp [System.issued, created]

/-- Only a request whose session was accepted is answered with status 200. -/
theorem advance_exchanged {answer : JsonAnswer} {locals : Locals}
    (h : Call.advance lib db draw ⟨request, pc⟩ = some (db', .answered answer locals))
    (hstatus : answer.statusCode = 200) :
    ∃ client user issued principal, pc = .reauthenticating client user issued ∧
      (Identity.authenticateUserSession lib db draw.now issued.token).2 = some principal ∧
      answer = exchanged issued principal.role := by
  cases pc with
  | checkingLimit => cases h
  | answered _ _ => cases h
  | recordingLimit seconds =>
    cases h
    cases hstatus
  | authenticating =>
    simp only [Call.advance] at h
    split at h <;> cases h
  | recordingFailure =>
    cases h
    cases hstatus
  | lookingUp client =>
    simp only [Call.advance] at h
    split at h
    · cases h
      cases hstatus
    · cases h
  | writing client started row =>
    simp only [Call.advance] at h
    split at h <;> cases h
  | recovering client started =>
    simp only [Call.advance] at h
    split at h
    · cases h
    · cases h
      cases hstatus
  | issuing client user =>
    simp only [Call.advance] at h
    split at h
    · cases h
    · cases h
      cases hstatus
    · cases h
  | recordingDenial client user =>
    cases h
    cases hstatus
  | reauthenticating client user issued =>
    simp only [Call.advance] at h
    split at h
    · cases h
    · next principal heq =>
      cases h
      exact ⟨client, user, issued, principal, rfl, by rw [heq], rfl⟩
  | revoking client user issued =>
    cases h
    cases hstatus

/-- A client is bound where it has been authenticated. -/
theorem advance_client {client : IdentityClientPrincipal}
    (h : Call.advance lib db draw ⟨request, pc⟩ = some (db', pc'))
    (hclient : pc'.locals.client = some client) :
    pc.locals.client = some client ∨ (pc = .authenticating ∧
      (Identity.authenticateIdentityClient lib db draw.now (request.token.getD "")
        (some request.body.issuer)).2 = some client) := by
  cases pc with
  | checkingLimit => cases h
  | answered _ _ => cases h
  | authenticating =>
    simp only [Call.advance] at h
    split at h
    · cases h
      cases hclient
    · next heq =>
      cases h
      exact Or.inr ⟨rfl, by rw [heq]; exact hclient⟩
  | recordingLimit _ | recordingFailure | recordingDenial _ _ | revoking _ _ _ =>
    cases h
    exact Or.inl hclient
  | lookingUp _ | writing _ _ _ | recovering _ _ | issuing _ _ | reauthenticating _ _ _ =>
    simp only [Call.advance] at h
    split at h <;> cases h <;> exact Or.inl hclient

/-- What a step does to one call: nothing, or it arrives, or its next transaction runs. -/
theorem System.step_call {l : Label} (h : s.step lib configured l = some s') {call' : Call}
    (hcall' : s'.calls[index]? = some call') :
    s.calls[index]? = some call' ∨ (∃ request, call' = Call.arrive request) ∨
    (∃ call retryAfter, Call.limit configured call retryAfter = some call') ∨
    ∃ draw call db', l = .advance index draw ∧ s.calls[index]? = some call ∧
      call.advance lib s.db draw = some (db', call'.pc) ∧ call'.request = call.request := by
  cases l with
  | start request =>
    cases h
    rcases Nat.lt_or_ge index s.calls.length with hlt | hge
    · rw [List.getElem?_append_left hlt] at hcall'
      exact Or.inl hcall'
    · rw [List.getElem?_append_right hge] at hcall'
      exact Or.inr (Or.inl ⟨request, List.mem_singleton.mp (List.mem_of_getElem? hcall')⟩)
  | limit i retryAfter =>
    obtain ⟨call, limited, hcall, hlimit, rfl⟩ := System.step_limit h
    by_cases hi : i = index
    · rw [hi, List.getElem?_set_self (hi ▸ (List.getElem?_eq_some_iff.mp hcall).1)] at hcall'
      cases hcall'
      exact Or.inr (Or.inr (Or.inl ⟨call, retryAfter, hlimit⟩))
    · rw [List.getElem?_set_ne hi] at hcall'
      exact Or.inl hcall'
  | advance i draw =>
    obtain ⟨-, call, db', pc', hcall, hadvance, rfl⟩ := System.step_advance h
    by_cases hi : i = index
    · rw [hi, List.getElem?_set_self (hi ▸ (List.getElem?_eq_some_iff.mp hcall).1)] at hcall'
      cases hcall'
      exact Or.inr (Or.inr (Or.inr ⟨draw, call, db', by rw [hi], hi ▸ hcall, hadvance, rfl⟩))
    · rw [List.getElem?_set_ne hi] at hcall'
      exact Or.inl hcall'
  | administer draw call =>
    obtain ⟨-, rfl⟩ := System.step_administer h
    exact Or.inl hcall'

/-- The answers before the first transaction have another status. -/
theorem arrive_limit_status {call : Call} {answer : JsonAnswer} {locals : Locals}
    (hcall : (∃ request, call = Call.arrive request) ∨
      ∃ before retryAfter, Call.limit configured before retryAfter = some call)
    (hpc : call.pc = .answered answer locals) : answer.statusCode ≠ 200 := by
  intro hstatus
  rcases hcall with ⟨request, rfl⟩ | ⟨before, retryAfter, hlimit⟩
  · simp only [Call.arrive] at hpc
    split at hpc
    · cases hpc
    · cases hpc
      cases hstatus
  · unfold Call.limit at hlimit
    split at hlimit
    · cases hlimit
      dsimp only at hpc
      split at hpc
      · cases hpc
      · cases hpc
        cases hstatus
    · cases hlimit
      dsimp only at hpc
      split at hpc
      · cases hpc
      · cases hpc
        cases hstatus
    · cases hlimit

/-- At some step of the call its session was accepted as what the answer hands out, after its bridge had
been authenticated for the issuer of the user. -/
def AcceptedDuring (lib : SecretLibrary) (configured : Bool) (start : System) (schedule : List Label)
    (index : ℕ) (request : Request) (answer : JsonAnswer) : Prop :=
  ∃ first draw rest s client issued principal, schedule = first ++ .advance index draw :: rest ∧
    runSteps (System.step lib configured) start first = some s ∧
    (∃ user, s.calls[index]? = some ⟨request, .reauthenticating client user issued⟩) ∧
    (Identity.authenticateUserSession lib s.db draw.now issued.token).2 = some principal ∧
    principal.tenantId = issued.tenantId ∧ principal.userId = issued.userId ∧
    answer = exchanged issued principal.role ∧
    (∃ earlier draw₀ later s₀, first = earlier ++ .advance index draw₀ :: later ∧
      runSteps (System.step lib configured) start earlier = some s₀ ∧
      (Identity.authenticateIdentityClient lib s₀.db draw₀.now (request.token.getD "")
        (some request.body.issuer)).2 = some client) ∧
    ∃ row ∈ s.db.users.rows, row.id = issued.userId ∧ row.issuer ∈ client.allowedIssuers

/-- Every reached state leaves every request what it relies on. -/
theorem reachable_sound {db : IdentityDatabase} {schedule : List Label}
    (hrun : runSteps (System.step lib configured) (.initial db) schedule = some s) : s.Sound lib :=
  runSteps_invariant (System.Sound lib) (fun _ _ _ hsound h => System.sound_step hsound h)
    (fun _ hcall => by cases hcall) hrun

/-- A bound client has been authenticated by an earlier step of the call. -/
theorem authenticated_before {db : IdentityDatabase} {schedule : List Label}
    {client : IdentityClientPrincipal}
    (hrun : runSteps (System.step lib configured) (.initial db) schedule = some s)
    (hcall : s.calls[index]? = some ⟨request, pc⟩) (hclient : pc.locals.client = some client) :
    ∃ earlier draw₀ later s₀, schedule = earlier ++ .advance index draw₀ :: later ∧
      runSteps (System.step lib configured) (.initial db) earlier = some s₀ ∧
      (Identity.authenticateIdentityClient lib s₀.db draw₀.now (request.token.getD "")
        (some request.body.issuer)).2 = some client := by
  have hnone : ¬ ∃ pc, (System.initial db).calls[index]? = some ⟨request, pc⟩ ∧
      pc.locals.client = some client := by
    rintro ⟨pc, hcall, -⟩
    cases hcall
  obtain ⟨earlier, l, later, s₀, s₁, rfl, hearlier, hstep, hbefore, pc₁, hcall₁, hclient₁⟩ :=
    exists_step_of_not
      (P := fun s => ∃ pc, s.calls[index]? = some ⟨request, pc⟩ ∧ pc.locals.client = some client)
      hnone ⟨pc, hcall, hclient⟩ hrun
  rcases System.step_call hstep hcall₁ with hsame | ⟨arrived, harrive⟩ | ⟨call, retryAfter, hlimit⟩ |
    ⟨draw₀, ⟨request₀, pc₀⟩, db', rfl, hcall₀, hadvance, hrequest⟩
  · exact absurd ⟨pc₁, hsame, hclient₁⟩ hbefore
  · have hlocals := arrive_locals arrived
    rw [← harrive] at hlocals
    rw [hlocals] at hclient₁
    cases hclient₁
  · rw [(limit_locals hlimit).2] at hclient₁
    cases hclient₁
  · cases (hrequest : request = request₀)
    rcases advance_client hadvance hclient₁ with hold | ⟨-, haccepted⟩
    · exact absurd ⟨pc₀, hcall₀, hold⟩ hbefore
    · exact ⟨earlier, draw₀, later, s₀, rfl, hearlier, haccepted⟩

/-- A call that is answered with status 200 has seen its session accepted. -/
theorem accepted_of_answered {db : IdentityDatabase} {schedule : List Label} {answer : JsonAnswer}
    {locals : Locals}
    (hrun : runSteps (System.step lib configured) (.initial db) schedule = some s)
    (hcall : s.calls[index]? = some ⟨request, .answered answer locals⟩) (hstatus : answer.statusCode = 200) :
    AcceptedDuring lib configured (.initial db) schedule index request answer := by
  have hnone : ¬ ∃ locals, (System.initial db).calls[index]? = some ⟨request, .answered answer locals⟩ := by
    rintro ⟨locals, hcall⟩
    cases hcall
  obtain ⟨first, l, rest, s₁, s₂, rfl, hfirst, hstep, hbefore, locals₂, hcall₂⟩ :=
    exists_step_of_not (P := fun s => ∃ locals, s.calls[index]? = some ⟨request, .answered answer locals⟩)
      hnone ⟨locals, hcall⟩ hrun
  rcases System.step_call hstep hcall₂ with hsame | harrive | hlimit |
    ⟨draw, ⟨request₁, pc₁⟩, db', rfl, hcall₁, hadvance, hrequest⟩
  · exact absurd ⟨locals₂, hsame⟩ hbefore
  · exact absurd hstatus (@arrive_limit_status configured _ _ _ (Or.inl harrive) rfl)
  · exact absurd hstatus (arrive_limit_status (Or.inr hlimit) rfl)
  · cases (hrequest : request = request₁)
    obtain ⟨client, user, issued, principal, rfl, haccepted, hanswer⟩ := advance_exchanged hadvance hstatus
    have hsound := reachable_sound hfirst _ (List.mem_of_getElem? hcall₁)
    obtain ⟨row, hfound, hprincipal⟩ : ∃ row, Identity.sessionOf lib s₁.db issued.token = some row ∧
        Identity.sessionPrincipal s₁.db draw.now row = some principal := by
      rw [Identity.authenticateUserSession_snd, Option.bind_eq_some_iff] at haccepted
      exact haccepted
    obtain ⟨-, hmem, hhash⟩ := Identity.sessionOf_eq_some.mp hfound
    obtain ⟨-, htenant, huser⟩ := hsound.sessions issued rfl row hmem (Or.inr hhash)
    obtain ⟨-, -, -, -, -, -, hp⟩ := Identity.sessionPrincipal_eq_some.mp hprincipal
    have hpTenant : principal.tenantId = row.tenantId := congrArg UserSessionPrincipal.tenantId hp
    have hpUser : principal.userId = row.userId := congrArg UserSessionPrincipal.userId hp
    obtain ⟨userRow, huserRow, huserId, hissuer, -⟩ := hsound.user user rfl
    obtain ⟨owner, howner, hownerId⟩ := hsound.owner issued rfl
    cases howner
    refine ⟨first, draw, rest, s₁, client, issued, principal, rfl, hfirst, ⟨user, hcall₁⟩, haccepted,
      hpTenant.trans htenant, hpUser.trans huser, hanswer, authenticated_before hfirst hcall₁ rfl, userRow,
      huserRow, huserId.trans hownerId.symm, ?_⟩
    rw [hissuer]
    exact hsound.allowed client rfl

/-- All requests for one external identity use one user. -/
theorem user_unique (hsound : s.Sound lib) {call call' : Call} (hcall : call ∈ s.calls)
    (hcall' : call' ∈ s.calls)
    (hissuer : strip call.request.body.issuer = strip call'.request.body.issuer)
    (hsubject : strip call.request.body.subject = strip call'.request.body.subject) {user user' : UserRow}
    (huser : user ∈ call.pc.locals.user) (huser' : user' ∈ call'.pc.locals.user) : user.id = user'.id := by
  obtain ⟨row, hrow, hid, hrowIssuer, hrowSubject⟩ := (hsound call hcall).user user huser
  obtain ⟨row', hrow', hid', hrowIssuer', hrowSubject'⟩ := (hsound call' hcall').user user' huser'
  have hsame : row = row' := s.db.users.eq_of_key
    (fun other => other.issuer = row.issuer ∧ other.subject = row.subject)
    (fun a b ha hb => by
      obtain ⟨haIssuer, haSubject⟩ := of_decide_eq_true ha
      obtain ⟨hbIssuer, hbSubject⟩ := of_decide_eq_true hb
      exact Or.inr ⟨haIssuer.trans hbIssuer.symm, haSubject.trans hbSubject.symm⟩) hrow hrow' (by simp)
    (by simp [hrowIssuer, hrowSubject, hrowIssuer', hrowSubject', hissuer, hsubject])
  rw [← hid, hsame, hid']

/-- A call has issued exactly the sessions that its steps have created. -/
theorem issued_eq_created {db : IdentityDatabase} {schedule : List Label}
    (hrun : runSteps (System.step lib configured) (.initial db) schedule = some s) (index : ℕ) :
    s.issued index =
      emitted (System.step lib configured) (created lib configured index) (.initial db) schedule := by
  have hhistory : s.issued index =
      [] ++ emitted (System.step lib configured) (created lib configured index) (.initial db) schedule :=
    runSteps_history (fun history s => s.issued index = history)
      (fun _ _ _ _ hissued h => by rw [System.issued_step h index, hissued]) rfl hrun
  exact hhistory

/-- In every run of exchange requests, administrative operations and cleanups in any interleaving: an
answer with status 200 hands out a session that was accepted as such during the request; after any other
answer no session that the request created is left without being revoked; and requests for one
external identity use one user. -/
theorem exchange_safe (lib : SecretLibrary) (configured : Bool) {db : IdentityDatabase}
    {schedule : List Label} {s : System}
    (hrun : runSteps (System.step lib configured) (.initial db) schedule = some s) :
    (∀ index request answer locals, s.calls[index]? = some ⟨request, .answered answer locals⟩ →
      (answer.statusCode = 200 → AcceptedDuring lib configured (.initial db) schedule index request answer) ∧
      (answer.statusCode ≠ 200 → ∀ id ∈ emitted (System.step lib configured) (created lib configured index)
          (.initial db) schedule, ∀ row ∈ s.db.userSessions.rows, row.id = id → row.revokedAt ≠ none)) ∧
    ∀ call ∈ s.calls, ∀ call' ∈ s.calls, strip call.request.body.issuer = strip call'.request.body.issuer →
      strip call.request.body.subject = strip call'.request.body.subject →
      ∀ user ∈ call.pc.locals.user, ∀ user' ∈ call'.pc.locals.user, user.id = user'.id := by
  have hsound := reachable_sound hrun
  refine ⟨fun index request answer locals hcall => ⟨accepted_of_answered hrun hcall, ?_⟩, ?_⟩
  · intro hstatus id hid row hrow hrowId
    rw [← issued_eq_created hrun index, System.issued, hcall, Option.elim_some, Option.mem_toList,
      Option.map_eq_some_iff] at hid
    obtain ⟨issued, hissued, rfl⟩ := hid
    have hrefused := (hsound _ (List.mem_of_getElem? hcall)).refused answer locals rfl hstatus issued hissued
      row hrow hrowId
    exact Option.isSome_iff_ne_none.mp hrefused
  · intro call hcall call' hcall' hissuer hsubject user huser user' huser'
    exact user_unique hsound hcall hcall' hissuer hsubject huser huser'

/-- Digests that keep their argument. -/
def plainDigests : SecretLibrary where
  scrypt secret _ := secret.toByteArray.data.toList
  sha256 := id
  decimal c := if c.isDigit then some (c.toNat - 48) else none
  scrypt_injective _ _ _ h := String.toByteArray_inj.mp (ByteArray.ext (Array.toList_inj.mp h))
  sha256_injective := Function.injective_id
  decimal_digit := by decide

/-- A draw whose token repeats one character. -/
def drawOf (now : Instant) (uuid : String) (c : Char) (h : isUrlsafe c = true) : IdentityDraw :=
  ⟨now, uuid, ⟨List.replicate 24 'a', by simp, by simp; decide⟩,
    ⟨List.replicate 43 c, by simp, by simp [h]⟩, []⟩

/-- The same, with the character checked when the draw is evaluated. -/
def letterDraw (now : Instant) (uuid : String) (c : Char) : IdentityDraw :=
  if h : isUrlsafe c = true then drawOf now uuid c h else drawOf now uuid '_' rfl

/-- A database with a tenant and a bridge that vouches for one issuer. -/
def bridged : IdentityDatabase :=
  Identity.afterCall plainDigests
    (Identity.afterCall plainDigests .empty
      (drawOf 0 "1" 'a' rfl, .createTenant "tenant-a" "tenant-a" "Tenant A" 90 "system"))
    (drawOf 0 "2" 'b' rfl, .issueIdentityClient "bff" ["https://idp"])

/-- A request of that bridge for one user. -/
def login (subject : String) : Request where
  body := ⟨" https://idp", subject, none, none, "tenant-a"⟩
  token := some (joinToken (String.ofList ("igb_".toList ++ List.replicate 24 'a'))
    (String.ofList (List.replicate 43 'b')))
  requestId := "request-1"

/-- Two first logins that both insert the user; then, as a member, one that is let in and one whose
membership is suspended before its session is checked. -/
def logins : List Label :=
  [.start (login "u"), .start (login "u "), .limit 0 none, .limit 1 none,
    .advance 0 (drawOf 1 "3" 'c' rfl), .advance 1 (drawOf 1 "4" 'd' rfl),
    .advance 0 (drawOf 1 "5" 'e' rfl), .advance 1 (drawOf 1 "6" 'f' rfl),
    .advance 0 (drawOf 1 "7" 'g' rfl), .advance 1 (drawOf 1 "8" 'h' rfl), .advance 1 (drawOf 1 "9" 'i' rfl),
    .advance 0 (drawOf 2 "10" 'j' rfl), .advance 1 (drawOf 2 "11" 'k' rfl),
    .advance 0 (drawOf 2 "12" 'l' rfl), .advance 1 (drawOf 2 "13" 'm' rfl),
    .administer (drawOf 3 "14" 'n' rfl) (.setMembership "tenant-a" "usr_5" "viewer" "system"),
    .start (login "u"), .limit 2 none, .advance 2 (drawOf 4 "15" 'o' rfl), .advance 2 (drawOf 4 "16" 'p' rfl),
    .advance 2 (drawOf 4 "17" 'q' rfl), .advance 2 (drawOf 4 "18" 'r' rfl),
    .advance 2 (drawOf 4 "19" 's' rfl),
    .start (login "u"), .limit 3 none, .advance 3 (drawOf 5 "20" 't' rfl), .advance 3 (drawOf 5 "21" 'u' rfl),
    .advance 3 (drawOf 5 "22" 'v' rfl), .advance 3 (drawOf 5 "23" 'w' rfl),
    .administer (drawOf 6 "24" 'x' rfl) (.setMembershipStatus "tenant-a" "usr_5" "suspended" "system"),
    .advance 3 (drawOf 7 "25" 'y' rfl), .advance 3 (drawOf 7 "26" 'z' rfl)]

/-- The status of a call that is answered. -/
def Call.status (call : Call) : Option ℕ :=
  match call.pc with
  | .answered answer _ => some answer.statusCode
  | _ => none

set_option maxRecDepth 8000 in
/-- The theorem applies to these logins: the third is let in, and nothing is left of the fourth. -/
theorem exchange_safe_logins :
    ∃ s, runSteps (System.step plainDigests true) (.initial bridged) logins = some s ∧
      s.calls.map Call.status = [some 403, some 403, some 200, some 403] ∧
      (∃ request answer, AcceptedDuring plainDigests true (.initial bridged) logins 2 request answer) ∧
      (∀ id ∈ emitted (System.step plainDigests true) (created plainDigests true 3) (.initial bridged) logins,
        ∀ row ∈ s.db.userSessions.rows, row.id = id → row.revokedAt ≠ none) ∧
      ∀ call ∈ s.calls, ∀ call' ∈ s.calls, strip call.request.body.issuer = strip call'.request.body.issuer →
        strip call.request.body.subject = strip call'.request.body.subject →
        ∀ user ∈ call.pc.locals.user, ∀ user' ∈ call'.pc.locals.user, user.id = user'.id := by
  have hreach : (runSteps (System.step plainDigests true) (.initial bridged) logins).any (fun s =>
      s.calls.map Call.status = [some 403, some 403, some 200, some 403]) = true := by decide +kernel
  obtain ⟨s, hrun, hstatus⟩ := (Option.any_eq_true _ _).mp hreach
  rw [decide_eq_true_eq] at hstatus
  obtain ⟨hanswers, husers⟩ := exchange_safe plainDigests true hrun
  have hanswered : ∀ (index status : ℕ), (s.calls.map Call.status)[index]? = some (some status) →
      ∃ (request : Request) (answer : JsonAnswer) (locals : Locals),
        s.calls[index]? = some ⟨request, .answered answer locals⟩ ∧ answer.statusCode = status := by
    intro index status hcall
    rw [List.getElem?_map, Option.map_eq_some_iff] at hcall
    obtain ⟨⟨request, pc⟩, hcall, hpc⟩ := hcall
    cases pc with
    | answered answer locals => exact ⟨request, answer, locals, hcall, Option.some.inj hpc⟩
    | _ => cases hpc
  obtain ⟨request, answer, locals, hcall, hok⟩ := hanswered 2 200 (by rw [hstatus]; rfl)
  obtain ⟨request', answer', locals', hcall', hdenied⟩ := hanswered 3 403 (by rw [hstatus]; rfl)
  refine ⟨s, hrun, hstatus, ⟨request, answer, (hanswers 2 request answer locals hcall).1 hok⟩, ?_, husers⟩
  exact (hanswers 3 request' answer' locals' hcall').2 (by rw [hdenied]; decide)

end Exchange

end SharedIntegration

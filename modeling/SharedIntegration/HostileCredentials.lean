import SharedIntegration.ExchangeSafety
import SharedIntegration.FailClosed

/-!
# Hostile credentials

Tokens of a request reach `hmac.compare_digest` as strings: the bearer token beside every configured
one, and the session token of a revocation body beside the bearer token. The comparison raises when
one of its arguments is not ASCII, and neither caller catches that.
-/

namespace SharedIntegration

open Exchange (plainDigests drawOf letterDraw bridged)

/-! ### The authorization header -/

/-- A request that needs authentication. -/
structure AsgiScope.Protected (scope : AsgiScope) : Prop where
  type : scope.type = .of "http"
  notPublic : scope.path.getD [] ∉ publicPaths
  notRoute : scope.path.getD [] ∉ routeAuthPaths

/-- Every comparison of the loop is one of ASCII strings. -/
def Comparable (token : PyText) (principals : List (PyText × Principal)) : Prop :=
  ∀ before entry after, principals = before ++ entry :: after → (∀ earlier ∈ before, earlier.1 ≠ token) →
    token.isAscii = true ∧ entry.1.isAscii = true

/-- The loop ends without an error exactly if it compares ASCII strings only. -/
theorem findPrincipal_ok_iff (token : PyText) (principals : List (PyText × Principal)) :
    (∃ found, findPrincipal token principals = .ok found) ↔ Comparable token principals := by
  induction principals with
  | nil =>
    refine ⟨fun _ before entry after hsplit => ?_, fun _ => ⟨none, rfl⟩⟩
    exact absurd hsplit (List.ne_nil_of_mem (List.mem_append_right before List.mem_cons_self)).symm
  | cons first rest ih =>
    obtain ⟨configured, principal⟩ := first
    unfold findPrincipal
    by_cases hascii : (token.isAscii && configured.isAscii) = true
    · have hboth := Bool.and_eq_true_iff.mp hascii
      rw [if_pos hascii]
      by_cases hsame : token = configured
      · rw [if_pos hsame]
        refine ⟨fun _ before entry after hsplit hearlier => ?_, fun _ => ⟨some principal, rfl⟩⟩
        cases before with
        | nil =>
          obtain ⟨rfl, -⟩ := List.cons.inj hsplit
          exact hboth
        | cons earlier before =>
          obtain ⟨rfl, -⟩ := List.cons.inj hsplit
          exact absurd hsame.symm (hearlier _ List.mem_cons_self)
      · rw [if_neg hsame, ih]
        constructor
        · intro hrest before entry after hsplit hearlier
          cases before with
          | nil =>
            obtain ⟨rfl, -⟩ := List.cons.inj hsplit
            exact hboth
          | cons earlier before =>
            obtain ⟨-, hsplit⟩ := List.cons.inj hsplit
            exact hrest before entry after hsplit fun e he => hearlier e (List.mem_cons_of_mem earlier he)
        · intro hall before entry after hsplit hearlier
          apply hall ((configured, principal) :: before) entry after (by rw [hsplit, List.cons_append])
          intro earlier hmem
          rcases List.mem_cons.mp hmem with rfl | hmem
          · exact Ne.symm hsame
          · exact hearlier earlier hmem
    · rw [if_neg hascii]
      refine ⟨fun hfound => ?_, fun hall => ?_⟩
      · obtain ⟨_, hfound⟩ := hfound
        cases hfound
      · have hboth := hall [] (configured, principal) rest rfl fun _ hmem => absurd hmem List.not_mem_nil
        exact absurd (Bool.and_eq_true_iff.mpr hboth) hascii

/-- An authenticator that returns a principal or `None`. -/
def returning (lookup : PyText → Option Authenticated) : PrincipalAuthenticator := fun token => .ok (lookup token)

namespace TenantRBACMiddleware

/-- The middleware in front of such an authenticator, if there is one. -/
def withLookup (principals : List (PyText × Principal)) (lookup : Option (PyText → Option Authenticated)) :
    TenantRBACMiddleware :=
  ⟨principals, lookup.map returning⟩

/-- The request is answered with 401 or 403 or handed to the application, and `_authenticate` returns. -/
structure Answers (middleware : TenantRBACMiddleware) (tables : CaseTables) (scope : AsgiScope) (fresh : PyText) :
    Prop where
  answered : (∃ principal request, middleware.call tables scope fresh = .served principal request) ∨
    ∃ status code message request authenticate, (status = 401 ∨ status = 403) ∧
      middleware.call tables scope fresh = .refused status code message request authenticate
  returns : ∃ principal, middleware.authenticate tables scope = .ok principal

variable {tables : CaseTables} {scope : AsgiScope} {principals : List (PyText × Principal)}
  {lookup : Option (PyText → Option Authenticated)}

/-- Authentication returns exactly if the loop does. -/
theorem authenticate_ok_iff : (∃ principal, (withLookup principals lookup).authenticate tables scope = .ok principal) ↔
    ∀ token ∈ bearerToken tables scope, Comparable token principals := by
  unfold authenticate
  cases hbearer : bearerToken tables scope with
  | none => simp
  | some token =>
    have hmem : (∀ t ∈ some token, Comparable t principals) ↔ Comparable token principals := by simp
    rw [hmem, ← findPrincipal_ok_iff]
    cases hfind : findPrincipal token principals with
    | error error =>
      refine ⟨fun ⟨_, hok⟩ => ?_, fun ⟨_, hok⟩ => (by cases hok)⟩
      simp only [withLookup, hfind] at hok
      cases hok
    | ok found =>
      refine ⟨fun _ => ⟨found, rfl⟩, fun _ => ?_⟩
      simp only [withLookup, hfind]
      cases found with
      | some principal => exact ⟨some principal, rfl⟩
      | none =>
        cases lookup with
        | none => exact ⟨none, rfl⟩
        | some lookup => exact ⟨(lookup token).map Authenticated.principal, rfl⟩

/-- The checks on a principal answer 403 or hand the request on. -/
theorem authorize_answers (principal : Principal) (method path request : PyText) :
    authorize principal method path request = .served principal request ∨
      authorize principal method path request = .refused 403 "ACCESS_DENIED" "Access denied" request false := by
  unfold authorize
  split
  · exact Or.inr rfl
  · split
    · exact Or.inr rfl
    · split
      · exact Or.inr rfl
      · exact Or.inl rfl

/-- A request to a protected path is answered exactly if its token is compared with ASCII strings only. -/
theorem answers_iff (hprotected : scope.Protected) (fresh : PyText) :
    (withLookup principals lookup).Answers tables scope fresh ↔
      ∀ token ∈ bearerToken tables scope, Comparable token principals := by
  refine ⟨fun h => authenticate_ok_iff.mp h.returns, fun h => ?_⟩
  have hreturns := (@authenticate_ok_iff tables scope principals lookup).mpr h
  refine ⟨?_, hreturns⟩
  obtain ⟨principal, hprincipal⟩ := hreturns
  unfold call
  dsimp only
  rw [if_neg (not_not_intro hprotected.type), if_neg hprotected.notPublic, if_neg hprotected.notRoute]
  split
  · exact Or.inl ⟨_, _, rfl⟩
  · rw [hprincipal]
    cases principal with
    | none => exact Or.inr ⟨401, _, _, _, _, Or.inl rfl, rfl⟩
    | some principal =>
      rcases authorize_answers principal (tables.upper (scope.method.getD (.of "GET"))) (scope.path.getD [])
        (requestId tables scope fresh) with hserved | hrefused
      · exact Or.inl ⟨_, _, hserved⟩
      · exact Or.inr ⟨403, _, _, _, _, Or.inr rfl, hrefused⟩

end TenantRBACMiddleware

/-! ### The body of a revocation -/

/-- `SessionRevokeRequest`. -/
structure SessionRevokeRequest where
  sessionToken : Option String
  accepted : ∀ token ∈ sessionToken, 40 ≤ token.length ∧ token.length ≤ 80

/-- Every character is ASCII. -/
def isAsciiString (text : String) : Bool := text.toList.all fun c => c.toNat < 128

/-- `hmac.compare_digest` on two strings. -/
def compareDigest (a b : String) : Except AuthError Bool :=
  if isAsciiString a && isAsciiString b then .ok (a = b)
  else .error (.typeError "comparing strings with non-ASCII characters is not supported")

/-- A revocation request: its bearer token, its body and its request id. -/
structure RevokeCall where
  token : Option String
  body : Option SessionRevokeRequest
  requestId : String

/-- The session token that a revocation request names. -/
def RevokeCall.named (call : RevokeCall) : Option String := call.body.bind SessionRevokeRequest.sessionToken

/-- What other calls do to the database before each transaction of a handler, and what that one reads. -/
structure Surroundings where
  others : ℕ → IdentityDatabase → IdentityDatabase
  draws : ℕ → IdentityDraw

namespace RevokeCall

/-- The answer without an identity repository. -/
def unavailable (call : RevokeCall) : JsonAnswer :=
  errorAnswer 503 "AUTH_SERVICE_UNAVAILABLE" "Authentication service unavailable" call.requestId true []

/-- The answer to a session that names another one. -/
def accessDenied (call : RevokeCall) : JsonAnswer :=
  errorAnswer 403 "ACCESS_DENIED" "Access denied" call.requestId false []

/-- The answer to credentials that are not accepted. -/
def authenticationFailed (call : RevokeCall) : JsonAnswer :=
  errorAnswer 401 "AUTHENTICATION_FAILED" "Authentication failed" call.requestId false
    [("WWW-Authenticate", "Bearer")]

/-- The answer to a revocation that was carried out. -/
def revoked : JsonAnswer := ⟨200, .obj [("revoked", .bool true)], [("Cache-Control", "no-store")]⟩

/-- Revoke a session and say so. -/
def revoke (world : Surroundings) (db : IdentityDatabase) (index : ℕ) (call : RevokeCall)
    (principal : UserSessionPrincipal) (actor : String) : IdentityDatabase × Except AuthError JsonAnswer :=
  ((Identity.revokeUserSession (world.others index db) (world.draws index) principal.tenantId principal.sessionId
    actor (some call.requestId)).1, .ok revoked)

/-- `revoke_session` with a user session as the bearer token. -/
def bySession (world : Surroundings) (db : IdentityDatabase) (call : RevokeCall)
    (principal : UserSessionPrincipal) : IdentityDatabase × Except AuthError JsonAnswer :=
  let actor := "user:" ++ principal.userId ++ ";session:" ++ principal.sessionId ++ ";client:" ++
    principal.identityClientId
  match call.named with
  | none => revoke world db 1 call principal actor
  | some sessionToken =>
    match compareDigest sessionToken (call.token.getD "") with
    | .error error => (db, .error error)
    | .ok false => (db, .ok call.accessDenied)
    | .ok true => revoke world db 1 call principal actor

/-- `revoke_session` with the key of an identity client as the bearer token, or with neither. -/
def byBridge (lib : SecretLibrary) (world : Surroundings) (db : IdentityDatabase) (call : RevokeCall) :
    IdentityDatabase × Except AuthError JsonAnswer :=
  match Identity.authenticateIdentityClient lib (world.others 1 db) (world.draws 1).now (call.token.getD "") none with
  | (db, none) => (db, .ok call.authenticationFailed)
  | (db, some bridge) =>
    match call.named with
    | none => (db, .ok call.authenticationFailed)
    | some sessionToken =>
      match Identity.authenticateUserSession lib (world.others 2 db) (world.draws 2).now sessionToken with
      | (db, none) => (db, .ok call.authenticationFailed)
      | (db, some target) =>
        if target.identityClientId ≠ bridge.identityClientId then (db, .ok call.authenticationFailed)
        else revoke world db 3 call target ("identity_client:" ++ bridge.identityClientId)

/-- `revoke_session`. -/
def revokeSession (lib : SecretLibrary) (configured : Bool) (world : Surroundings) (db : IdentityDatabase)
    (call : RevokeCall) : IdentityDatabase × Except AuthError JsonAnswer :=
  if configured then
    match Identity.authenticateUserSession lib (world.others 0 db) (world.draws 0).now (call.token.getD "") with
    | (db, some principal) => bySession world db call principal
    | (db, none) => byBridge lib world db call
  else (db, .ok call.unavailable)

/-- The handler answers 200, 401, 403 or 503. -/
def Answers (outcome : IdentityDatabase × Except AuthError JsonAnswer) : Prop :=
  ∃ answer, outcome.2 = .ok answer ∧ answer.statusCode ∈ [200, 401, 403, 503]

/-- A user session that names a session names one in ASCII. -/
def Comparable (lib : SecretLibrary) (configured : Bool) (world : Surroundings) (db : IdentityDatabase)
    (call : RevokeCall) : Prop :=
  configured = true →
    (Identity.authenticateUserSession lib (world.others 0 db) (world.draws 0).now (call.token.getD "")).2.isSome →
      ∀ sessionToken ∈ call.named, isAsciiString sessionToken = true

end RevokeCall

/-- Digits and letters are ASCII. -/
theorem isUrlsafe_ascii {c : Char} (h : isUrlsafe c = true) : c.toNat < 128 := by
  simp only [isUrlsafe, Bool.or_eq_true, decide_eq_true_eq] at h
  rcases h with (halnum | rfl) | rfl
  · rw [PyString.isAlphanum_iff] at halnum
    omega
  · decide
  · decide

/-- The token of a session is ASCII. -/
theorem isAsciiString_of_isSessionToken {token : String} (h : isSessionToken token = true) :
    isAsciiString token = true := by
  simp only [isSessionToken, Bool.and_eq_true] at h
  obtain ⟨⟨⟨hstart, -⟩, -⟩, hall⟩ := h
  obtain ⟨rest, hrest⟩ := List.isPrefixOf_iff_prefix.mp hstart
  rw [isAsciiString, ← hrest, List.all_append, Bool.and_eq_true]
  refine ⟨by decide, List.all_eq_true.mpr fun c hc => decide_eq_true ?_⟩
  apply isUrlsafe_ascii
  apply List.all_eq_true.mp hall
  rw [← hrest]
  exact hc

/-- A session authenticates only with an ASCII token. -/
theorem isAsciiString_of_authenticate {lib : SecretLibrary} {db : IdentityDatabase} {now : Instant} {token : String}
    (h : (Identity.authenticateUserSession lib db now token).2.isSome) : isAsciiString token = true := by
  unfold Identity.authenticateUserSession Identity.sessionOf at h
  apply isAsciiString_of_isSessionToken
  by_contra hno
  simp [hno] at h

namespace RevokeCall

variable {lib : SecretLibrary} {world : Surroundings} {db : IdentityDatabase} {call : RevokeCall}

/-- Without a session no strings are compared. -/
theorem byBridge_answers : Answers (byBridge lib world db call) := by
  unfold byBridge
  split
  · exact ⟨_, rfl, by simp [authenticationFailed, errorAnswer]⟩
  · split
    · exact ⟨_, rfl, by simp [authenticationFailed, errorAnswer]⟩
    · split
      · exact ⟨_, rfl, by simp [authenticationFailed, errorAnswer]⟩
      · split
        · exact ⟨_, rfl, by simp [authenticationFailed, errorAnswer]⟩
        · exact ⟨_, rfl, by simp [revoked]⟩

/-- With a session the token that the body names is compared with the bearer token. -/
theorem bySession_answers_iff (hbearer : isAsciiString (call.token.getD "") = true)
    (principal : UserSessionPrincipal) :
    Answers (bySession world db call principal) ↔ ∀ sessionToken ∈ call.named, isAsciiString sessionToken = true := by
  unfold bySession
  cases hnamed : call.named with
  | none => exact ⟨fun _ sessionToken hmem => absurd hmem (by simp), fun _ => ⟨_, rfl, by simp [revoked]⟩⟩
  | some sessionToken =>
    simp only [Option.mem_some_iff, forall_eq']
    cases hascii : isAsciiString sessionToken with
    | false =>
      have hraise : compareDigest sessionToken (call.token.getD "") =
          .error (.typeError "comparing strings with non-ASCII characters is not supported") := by
        simp [compareDigest, hascii]
      rw [hraise]
      refine ⟨fun ⟨answer, hanswer, _⟩ => ?_, fun hfalse => absurd hfalse Bool.false_ne_true⟩
      cases hanswer
    | true =>
      have hcompare : compareDigest sessionToken (call.token.getD "") =
          .ok (decide (sessionToken = call.token.getD "")) := by
        simp [compareDigest, hascii, hbearer]
      rw [hcompare]
      refine ⟨fun _ => rfl, fun _ => ?_⟩
      cases decide (sessionToken = call.token.getD "") with
      | false => exact ⟨_, rfl, by simp [accessDenied, errorAnswer]⟩
      | true => exact ⟨_, rfl, by simp [revoked]⟩

/-- A revocation is answered exactly if a user session names sessions in ASCII only. -/
theorem answers_iff (configured : Bool) :
    Answers (revokeSession lib configured world db call) ↔ Comparable lib configured world db call := by
  unfold revokeSession Comparable
  cases configured with
  | false =>
    refine ⟨fun _ hfalse => absurd hfalse Bool.false_ne_true, fun _ => ?_⟩
    exact ⟨_, rfl, by simp [unavailable, errorAnswer]⟩
  | true =>
    simp only [if_true, forall_const]
    have hascii := @isAsciiString_of_authenticate lib (world.others 0 db) (world.draws 0).now (call.token.getD "")
    cases hauth : Identity.authenticateUserSession lib (world.others 0 db) (world.draws 0).now
        (call.token.getD "") with
    | mk db' found =>
      rw [hauth] at hascii
      cases found with
      | none => exact ⟨fun _ hnone => absurd hnone (by simp), fun _ => byBridge_answers⟩
      | some principal =>
        have hbearer := hascii rfl
        simp only [Option.isSome_some, forall_const]
        exact bySession_answers_iff hbearer principal

end RevokeCall

/-- Hostile credentials are answered exactly if every token that is compared is ASCII: the bearer token and the
configured ones up to the first that equals it, and the token that a live session asks to revoke. -/
theorem hostile_credentials_answered_iff (tables : CaseTables) (lib : SecretLibrary) :
    (∀ principals lookup scope fresh, AsgiScope.Protected scope →
      ((TenantRBACMiddleware.withLookup principals lookup).Answers tables scope fresh ↔
        ∀ token ∈ bearerToken tables scope, Comparable token principals)) ∧
    ∀ configured world db call, RevokeCall.Answers (RevokeCall.revokeSession lib configured world db call) ↔
      RevokeCall.Comparable lib configured world db call :=
  ⟨fun _ _ _ fresh hprotected => TenantRBACMiddleware.answers_iff hprotected fresh,
    fun configured _ _ _ => RevokeCall.answers_iff configured⟩

/-- A request to a protected path with a bearer token. -/
def bearing (token : PyText) : AsgiScope :=
  ⟨.of "http", some (.of "/v1/findings"), none, [(.of "authorization", .of "Bearer " ++ token)]⟩

/-- It needs authentication. -/
theorem bearing_protected (token : PyText) : (bearing token).Protected := by
  have hpath : PyText.of "/v1/findings" ∉ publicPaths ∧ PyText.of "/v1/findings" ∉ routeAuthPaths := by decide
  exact ⟨rfl, hpath.1, hpath.2⟩

/-- One configured analyst. -/
def oneAnalyst : List (PyText × Principal) :=
  [(.of "analyst-token-0001", .ofRole (.of "tenant-a") (.of "analyst") (.of "machine"))]

set_option maxRecDepth 4000 in
/-- The theorem applies to an unknown ASCII token. -/
theorem hostile_credentials_answered_iff_unknown :
    (TenantRBACMiddleware.withLookup oneAnalyst none).Answers asciiTables (bearing (.of "guess")) (.of "0") := by
  refine ((hostile_credentials_answered_iff asciiTables plainDigests).1 oneAnalyst none (bearing (.of "guess"))
    (.of "0") (bearing_protected _)).mpr ?_
  intro token htoken
  have hguess : token = .of "guess" := by
    have hbearer : bearerToken asciiTables (bearing (.of "guess")) = some (.of "guess") := by decide
    rw [hbearer] at htoken
    exact (Option.some.inj htoken).symm
  rw [hguess, ← findPrincipal_ok_iff]
  exact ⟨none, by decide⟩

/-- A database with a member of a tenant who has a session. -/
def loggedIn : IdentityDatabase :=
  [(letterDraw 1 "3" 'c', IdentityCall.upsertUser "https://idp" "u" none none),
    (letterDraw 1 "4" 'd', .setMembership "tenant-a" "usr_3" "viewer" "system"),
    (letterDraw 1 "5" 'e', .issueUserSession "idc_2" "tenant-a" "usr_3" 300 "system" none)].foldl
      (Identity.afterCall plainDigests) bridged

/-- Nothing else happens, and the clock stands still. -/
def undisturbed : Surroundings := ⟨fun _ db => db, fun _ => letterDraw 2 "6" 'f'⟩

/-- The member asks to revoke a session whose token is not ASCII. -/
def nonAsciiRevocation : RevokeCall where
  token := some (sessionToken (letterDraw 1 "5" 'e').urlsafe)
  body := some ⟨some (String.ofList (List.replicate 40 'é')), by decide⟩
  requestId := "request-1"

set_option maxRecDepth 8000 in
/-- A byte above 127 in the authorization header, and such a revocation, end in an exception. -/
theorem hostile_credentials_raise :
    (¬ ∀ principals lookup scope fresh, AsgiScope.Protected scope →
      (TenantRBACMiddleware.withLookup principals lookup).Answers asciiTables scope fresh) ∧
    ¬ ∀ configured world db call,
      RevokeCall.Answers (RevokeCall.revokeSession plainDigests configured world db call) := by
  constructor
  · intro hall
    obtain ⟨principal, hreturn⟩ := (hall oneAnalyst none (bearing [0xe9]) (.of "0") (bearing_protected _)).returns
    have hraise : (TenantRBACMiddleware.withLookup oneAnalyst none).authenticate asciiTables (bearing [0xe9]) =
        .error (.typeError "comparing strings with non-ASCII characters is not supported") := rfl
    rw [hraise] at hreturn
    cases hreturn
  · intro hall
    have hcomparable := (RevokeCall.answers_iff true).mp (hall true undisturbed loggedIn nonAsciiRevocation)
    have hsession : (Identity.authenticateUserSession plainDigests loggedIn 2
        (nonAsciiRevocation.token.getD "")).2.isSome = true := by decide +kernel
    have hascii := hcomparable rfl hsession _ rfl
    revert hascii
    decide +kernel

end SharedIntegration

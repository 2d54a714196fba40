import SharedIntegration.Auth

/-!
# When required authentication is fail-closed

With static tokens a request reaches the application only as the principal of a configured
token, unless nothing is configured: then every request is served as the built-in
administrator. A required configuration may not be missing, but an object without entries
passes every check of `load_principals` and configures nothing.
-/

namespace SharedIntegration

/-- The connection reaches the application. -/
def AuthOutcome.invokes : AuthOutcome → Bool
  | .passed | .served _ _ => true
  | .refused .. | .raised _ => false

/-- A token that is found is one of the configured ones. -/
theorem mem_of_findPrincipal {token : PyText} {principals : List (PyText × Principal)}
    {principal : Principal} (h : findPrincipal token principals = .ok (some principal)) :
    (token, principal) ∈ principals := by
  induction principals with
  | nil => cases h
  | cons entry rest ih =>
    obtain ⟨configured, candidate⟩ := entry
    unfold findPrincipal at h
    split at h
    · split at h
      · next hequal =>
        cases h
        rw [hequal]
        exact List.mem_cons_self
      · exact List.mem_cons_of_mem _ (ih h)
    · cases h

namespace TenantRBACMiddleware

variable {middleware : TenantRBACMiddleware} {tables : CaseTables} {scope : AsgiScope}

/-- Without an authenticator only configured tokens authenticate. -/
theorem bearer_of_authenticate {principal : Principal} (hnone : middleware.authenticator = none)
    (h : middleware.authenticate tables scope = .ok (some principal)) :
    ∃ token, bearerToken tables scope = some token ∧ (token, principal) ∈ middleware.principals := by
  unfold authenticate at h
  split at h
  · cases h
  · next token htoken =>
    cases hfind : findPrincipal token middleware.principals with
    | error error =>
      rw [hfind] at h
      cases h
    | ok found =>
      rw [hfind, hnone] at h
      cases found with
      | none => cases h
      | some candidate =>
        cases h
        exact ⟨token, htoken, mem_of_findPrincipal hfind⟩

/-- Who passes the checks is served under the principal that was checked. -/
theorem authorize_invokes {principal : Principal} {method path request : PyText}
    (h : (authorize principal method path request).invokes = true) :
    authorize principal method path request = .served principal request := by
  unfold authorize at h ⊢
  split at h
  · cases h
  · split at h
    · cases h
    · split at h
      · cases h
      · next hadmin hviewer hscope => rw [if_neg hadmin, if_neg hviewer, if_neg hscope]

/-- Once something is configured, a request to a protected path reaches the application only
as the principal of the configured token that it carries. -/
theorem bearer_of_invokes {fresh : PyText} (hnone : middleware.authenticator = none)
    (hconfigured : middleware.principals ≠ []) (htype : scope.type = .of "http")
    (hpublic : scope.path.getD [] ∉ publicPaths) (hroute : scope.path.getD [] ∉ routeAuthPaths)
    (h : (middleware.call tables scope fresh).invokes = true) :
    ∃ token principal, bearerToken tables scope = some token ∧
      (token, principal) ∈ middleware.principals ∧
      middleware.call tables scope fresh = .served principal (requestId tables scope fresh) := by
  unfold call at h ⊢
  dsimp only at h ⊢
  rw [if_neg (not_not.mpr htype), if_neg hpublic, if_neg hroute,
    if_neg fun hempty => hconfigured hempty.1] at h ⊢
  cases hauthenticate : middleware.authenticate tables scope with
  | error error =>
    rw [hauthenticate] at h
    cases h
  | ok found =>
    rw [hauthenticate] at h
    cases found with
    | none => cases h
    | some principal =>
      obtain ⟨token, htoken, hmem⟩ := bearer_of_authenticate hnone hauthenticate
      exact ⟨token, principal, htoken, hmem, authorize_invokes h⟩

end TenantRBACMiddleware

/-- An object with nothing but whitespace between its braces. -/
def EmptyTokenObject (raw : PyText) : Prop :=
  ∃ spaces, (∀ c ∈ spaces, JsonText.isSpace c = true) ∧ raw = 123 :: (spaces ++ [125])

/-- The whitespace of JSON is whitespace of Python. -/
theorem isSpace_of_json {c : ℕ} (h : JsonText.isSpace c = true) : PyText.isSpace c = true := by
  simp only [JsonText.isSpace, Bool.or_eq_true, decide_eq_true_eq] at h
  rcases h with ((rfl | rfl) | rfl) | rfl <;> rfl

/-- A stripped text is decoded to the empty object exactly if it is an empty object. -/
theorem loads_strip_eq_empty_iff (nesting : ℕ) (text : PyText) :
    JsonText.loads nesting (PyText.strip text) = .ok (.obj []) ↔ EmptyTokenObject (PyText.strip text) := by
  rw [JsonText.loads_eq_empty_iff]
  constructor
  · rintro ⟨before, middle, after, hspaces, hraw⟩
    have hbefore : before = [] := by
      cases before with
      | nil => rfl
      | cons c before =>
        have hnot := PyText.strip_ne_space_cons hraw
        rw [isSpace_of_json (hspaces c (by simp))] at hnot
        cases hnot
    have hafter : after = [] := by
      rcases List.eq_nil_or_concat after with hnil | ⟨front, c, hconcat⟩
      · exact hnil
      · have hend : PyText.strip text = (before ++ 123 :: (middle ++ 125 :: front)) ++ [c] := by
          rw [hraw, hconcat]
          simp
        have hnot := PyText.strip_ne_concat_space hend
        rw [isSpace_of_json (hspaces c (by simp [hconcat]))] at hnot
        cases hnot
    subst hbefore hafter
    exact ⟨middle, fun c hc => hspaces c (by simp [hc]), hraw⟩
  · rintro ⟨spaces, hspaces, hraw⟩
    exact ⟨[], spaces, [], by simpa using hspaces, hraw⟩

/-- Every entry of the token object configures a token. -/
theorem readEntries_eq_nil {principals : List (PyText × Principal)} {entries : List (PyText × JsonValue)}
    (h : readEntries principals entries = .ok []) : principals = [] ∧ entries = [] := by
  induction entries generalizing principals with
  | nil =>
    cases h
    exact ⟨rfl, rfl⟩
  | cons entry rest ih =>
    obtain ⟨bearer, value⟩ := entry
    unfold readEntries at h
    cases hentry : readEntry bearer value with
    | error error =>
      rw [hentry] at h
      cases h
    | ok principal =>
      rw [hentry] at h
      exact absurd (ih h).1 (Json.setEntry_ne_nil _ _ _)

/-- A required configuration without tokens is exactly an empty object. -/
theorem loadPrincipals_eq_nil_iff {tables : CaseTables} (nesting : ℕ) {env : AuthEnvironment}
    (hrequired : authRequired tables env = true) :
    loadPrincipals tables nesting env true = .ok [] ↔
      EmptyTokenObject (PyText.strip (env.tokens.getD [])) := by
  rw [← loads_strip_eq_empty_iff nesting]
  unfold loadPrincipals
  dsimp only
  split
  · next hempty =>
    rw [hempty, hrequired]
    constructor
    · intro h
      cases h
    · intro h
      cases h
  · split
    · next hloads =>
      rw [hloads]
      constructor <;> exact fun h => nomatch h
    · next entries hloads =>
      rw [hloads]
      constructor
      · intro h
        rw [(readEntries_eq_nil h).2]
      · intro h
        cases h
        rfl
    · next value hvalue hloads =>
      rw [hloads]
      constructor
      · intro h
        cases h
      · intro h
        exact absurd (Except.ok.inj h) (hvalue [])

/-- Whatever middleware the environment gives, no request to a protected path reaches the
application unless it carries a configured token, and then as the principal of that token. -/
def FailClosed (tables : CaseTables) (nesting : ℕ) (env : AuthEnvironment) : Prop :=
  ∀ middleware, buildMiddleware tables nesting env none none = .ok middleware →
    ∀ scope fresh, scope.type = .of "http" → scope.path.getD [] ∉ publicPaths →
      scope.path.getD [] ∉ routeAuthPaths → (middleware.call tables scope fresh).invokes = true →
        ∃ token principal, bearerToken tables scope = some token ∧
          (token, principal) ∈ middleware.principals ∧
          middleware.call tables scope fresh = .served principal (requestId tables scope fresh)

/-- With the static backend the middleware has the loaded principals and no authenticator. -/
theorem buildMiddleware_static {tables : CaseTables} {nesting : ℕ} {env : AuthEnvironment}
    (hstatic : tables.lower (PyText.strip (env.authBackend.getD (.of "static"))) = .of "static") :
    buildMiddleware tables nesting env none none =
      (loadPrincipals tables nesting env true).map fun principals => ⟨principals, none⟩ := by
  unfold buildMiddleware
  dsimp only
  rw [if_neg (by rw [hstatic]; decide), if_pos hstatic]
  cases loadPrincipals tables nesting env true <;> rfl

/-- Required static authentication is fail-closed exactly if the configured text is not an
empty object. -/
theorem required_auth_fail_closed_iff (tables : CaseTables) (nesting : ℕ) (env : AuthEnvironment)
    (hrequired : authRequired tables env = true)
    (hstatic : tables.lower (PyText.strip (env.authBackend.getD (.of "static"))) = .of "static") :
    FailClosed tables nesting env ↔ ¬ EmptyTokenObject (PyText.strip (env.tokens.getD [])) := by
  unfold FailClosed
  rw [← loadPrincipals_eq_nil_iff nesting hrequired, buildMiddleware_static hstatic]
  constructor
  · intro hclosed hnothing
    rw [hnothing] at hclosed
    obtain ⟨token, principal, -, hmem, -⟩ := hclosed ⟨[], none⟩ rfl
      ⟨.of "http", some (.of "/v1/scans"), none, []⟩ [] rfl (by decide) (by decide) rfl
    cases hmem
  · intro hconfigured middleware hbuild scope fresh htype hpublic hroute hinvokes
    cases hload : loadPrincipals tables nesting env true with
    | error error =>
      rw [hload] at hbuild
      cases hbuild
    | ok principals =>
      rw [hload] at hbuild hconfigured
      cases hbuild
      have hne : principals ≠ [] := fun hnil => hconfigured (by rw [hnil])
      exact TenantRBACMiddleware.bearer_of_invokes rfl hne htype hpublic hroute hinvokes

/-- Case tables that agree with Unicode on ASCII letters. -/
def asciiTables : CaseTables where
  lower text := text.map fun c => if 65 ≤ c ∧ c ≤ 90 then c + 32 else c
  upper text := text.map fun c => if 97 ≤ c ∧ c ≤ 122 then c - 32 else c

/-- A required configuration of one analyst. -/
def analystEnvironment : AuthEnvironment where
  required := some (.of "True")
  tokens := some (.of (" \x7b\"analyst-token-0001\": \x7b\"tenant\": \"tenant-a\", \"role\": " ++
    "\"analyst\"\x7d\x7d"))
  authBackend := none

set_option maxRecDepth 4000 in
/-- The theorem applies to that configuration, which loads. -/
theorem required_auth_fail_closed_iff_analyst :
    FailClosed asciiTables 100 analystEnvironment ∧
      loadPrincipals asciiTables 100 analystEnvironment true =
        .ok [(.of "analyst-token-0001", .ofRole (.of "tenant-a") (.of "analyst") (.of "machine"))] := by
  have hrequired : authRequired asciiTables analystEnvironment = true := by decide
  have hload : loadPrincipals asciiTables 100 analystEnvironment true =
      .ok [(.of "analyst-token-0001", .ofRole (.of "tenant-a") (.of "analyst") (.of "machine"))] := by
    rfl
  refine ⟨(required_auth_fail_closed_iff asciiTables 100 analystEnvironment hrequired (by decide)).mpr ?_,
    hload⟩
  rw [← loadPrincipals_eq_nil_iff 100 hrequired, hload]
  exact fun h => nomatch h

/-- A configuration that is required and configures nothing. -/
def emptyEnvironment : AuthEnvironment where
  required := some (.of "true")
  tokens := some (.of "\x7b\x7d")
  authBackend := some (.of "static")

/-- It loads, and a request without any header is served as the built-in administrator. -/
theorem required_auth_open :
    authRequired asciiTables emptyEnvironment = true ∧
    ∃ middleware, buildMiddleware asciiTables 100 emptyEnvironment none none = .ok middleware ∧
      middleware.call asciiTables ⟨.of "http", some (.of "/v1/admin/tenants"), some (.of "POST"), []⟩
        (.of "0") =
          .served (.ofRole (.of "default") (.of "admin") (.of "machine")) (.of "req_0") :=
  ⟨by decide, ⟨[], none⟩, rfl, rfl⟩

end SharedIntegration

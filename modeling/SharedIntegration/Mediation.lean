import SharedIntegration.FailClosed

/-!
# Complete mediation of requests

The middleware answers a request itself or calls the application, and around that call it
binds the tenant of one principal in a context variable. Both are put together here with an
arbitrary application: who is let through, what the application sees, and what is bound when
the call is over.
-/

namespace SharedIntegration

/-- What the application sees of a call: the principal and the request id in `scope["state"]`,
and `current_tenant()`. -/
structure AppCall where
  state : Option (Principal × PyText)
  tenant : PyText

/-- How a call ended. -/
inductive Completion
  | returned
  | raised

/-- The application: how its call ends, and the tenant it leaves bound in its context. -/
abbrev AsgiApp := AppCall → Completion × PyText

/-- The application calls made for a connection, how it ended, and the tenant bound behind it. -/
structure Served where
  calls : List AppCall
  completion : Completion
  tenant : PyText

/-- `bind_tenant`: the token of a context variable holds the value it had before. -/
def bindTenant (current tenantId : PyText) : PyText × PyText := (current, tenantId)

/-- `reset_tenant`: whatever is bound meanwhile, the value of the token comes back. -/
def resetTenant (_current token : PyText) : PyText := token

/-- `_call_as`; the `finally` clause runs however the application ends. -/
def callAs (app : AsgiApp) (principal : Principal) (requestId tenant : PyText) : Served :=
  let (token, bound) := bindTenant tenant principal.tenantId
  let seen : AppCall := ⟨some (principal, requestId), bound⟩
  let (completion, left) := app seen
  ⟨[seen], completion, resetTenant left token⟩

namespace TenantRBACMiddleware

variable (middleware : TenantRBACMiddleware) (tables : CaseTables)

/-- `__call__` in front of an application, in a context with the given tenant bound. -/
def serve (app : AsgiApp) (scope : AsgiScope) (fresh tenant : PyText) : Served :=
  match middleware.call tables scope fresh with
  | .passed =>
    let (completion, left) := app ⟨none, tenant⟩
    ⟨[⟨none, tenant⟩], completion, left⟩
  | .served principal requestId => callAs app principal requestId tenant
  | .refused .. => ⟨[], .returned, tenant⟩
  | .raised _ => ⟨[], .raised, tenant⟩

/-- The token belongs to the principal: as a configured one, or for the authenticator. -/
def Resolves (token : PyText) (principal : Principal) : Prop :=
  (token, principal) ∈ middleware.principals ∨
    ∃ authenticator authenticated, middleware.authenticator = some authenticator ∧
      authenticator token = .ok (some authenticated) ∧ principal = authenticated.principal

end TenantRBACMiddleware

/-- The scope that a restricted token needs for a request. -/
def requiredScope (method path : PyText) : PyText :=
  if (PyText.of "/v1/admin/").isPrefixOf path then .of "gateway:admin"
  else if method ∈ safeMethods then .of "gateway:read"
  else if (PyText.of "/v1/scans").isPrefixOf path ∨
      (PyText.of "/v0.5/").isPrefixOf path ∧ (PyText.of "/scan").isSuffixOf path then .of "scan:write"
  else if (PyText.of "/v1/findings/").isPrefixOf path ∧ method = .of "PATCH" then .of "finding:write"
  else .of "gateway:write"

/-- Role and scopes of the principal allow a request with this method, in upper case, and path. -/
structure Permitted (principal : Principal) (method path : PyText) : Prop where
  admin : (PyText.of "/v1/admin/").isPrefixOf path = true → principal.role = .of "admin"
  writer : method ∉ safeMethods → principal.role ≠ .of "viewer"
  scopes : ∀ scopes, principal.scopes = some scopes →
    scopes = [] ∨ .of "gateway:*" ∈ scopes ∨ requiredScope method path ∈ scopes

/-- The grounds on which a request may reach the application as a principal. -/
inductive Admitted (middleware : TenantRBACMiddleware) (tables : CaseTables) (scope : AsgiScope) :
    Principal → Prop
  | publicPath (hpath : scope.path.getD [] ∈ publicPaths) :
      Admitted middleware tables scope (.ofRole (.of "_system") (.of "viewer") (.of "public"))
  | routePath (hpath : scope.path.getD [] ∈ routeAuthPaths) :
      Admitted middleware tables scope (.ofRole (.of "_auth") (.of "viewer") (.of "route"))
  | unconfigured (hprincipals : middleware.principals = []) (hauthenticator : middleware.authenticator = none) :
      Admitted middleware tables scope (.ofRole (.of "default") (.of "admin") (.of "machine"))
  | bearer {token principal} (htoken : bearerToken tables scope = some token)
      (hresolves : middleware.Resolves token principal)
      (hpermitted : Permitted principal (tables.upper (scope.method.getD (.of "GET")))
        (scope.path.getD [])) : Admitted middleware tables scope principal

/-- The scope table grants exactly the unrestricted tokens and those with the required scope. -/
theorem scopeAllows_iff {principal : Principal} {method path : PyText} :
    scopeAllows principal method path = true ↔ ∀ scopes, principal.scopes = some scopes →
      scopes = [] ∨ .of "gateway:*" ∈ scopes ∨ requiredScope method path ∈ scopes := by
  unfold scopeAllows requiredScope
  cases principal.scopes with
  | none => simp
  | some scopes =>
    simp only [Option.some.injEq, forall_eq']
    by_cases hfree : scopes = [] ∨ .of "gateway:*" ∈ scopes
    · rw [if_pos hfree]
      exact iff_of_true rfl (hfree.elim .inl fun h => .inr (.inl h))
    · rw [if_neg hfree]
      rw [not_or] at hfree
      rw [or_iff_right hfree.1, or_iff_right hfree.2]
      split
      · exact decide_eq_true_iff
      · split
        · exact decide_eq_true_iff
        · split
          · exact decide_eq_true_iff
          · split <;> exact decide_eq_true_iff

namespace TenantRBACMiddleware

variable {middleware : TenantRBACMiddleware} {tables : CaseTables} {scope : AsgiScope}

/-- An authenticated principal is that of the bearer token. -/
theorem resolves_of_authenticate {principal : Principal}
    (h : middleware.authenticate tables scope = .ok (some principal)) :
    ∃ token, bearerToken tables scope = some token ∧ middleware.Resolves token principal := by
  unfold authenticate at h
  split at h
  · cases h
  · next token htoken =>
    refine ⟨token, htoken, ?_⟩
    cases hfind : findPrincipal token middleware.principals with
    | error error =>
      rw [hfind] at h
      cases h
    | ok found =>
      rw [hfind] at h
      cases found with
      | some candidate =>
        cases h
        exact .inl (mem_of_findPrincipal hfind)
      | none =>
        cases hauthenticator : middleware.authenticator with
        | none =>
          rw [hauthenticator] at h
          cases h
        | some authenticator =>
          rw [hauthenticator] at h
          change (authenticator token >>= fun known => .ok (known.map Authenticated.principal)) = _ at h
          cases hknown : authenticator token with
          | error error =>
            rw [hknown] at h
            cases h
          | ok known =>
            rw [hknown] at h
            obtain ⟨authenticated, rfl, hprincipal⟩ := Option.map_eq_some_iff.mp (Except.ok.inj h)
            exact .inr ⟨authenticator, authenticated, hauthenticator, hknown, hprincipal.symm⟩

/-- Who passes the checks on an authenticated request is permitted to make it. -/
theorem authorize_served {principal served : Principal} {method path request request' : PyText}
    (h : authorize principal method path request = .served served request') :
    served = principal ∧ request' = request ∧ Permitted principal method path := by
  unfold authorize at h
  split at h
  · cases h
  · next hadmin =>
    split at h
    · cases h
    · next hviewer =>
      split at h
      · cases h
      · next hscope =>
        cases h
        rw [Bool.not_eq_false] at hscope
        refine ⟨rfl, rfl, ?_, ?_, scopeAllows_iff.mp hscope⟩
        · intro hpath
          by_contra hrole
          exact hadmin ⟨hpath, hrole⟩
        · intro hmethod hrole
          exact hviewer ⟨hmethod, hrole⟩

/-- The checks on an authenticated request never hand it on unchecked. -/
theorem authorize_ne_passed {principal : Principal} {method path request : PyText} :
    authorize principal method path request ≠ .passed := by
  unfold authorize
  split
  · exact nofun
  · split
    · exact nofun
    · split <;> exact nofun

/-- Only connections that are not HTTP are handed on unchecked. -/
theorem type_of_call_passed {fresh : PyText} (h : middleware.call tables scope fresh = .passed) :
    scope.type ≠ .of "http" := by
  unfold call at h
  dsimp only at h
  split at h
  · next htype => exact htype
  · split at h
    · cases h
    · split at h
      · cases h
      · split at h
        · cases h
        · split at h
          · cases h
          · cases h
          · exact absurd h authorize_ne_passed

/-- A request that is served is served on good grounds. -/
theorem call_served {fresh request : PyText} {principal : Principal}
    (h : middleware.call tables scope fresh = .served principal request) :
    request = requestId tables scope fresh ∧ Admitted middleware tables scope principal := by
  unfold call at h
  dsimp only at h
  split at h
  · cases h
  · split at h
    · next hpath =>
      cases h
      exact ⟨rfl, .publicPath hpath⟩
    · split at h
      · next hpath =>
        cases h
        exact ⟨rfl, .routePath hpath⟩
      · split at h
        · next hempty =>
          cases h
          exact ⟨rfl, .unconfigured hempty.1 (Option.isNone_iff_eq_none.mp hempty.2)⟩
        · split at h
          · cases h
          · cases h
          · next candidate hauthenticate =>
            obtain ⟨rfl, rfl, hpermitted⟩ := authorize_served h
            obtain ⟨token, htoken, hresolves⟩ := resolves_of_authenticate hauthenticate
            exact ⟨rfl, .bearer htoken hresolves hpermitted⟩

end TenantRBACMiddleware

/-- Every application call for an HTTP request is made as a principal with grounds for it, sees
that principal's tenant, and leaves the tenant bound before, however it ends. -/
theorem mediation_complete (middleware : TenantRBACMiddleware) (tables : CaseTables) (app : AsgiApp)
    (scope : AsgiScope) (fresh tenant : PyText) (htype : scope.type = .of "http") :
    (∀ seen ∈ (middleware.serve tables app scope fresh tenant).calls, ∃ principal,
      seen.state = some (principal, requestId tables scope fresh) ∧
      Admitted middleware tables scope principal ∧ seen.tenant = principal.tenantId) ∧
    (middleware.serve tables app scope fresh tenant).tenant = tenant := by
  unfold TenantRBACMiddleware.serve
  cases hcall : middleware.call tables scope fresh with
  | passed => exact absurd htype (TenantRBACMiddleware.type_of_call_passed hcall)
  | served principal request =>
    obtain ⟨rfl, hadmitted⟩ := TenantRBACMiddleware.call_served hcall
    refine ⟨?_, rfl⟩
    intro seen hseen
    have hsame : seen = ⟨some (principal, requestId tables scope fresh), principal.tenantId⟩ :=
      List.mem_singleton.mp hseen
    rw [hsame]
    exact ⟨principal, rfl, hadmitted, rfl⟩
  | refused => exact ⟨fun seen hseen => absurd hseen List.not_mem_nil, rfl⟩
  | raised => exact ⟨fun seen hseen => absurd hseen List.not_mem_nil, rfl⟩

/-- A bearer token with a read scope in a lower-case request. -/
def scopedRead : AsgiScope :=
  ⟨.of "http", some (.of "/v1/scans"), some (.of "get"),
    [(.of "Authorization", .of "bearer key_0123456789abcdef")]⟩

/-- An authenticator that knows that token as a viewer restricted to reading. -/
def scopedAuthenticator : PrincipalAuthenticator := fun token =>
  .ok (if token = .of "key_0123456789abcdef" then
    some ⟨.of "tenant-a", .of "viewer", some [.of "gateway:read"], none, none, none, some (.of "key-1")⟩
  else none)

set_option maxRecDepth 4000 in
/-- The theorem applies to that request in front of an application that rebinds the tenant and
raises; it is called once. -/
theorem mediation_complete_scopedRead :
    let middleware : TenantRBACMiddleware := ⟨[], some scopedAuthenticator⟩
    let app : AsgiApp := fun _ => (.raised, .of "tenant-b")
    let served := middleware.serve asciiTables app scopedRead (.of "0") (.of "default")
    (∀ seen ∈ served.calls, ∃ principal,
      seen.state = some (principal, requestId asciiTables scopedRead (.of "0")) ∧
      Admitted middleware asciiTables scopedRead principal ∧ seen.tenant = principal.tenantId) ∧
    served.tenant = .of "default" ∧ served.calls.map AppCall.tenant = [.of "tenant-a"] := by
  obtain ⟨hcalls, htenant⟩ := mediation_complete ⟨[], some scopedAuthenticator⟩ asciiTables
    (fun _ => (.raised, .of "tenant-b")) scopedRead (.of "0") (.of "default") rfl
  exact ⟨hcalls, htenant, by decide⟩

end SharedIntegration

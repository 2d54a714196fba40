import SharedIntegration.HttpDisclosure
import SharedIntegration.Mediation

/-!
# Who writes over HTTP

Handlers keep the principal that their request was admitted as, and write for its tenant while exchanges,
revocations, other requests and workers go on. Every change of what a tenant holds and every message
about a job of it comes from a worker or from a request that was allowed to write for that tenant when it
was admitted.
-/

namespace SharedIntegration

open Transition Identity Isolation

/-- The scope that a restricted token needs for a route that writes. -/
def ApiRoute.scope : ApiRoute → PyText
  | .updateFinding _ _ _ => .of "finding:write"
  | _ => .of "scan:write"

/-- The grounds on which a request may write for a principal: a gateway without credentials, or a token of the
principal, who is no viewer, with the scope of the route. -/
inductive MayWrite (config : HttpConfig) (db : IdentityDatabase) (now : Instant) (request : HttpRequest) :
    Principal → Prop
  | unconfigured (hprincipals : config.principals = []) (hidentity : config.identity = false) :
      MayWrite config db now request (.ofRole (.of "default") (.of "admin") (.of "machine"))
  | bearer {token principal} (htoken : bearerToken config.tables request.scope = some token)
      (hresolves : (config.middleware db now).Resolves token principal) (hrole : principal.role ≠ .of "viewer")
      (hscopes : ∀ scopes, principal.scopes = some scopes →
        scopes = [] ∨ .of "gateway:*" ∈ scopes ∨ request.route.scope ∈ scopes) :
      MayWrite config db now request principal

section Routes

/-- Texts with one prefix each of which none begins with the other are different. -/
theorem not_isPrefixOf {p q text : PyText} (hp : p.isPrefixOf text = true) (hpq : p.isPrefixOf q = false)
    (hqp : q.isPrefixOf p = false) : q.isPrefixOf text = false := by
  rw [← Bool.not_eq_true, List.isPrefixOf_iff_prefix] at hpq hqp ⊢
  rw [List.isPrefixOf_iff_prefix] at hp
  intro hq
  rcases List.prefix_or_prefix_of_prefix hp hq with h | h
  · exact hpq h
  · exact hqp h

/-- A text that is put together begins with its first part. -/
theorem isPrefixOf_of_append (a b : String) : (PyText.of a).isPrefixOf (PyText.of (a ++ b)) = true := by
  rw [PyText.of, PyText.of, String.toList_append, List.map_append, List.isPrefixOf_iff_prefix]
  exact List.prefix_append _ _

/-- Where the writing routes are. -/
theorem ApiRoute.address_of_writes {route : ApiRoute} (h : route.writes = true) :
    ∃ path, (route.address = some (.of "POST", path) ∧ route.scope = .of "scan:write" ∧
        (PyText.of "/v1/scans").isPrefixOf path = true) ∨
      (route.address = some (.of "PATCH", path) ∧ route.scope = .of "finding:write" ∧
        (PyText.of "/v1/findings/").isPrefixOf path = true) := by
  cases route with
  | createScan source payload idempotencyKey => exact ⟨_, .inl ⟨rfl, rfl, rfl⟩⟩
  | cancelScan jobId =>
    refine ⟨_, .inl ⟨rfl, rfl, ?_⟩⟩
    have hsplit : "/v1/scans/" ++ jobId ++ "/cancel" = "/v1/scans" ++ ("/" ++ jobId ++ "/cancel") := by
      simp only [← String.append_assoc]
      rfl
    rw [hsplit]
    exact isPrefixOf_of_append _ _
  | updateFinding findingId status assignedTo => exact ⟨_, .inr ⟨rfl, rfl, isPrefixOf_of_append _ _⟩⟩
  | livez | readyz | listAdapters | adminHealth | listScans | getScan | scanEvents | listFindings | unserved => cases h

/-- A request for a route comes with its method and its path. -/
theorem ApiRoute.scope_of_servedAt {route : ApiRoute} {scope : AsgiScope} {method path : PyText}
    (h : route.servedAt scope = true) (haddress : route.address = some (method, path)) :
    scope.method = some method ∧ scope.path = some path := by
  unfold ApiRoute.servedAt at h
  rw [haddress] at h
  simp only [Bool.and_eq_true, decide_eq_true_eq] at h
  exact ⟨h.1.2, h.2⟩

/-- A path below these is neither public nor authenticated by its route. -/
theorem not_mem_publicPaths {p path : PyText} (hp : p.isPrefixOf path = true)
    (hfree : ∀ free ∈ publicPaths ++ routeAuthPaths, p.isPrefixOf free = false) :
    path ∉ publicPaths ∧ path ∉ routeAuthPaths := by
  constructor
  · intro hmem
    have hfalse := hfree path (List.mem_append_left _ hmem)
    rw [hp] at hfalse
    cases hfalse
  · intro hmem
    have hfalse := hfree path (List.mem_append_right _ hmem)
    rw [hp] at hfalse
    cases hfalse

/-- The scope that a request over a route that writes needs. -/
theorem requiredScope_of_writes {route : ApiRoute} {method path : PyText} (hwrites : route.writes = true)
    (haddress : route.address = some (method, path)) :
    method ∈ [PyText.of "POST", .of "PATCH"] ∧ path ∉ publicPaths ∧ path ∉ routeAuthPaths ∧
      method ∉ safeMethods ∧ requiredScope method path = route.scope := by
  obtain ⟨path', ⟨haddress', hscope, hstarts⟩ | ⟨haddress', hscope, hstarts⟩⟩ := ApiRoute.address_of_writes hwrites
  · rw [haddress, Option.some.injEq, Prod.mk.injEq] at haddress'
    obtain ⟨rfl, rfl⟩ := haddress'
    have hadmin := not_isPrefixOf hstarts (q := .of "/v1/admin/") rfl rfl
    obtain ⟨hpublic, hroute⟩ := not_mem_publicPaths hstarts (by decide)
    refine ⟨by decide, hpublic, hroute, by decide, ?_⟩
    rw [hscope, requiredScope, if_neg (Bool.not_eq_true _ ▸ hadmin), if_neg (by decide), if_pos (.inl hstarts)]
  · rw [haddress, Option.some.injEq, Prod.mk.injEq] at haddress'
    obtain ⟨rfl, rfl⟩ := haddress'
    have hadmin := not_isPrefixOf hstarts (q := .of "/v1/admin/") rfl rfl
    have hscans := not_isPrefixOf hstarts (q := .of "/v1/scans") rfl rfl
    have hlegacy := not_isPrefixOf hstarts (q := .of "/v0.5/") rfl rfl
    obtain ⟨hpublic, hroute⟩ := not_mem_publicPaths hstarts (by decide)
    refine ⟨by decide, hpublic, hroute, by decide, ?_⟩
    rw [hscope, requiredScope, if_neg (Bool.not_eq_true _ ▸ hadmin), if_neg (by decide), if_neg, if_pos ⟨hstarts, rfl⟩]
    rw [hscans, hlegacy]
    simp

/-- Whoever is served on a route that writes may write. -/
theorem mayWrite_of_admitted {config : HttpConfig} {db : IdentityDatabase} {now : Instant} {request : HttpRequest}
    {principal : Principal} (hupper : ∀ method ∈ [PyText.of "POST", .of "PATCH"], config.tables.upper method = method)
    (hwrites : request.route.writes = true) (hserved : request.route.servedAt request.scope = true)
    (hadmitted : Admitted (config.middleware db now) config.tables request.scope principal) :
    MayWrite config db now request principal := by
  obtain ⟨⟨method, path⟩, haddress⟩ : ∃ address, request.route.address = some address := by
    obtain ⟨path, ⟨haddress, -⟩ | ⟨haddress, -⟩⟩ := ApiRoute.address_of_writes hwrites <;> exact ⟨_, haddress⟩
  obtain ⟨hmethod, hpublic, hroute, hunsafe, hrequired⟩ := requiredScope_of_writes hwrites haddress
  obtain ⟨hscopeMethod, hscopePath⟩ := ApiRoute.scope_of_servedAt hserved haddress
  cases hadmitted with
  | publicPath hpath =>
    rw [hscopePath] at hpath
    exact absurd hpath hpublic
  | routePath hpath =>
    rw [hscopePath] at hpath
    exact absurd hpath hroute
  | unconfigured hprincipals hauthenticator =>
    refine .unconfigured hprincipals ?_
    by_contra hidentity
    rw [Bool.not_eq_false] at hidentity
    simp [HttpConfig.middleware, TenantRBACMiddleware.withLookup, hidentity] at hauthenticator
  | bearer htoken hresolves hpermitted =>
    rw [hscopeMethod, hscopePath, Option.getD_some, Option.getD_some, hupper method hmethod] at hpermitted
    refine .bearer htoken hresolves (hpermitted.writer hunsafe) ?_
    rw [← hrequired]
    exact hpermitted.scopes

end Routes

namespace HttpGateway

variable {config : HttpConfig} {s t : HttpGateway} {tenantId : String}

/-- Only jobs of the tenant. -/
def ownJobs (tenantId : String) : Visible := ⟨fun job => job.tenantId = tenantId, fun _ => True, fun _ => True⟩

/-- Calls return jobs of their tenant only. -/
theorem ownJobs_covers (core : CoreLibrary) (tenantId : String) (db : Database) :
    (ownJobs tenantId).Covers core tenantId db :=
  ⟨fun _ _ htenant => htenant, fun _ _ _ => trivial, fun _ _ _ => trivial⟩

/-- In every run each request is confined to the jobs of its tenant. -/
theorem confined_run {db₀ : IdentityDatabase} {schedule : List HttpLabel}
    (hrun : runSteps (step config) (.initial db₀) schedule = some s) :
    ∀ call ∈ s.calls, call.pc.Confined ownJobs call.request.route := by
  intro call hcall
  obtain ⟨index, hindex⟩ := List.mem_iff_getElem?.mp hcall
  exact confinedBy_run hrun index ownJobs (fun tenantId db _ => ownJobs_covers config.core tenantId db) call hindex

/-- What the stores hold of a tenant, and the messages that the broker has taken about jobs of it. -/
def heldBy (s : HttpGateway) (tenantId : String) : HeldRows × List JobKey :=
  (s.db.heldBy tenantId, s.published.filter fun key => key.tenantId = tenantId)

/-- The stores of two databases hold the same. -/
theorem heldBy_of_sameStores {db db' : Database} (h : SameStores db db') (tenantId : String) :
    db'.heldBy tenantId = db.heldBy tenantId := by
  unfold Database.heldBy
  rw [h.jobTables, h.findings, h.correlations, h.correlationFindings]

/-- A call of a handler that writes for a tenant is bound to it and allowed to write. -/
theorem written_of_serve {m : Moment} {outside : Outside} {c : ApiCall} {writes : Bool} {bound : String}
    (hbound : c.Bound (ownJobs bound) bound writes)
    (hwritten : (s.withStore (s.store.serve config m outside c).1).heldBy tenantId ≠ s.heldBy tenantId) :
    bound = tenantId ∧ writes = true := by
  cases c with
  | store call =>
    obtain ⟨rfl, -, hallowed⟩ := hbound
    have hchanged : (call.perform config.core config.text s.db.toDatabase m).1.heldBy tenantId ≠ s.db.heldBy tenantId :=
      fun hsame => hwritten (Prod.ext hsame rfl)
    refine ⟨?_, ?_⟩
    · by_contra hne
      exact hchanged (StoreCall.heldBy_perform (Ne.symm hne))
    · apply hallowed.resolve_right
      intro hreads
      apply hchanged
      rw [StoreCall.perform_reads hreads]
  | submit job queue =>
    obtain ⟨hwrites, htenant⟩ := hbound
    refine ⟨?_, hwrites⟩
    by_contra hne
    apply hwritten
    have hother : decide (job.key.tenantId = tenantId) = false := decide_eq_false fun hsame => hne (htenant.symm.trans hsame)
    have hmessages : ((s.published ++ if outside.published then [job.key] else []).filter fun key =>
        key.tenantId = tenantId) = s.published.filter fun key => key.tenantId = tenantId := by
      rw [List.filter_append]
      split
      · rw [List.filter_cons_of_neg (by simp [hother]), List.filter_nil, List.append_nil]
      · rw [List.filter_nil, List.append_nil]
    exact Prod.ext rfl hmessages
  | cancel | ping | ready | available => exact absurd rfl hwritten

/-- A step that writes for a tenant is a call of a worker for it, or of a request over a route that writes, handled
for a principal of it. -/
theorem step_writes {label : HttpLabel} (hconfined : ∀ call ∈ s.calls, call.pc.Confined ownJobs call.request.route)
    (hstep : s.step config label = some t) (hwritten : t.heldBy tenantId ≠ s.heldBy tenantId) :
    (∃ call m, label = .work call m ∧ call.tenantId = tenantId) ∨
      ∃ index m outside request pc principal, label = .proceed index m outside ∧ s.calls[index]? = some ⟨request, pc⟩ ∧
        pc.principal? = some principal ∧ principal.tenantId.text = tenantId ∧ request.route.writes = true := by
  cases label with
  | identity label =>
    obtain ⟨identity, hidentity, rfl⟩ := step_identity hstep
    obtain ⟨after', -, hbeside⟩ := Revocation.System.step_beside s.db.toDatabase hidentity
    exact (hwritten (Prod.ext (heldBy_of_sameStores hbeside.stores tenantId) rfl)).elim
  | request request =>
    obtain ⟨-, -, rfl⟩ := step_request hstep
    exact absurd rfl hwritten
  | enter index now fresh =>
    obtain ⟨request, -, rfl⟩ := step_enter hstep
    have hbeside := config.authenticated_beside s.db s.db.toDatabase now request.scope
    exact (hwritten (Prod.ext (heldBy_of_sameStores hbeside.stores tenantId) rfl)).elim
  | work call m =>
    cases hstep
    refine .inl ⟨call, m, rfl, ?_⟩
    by_contra hne
    exact hwritten (Prod.ext (StoreCall.heldBy_perform (Ne.symm hne)) rfl)
  | proceed index m outside =>
    obtain ⟨request, pc, store, pc', hcall, hadvance, rfl⟩ := step_proceed hstep
    obtain ⟨principal, hprincipal, -, ⟨rfl, -⟩ | ⟨c, hbound, rfl, -⟩⟩ :=
      advance_confined (hconfined _ (List.mem_of_getElem? hcall)) hadvance
    · exact absurd rfl hwritten
    · obtain ⟨htenant, hwrites⟩ := written_of_serve hbound hwritten
      exact .inr ⟨index, m, outside, request, pc, principal, rfl, hcall, hprincipal, htenant, hwrites⟩

/-- A request that is handled for a principal was served as it when it was admitted. -/
theorem admission_of_principal {db₀ : IdentityDatabase} {schedule : List HttpLabel} {index : ℕ} {request : HttpRequest}
    {pc : HttpPc} {principal : Principal} (hrun : runSteps (step config) (.initial db₀) schedule = some s)
    (hcall : s.calls[index]? = some ⟨request, pc⟩) (hpc : pc.principal? = some principal) :
    ∃ first now fresh rest before, schedule = first ++ .enter index now fresh :: rest ∧
      runSteps (step config) (.initial db₀) first = some before ∧ before.calls[index]? = some ⟨request, .arrived⟩ ∧
      Admitted (config.middleware before.db now) config.tables request.scope principal := by
  have hinitial : ¬ ∃ pc, (HttpGateway.initial db₀).calls[index]? = some ⟨request, pc⟩ ∧ pc.principal? = some principal := by
    rintro ⟨pc, hnone, -⟩
    cases hnone
  obtain ⟨first, label, rest, before, after, hschedule, hfirst, hstep, hnot, pc', hafter, hprincipal⟩ :=
    exists_step_of_not (P := fun s => ∃ pc, s.calls[index]? = some ⟨request, pc⟩ ∧ pc.principal? = some principal)
      hinitial ⟨pc, hcall, hpc⟩ hrun
  rcases step_served hstep hafter hprincipal with hbefore | ⟨now, fresh, requestId, rfl, harrived, hserved⟩
  · exact absurd hbefore hnot
  · exact ⟨first, now, fresh, rest, before, hschedule, hfirst, harrived, (TenantRBACMiddleware.call_served hserved).2⟩

end HttpGateway

/-- In every run, each step that changes what the stores or the broker hold of a tenant is a call of a worker for the
tenant, or of a request that was admitted as a principal of the tenant who was allowed to write then. -/
theorem http_writes_authorized (config : HttpConfig)
    (hupper : ∀ method ∈ [PyText.of "POST", .of "PATCH"], config.tables.upper method = method) (db₀ : IdentityDatabase)
    (schedule : List HttpLabel) (label : HttpLabel) (s t : HttpGateway)
    (hrun : runSteps (HttpGateway.step config) (.initial db₀) schedule = some s) (hstep : s.step config label = some t)
    (tenantId : String) (hwritten : t.heldBy tenantId ≠ s.heldBy tenantId) :
    (∃ call m, label = .work call m ∧ call.tenantId = tenantId) ∨
      ∃ index m outside request pc principal, label = .proceed index m outside ∧ s.calls[index]? = some ⟨request, pc⟩ ∧
        pc.principal? = some principal ∧ principal.tenantId.text = tenantId ∧ request.route.writes = true ∧
        ∃ first now fresh rest before, schedule = first ++ .enter index now fresh :: rest ∧
          runSteps (HttpGateway.step config) (.initial db₀) first = some before ∧
          before.calls[index]? = some ⟨request, .arrived⟩ ∧ MayWrite config before.db now request principal := by
  refine (HttpGateway.step_writes (HttpGateway.confined_run hrun) hstep hwritten).imp_right ?_
  rintro ⟨index, m, outside, request, pc, principal, rfl, hcall, hprincipal, htenant, hwrites⟩
  obtain ⟨first, now, fresh, rest, before, hschedule, hfirst, harrived, hadmitted⟩ :=
    HttpGateway.admission_of_principal hrun hcall hprincipal
  exact ⟨index, m, outside, request, pc, principal, rfl, hcall, hprincipal, htenant, hwrites, first, now, fresh, rest,
    before, hschedule, hfirst, harrived,
    mayWrite_of_admitted hupper hwrites (HttpGateway.servedAt_run hrun hcall) hadmitted⟩

/-- The theorem applies to the message that is sent for the second request, which an analyst may write. -/
theorem http_writes_authorized_submission :
    ∃ s before now request principal, runSteps (HttpGateway.step HttpGateway.twoTokens) (.initial HttpGateway.tenantRows)
        (HttpGateway.twoSubmissions.take 7) = some s ∧ principal.tenantId.text = "tenant-b" ∧
      MayWrite HttpGateway.twoTokens before now request principal := by
  have hupper : ∀ method ∈ [PyText.of "POST", .of "PATCH"], HttpGateway.twoTokens.tables.upper method = method := by
    decide +kernel
  have hreach : ∃ s ∈ runSteps (HttpGateway.step HttpGateway.twoTokens) (.initial HttpGateway.tenantRows)
      (HttpGateway.twoSubmissions.take 7), ∃ t ∈ s.step HttpGateway.twoTokens (.proceed 1 ⟨4, "4"⟩ HttpGateway.working),
        (t.heldBy "tenant-b").2.length ≠ (s.heldBy "tenant-b").2.length := by decide +kernel
  obtain ⟨s, hrun, t, hstep, hlength⟩ := hreach
  have hwritten : t.heldBy "tenant-b" ≠ s.heldBy "tenant-b" := fun hsame => hlength (by rw [hsame])
  rcases http_writes_authorized HttpGateway.twoTokens hupper HttpGateway.tenantRows (HttpGateway.twoSubmissions.take 7)
    _ s t hrun hstep "tenant-b" hwritten with ⟨call, m, hwork, -⟩ |
    ⟨index, m, outside, request, pc, principal, -, -, -, htenant, -, first, now, fresh, rest, before, -, -, -, hmay⟩
  · cases hwork
  · exact ⟨s, before.db, now, request, principal, hrun, htenant, hmay⟩

end SharedIntegration

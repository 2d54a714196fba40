import SharedIntegration.HttpGateway
import SharedIntegration.IdentityStores
import SharedIntegration.ShownRows

/-!
# Steps of the gateway over HTTP

What each step of the gateway does to the database, to the requests and to the published messages. A
request is admitted once, as one principal, and from then on each of its steps is one call that is
bound to the tenant of this principal.
-/

namespace SharedIntegration

open Transition Identity

/-- What a request may still call and show, and what it has shown. -/
def HttpPc.Confined (v : String → Visible) (route : ApiRoute) : HttpPc → Prop
  | .arrived => True
  | .handling principal handler => handler.Confined (v principal.tenantId.text) principal.tenantId.text route.writes
  | .streaming principal stream => stream.key.tenantId = principal.tenantId.text ∧
      ∀ event ∈ stream.sent, (v principal.tenantId.text).event event
  | .answered (some principal) response => response.Shows (v principal.tenantId.text) principal.tenantId.text
  | .answered none response => ∃ answer, response = .document answer

section Requests

variable {v : String → Visible} {route : ApiRoute} {principal : Principal} {handler : Handler}

/-- Behind a call the request is handled for the same principal. -/
@[simp] theorem HttpPc.behind_principal? : (HttpPc.behind principal handler).principal? = some principal := by
  unfold HttpPc.behind
  split <;> rfl

/-- A request behind a call of its handler. -/
theorem HttpPc.behind_confined
    (h : handler.Confined (v principal.tenantId.text) principal.tenantId.text route.writes) :
    (HttpPc.behind principal handler).Confined v route := by
  unfold HttpPc.behind
  split
  · exact h
  · exact h
  · exact h

variable {config : HttpConfig} {db : IdentityDatabase} {now : Instant} {fresh : PyText} {request : HttpRequest}

/-- An admitted request is handled for a principal that the middleware serves. -/
theorem HttpConfig.enter_served (h : (config.enter db now fresh request).principal? = some principal) :
    ∃ requestId, (config.middleware db now).call config.tables request.scope fresh = .served principal requestId := by
  unfold HttpConfig.enter at h
  split at h
  · next served requestId hcall =>
    rw [HttpPc.behind_principal?] at h
    cases h
    exact ⟨requestId, hcall⟩
  · cases h
  · cases h
  · cases h

/-- An admitted request is confined to its tenant. -/
theorem HttpConfig.enter_confined : (config.enter db now fresh request).Confined v request.route := by
  unfold HttpConfig.enter
  split
  · exact HttpPc.behind_confined (ApiRoute.handler_confined _ _ _ _ _ _)
  · exact ⟨_, rfl⟩
  · exact ⟨_, rfl⟩
  · exact ⟨_, rfl⟩

/-- Authentication beside other stores. -/
theorem HttpConfig.authenticated_beside (config : HttpConfig) (db : IdentityDatabase) (stores : Database) (now : Instant)
    (scope : AsgiScope) :
    Beside db (db.graft stores) (config.authenticated db now scope) (config.authenticated (db.graft stores) now scope) := by
  unfold HttpConfig.authenticated databaseAuthenticator
  split
  · next token htoken =>
    split
    · obtain ⟨-, hbeside⟩ := authenticateUserSession_alike config.secrets db stores now token.text
      exact hbeside
    · exact Beside.refl db stores
  · exact Beside.refl db stores

/-- The answer of the identity repository does not depend on the stores. -/
theorem databaseAuthenticator_graft (secrets : SecretLibrary) (db : IdentityDatabase) (stores : Database)
    (now : Instant) (token : PyText) :
    (databaseAuthenticator secrets (db.graft stores) now token).2 = (databaseAuthenticator secrets db now token).2 := by
  unfold databaseAuthenticator
  split
  · exact congrArg (Option.map _) (authenticateUserSession_alike secrets db stores now token.text).1
  · rfl

/-- Admission does not depend on the stores. -/
theorem HttpConfig.enter_graft (config : HttpConfig) (db : IdentityDatabase) (stores : Database) (now : Instant)
    (fresh : PyText) (request : HttpRequest) :
    config.enter (db.graft stores) now fresh request = config.enter db now fresh request := by
  have hsame : config.middleware (db.graft stores) now = config.middleware db now := by
    unfold HttpConfig.middleware
    simp only [databaseAuthenticator_graft]
  rw [HttpConfig.enter, hsame]
  rfl

end Requests

namespace HttpGateway

variable {config : HttpConfig} {s t : HttpGateway} {v : String → Visible} {route : ApiRoute} {index : ℕ} {m : Moment}
  {outside : Outside}

/-! ### Moves of a request -/

/-- A step of a stream reads at most once and goes on. -/
theorem advance_streaming {principal : Principal} {stream : EventStream} {store : ApiStore} {pc' : HttpPc}
    (h : s.advance config m outside (.streaming principal stream) = some (store, pc')) :
    ∃ stream', pc' = .streaming principal stream' ∧ ((stream.next = .done stream' ∧ store = s.store) ∨
      ∃ c next, stream.next = .call c next ∧ store = (s.store.serve config m outside c).1 ∧
        next (s.store.serve config m outside c).2 = .done stream') := by
  unfold advance at h
  cases hnext : stream.next with
  | done closed =>
    simp only [hnext] at h
    cases h
    exact ⟨closed, rfl, .inl ⟨rfl, rfl⟩⟩
  | call c next =>
    simp only [hnext] at h
    split at h
    · next stream' hdone =>
      cases h
      exact ⟨stream', rfl, .inr ⟨c, next, rfl, rfl, hdone⟩⟩
    · cases h

/-- A step of a request is at most one call, for its principal; its position is confined if the call is answered
as promised. -/
theorem advance_confined {pc pc' : HttpPc} {store : ApiStore} (hconfined : pc.Confined v route)
    (h : s.advance config m outside pc = some (store, pc')) :
    ∃ principal, pc.principal? = some principal ∧ pc'.principal? = some principal ∧
      ((store = s.store ∧ pc'.Confined v route) ∨
        ∃ c, ApiCall.Bound (v principal.tenantId.text) principal.tenantId.text route.writes c ∧
          store = (s.store.serve config m outside c).1 ∧
          (ApiCall.Promises (v principal.tenantId.text) c (s.store.serve config m outside c).2 → pc'.Confined v route)) := by
  cases pc with
  | arrived => cases h
  | answered => cases h
  | handling principal handler =>
    obtain ⟨⟨store', rest⟩, hstep, heq⟩ := Option.map_eq_some_iff.mp h
    cases heq
    obtain ⟨c, hbound, hstore, hrest⟩ := Program.Uses.step hconfined hstep
    exact ⟨principal, rfl, HttpPc.behind_principal?, .inr ⟨c, hbound, hstore, fun hpromise =>
      HttpPc.behind_confined (hrest hpromise)⟩⟩
  | streaming principal stream =>
    have huses := EventStream.next_confined hconfined.1 hconfined.2
    obtain ⟨stream', rfl, ⟨hnext, rfl⟩ | ⟨c, next, hnext, rfl, hdone⟩⟩ := advance_streaming h
    · rw [hnext] at huses
      exact ⟨principal, rfl, rfl, .inl ⟨rfl, huses⟩⟩
    · rw [hnext] at huses
      refine ⟨principal, rfl, rfl, .inr ⟨c, huses.1.mono, rfl, fun hpromise => ?_⟩⟩
      have hrest := huses.2 _ hpromise
      rw [hdone] at hrest
      exact hrest

/-! ### Steps -/

/-- A step of an exchange, a revocation or an administrative operation. -/
theorem step_identity {label : Revocation.Label} (h : s.step config (.identity label) = some t) :
    ∃ identity, s.identity.step config.secrets config.identity label = some identity ∧ t = { s with identity } := by
  obtain ⟨identity, hidentity, heq⟩ := Option.bind_eq_some_iff.mp h
  cases heq
  exact ⟨identity, hidentity, rfl⟩

/-- A request arrives. -/
theorem step_request {request : HttpRequest} (h : s.step config (.request request) = some t) :
    request.scope.type = .of "http" ∧ request.route.servedAt request.scope = true ∧
      t = { s with calls := s.calls ++ [⟨request, .arrived⟩] } := by
  simp only [step] at h
  split at h
  · next hserved =>
    cases h
    simp only [Bool.and_eq_true, decide_eq_true_eq] at hserved
    exact ⟨hserved.1, hserved.2, rfl⟩
  · cases h

/-- A request that has arrived is admitted or refused. -/
theorem step_enter {now : Instant} {fresh : PyText} (h : s.step config (.enter index now fresh) = some t) :
    ∃ request, s.calls[index]? = some ⟨request, .arrived⟩ ∧
      t = (s.withDb (config.authenticated s.db now request.scope)).goto index (config.enter s.db now fresh request) := by
  obtain ⟨⟨request, pc⟩, hcall, h⟩ := Option.bind_eq_some_iff.mp h
  cases pc with
  | arrived =>
    cases h
    exact ⟨request, hcall, rfl⟩
  | handling | streaming | answered => cases h

/-- A request goes on. -/
theorem step_proceed (h : s.step config (.proceed index m outside) = some t) :
    ∃ request pc store pc', s.calls[index]? = some ⟨request, pc⟩ ∧ s.advance config m outside pc = some (store, pc') ∧
      t = (s.withStore store).goto index pc' := by
  obtain ⟨⟨request, pc⟩, hcall, h⟩ := Option.bind_eq_some_iff.mp h
  obtain ⟨⟨store, pc'⟩, hadvance, h⟩ := Option.bind_eq_some_iff.mp h
  cases h
  exact ⟨request, pc, store, pc', hcall, hadvance, rfl⟩

/-- The requests behind a step of one of them. -/
theorem goto_calls (s : HttpGateway) (index : ℕ) (pc : HttpPc) (i : ℕ) :
    (s.goto index pc).calls[i]? = if index = i then s.calls[i]?.map fun call => { call with pc } else s.calls[i]? := by
  simp only [goto, List.getElem?_modify]
  split
  · rfl
  · simp

/-- Another database changes no request. -/
@[simp] theorem withStore_calls (s : HttpGateway) (store : ApiStore) : (s.withStore store).calls = s.calls := rfl

/-- Another database changes no request. -/
@[simp] theorem withDb_calls (s : HttpGateway) (db : IdentityDatabase) : (s.withDb db).calls = s.calls := rfl

/-- The database behind a step of a request. -/
@[simp] theorem goto_db (s : HttpGateway) (index : ℕ) (pc : HttpPc) : (s.goto index pc).db = s.db := rfl

/-- The messages behind a step of a request. -/
@[simp] theorem goto_published (s : HttpGateway) (index : ℕ) (pc : HttpPc) :
    (s.goto index pc).published = s.published := rfl

/-- The other requests stay as they are. -/
theorem goto_other {pc : HttpPc} {i : ℕ} (hne : index ≠ i) : (s.goto index pc).calls[i]? = s.calls[i]? := by
  rw [goto_calls, if_neg hne]

/-- The request itself is at its new position. -/
theorem goto_self {pc : HttpPc} {call : HttpCall} (hcall : s.calls[index]? = some call) :
    (s.goto index pc).calls[index]? = some { call with pc } := by
  rw [goto_calls, if_pos rfl, hcall]
  rfl

/-- A request keeps its principal. -/
theorem advance_principal? {pc pc' : HttpPc} {store : ApiStore} (h : s.advance config m outside pc = some (store, pc')) :
    pc'.principal? = pc.principal? := by
  cases pc with
  | arrived => cases h
  | answered => cases h
  | handling principal handler =>
    obtain ⟨⟨store', rest⟩, -, heq⟩ := Option.map_eq_some_iff.mp h
    cases heq
    exact HttpPc.behind_principal?
  | streaming principal stream =>
    obtain ⟨stream', rfl, -⟩ := advance_streaming h
    rfl

/-- Where a request stands behind a step: as before, or it has just arrived, was admitted, or went on. -/
theorem step_calls {label : HttpLabel} {i : ℕ} {request : HttpRequest} {pc : HttpPc}
    (h : s.step config label = some t) (hcall : t.calls[i]? = some ⟨request, pc⟩) :
    s.calls[i]? = some ⟨request, pc⟩ ∨
      (label = .request request ∧ request.route.servedAt request.scope = true ∧ pc = .arrived) ∨
      (∃ now fresh, label = .enter i now fresh ∧ s.calls[i]? = some ⟨request, .arrived⟩ ∧
        pc = config.enter s.db now fresh request) ∨
      ∃ m outside before store, label = .proceed i m outside ∧ s.calls[i]? = some ⟨request, before⟩ ∧
        s.advance config m outside before = some (store, pc) ∧ t.db.toDatabase = store.db := by
  cases label with
  | identity label =>
    obtain ⟨identity, -, rfl⟩ := step_identity h
    exact .inl hcall
  | work call m =>
    cases h
    exact .inl hcall
  | request arrived =>
    obtain ⟨-, hserved, rfl⟩ := step_request h
    rw [List.getElem?_append] at hcall
    split at hcall
    · exact .inl hcall
    · rw [List.getElem?_singleton] at hcall
      split at hcall <;> cases hcall
      exact .inr (.inl ⟨rfl, hserved, rfl⟩)
  | enter index now fresh =>
    obtain ⟨arrived, harrived, rfl⟩ := step_enter h
    by_cases hi : index = i
    · rw [goto_calls, if_pos hi, withDb_calls, ← hi, harrived] at hcall
      cases hcall
      exact .inr (.inr (.inl ⟨now, fresh, by rw [hi], by rw [← hi]; exact harrived, rfl⟩))
    · rw [goto_other hi] at hcall
      exact .inl hcall
  | proceed index m outside =>
    obtain ⟨handled, before, store, after, hbefore, hadvance, rfl⟩ := step_proceed h
    by_cases hi : index = i
    · rw [goto_calls, if_pos hi, withStore_calls, ← hi, hbefore] at hcall
      cases hcall
      exact .inr (.inr (.inr ⟨m, outside, before, store, by rw [hi], by rw [← hi]; exact hbefore, hadvance, rfl⟩))
    · rw [goto_other hi] at hcall
      exact .inl hcall

/-- A request that is handled for a principal was admitted for it. -/
theorem step_served {label : HttpLabel} {i : ℕ} {request : HttpRequest} {pc : HttpPc} {principal : Principal}
    (h : s.step config label = some t) (hcall : t.calls[i]? = some ⟨request, pc⟩) (hpc : pc.principal? = some principal) :
    (∃ before, s.calls[i]? = some ⟨request, before⟩ ∧ before.principal? = some principal) ∨
      ∃ now fresh requestId, label = .enter i now fresh ∧ s.calls[i]? = some ⟨request, .arrived⟩ ∧
        (config.middleware s.db now).call config.tables request.scope fresh = .served principal requestId := by
  rcases step_calls h hcall with hold | ⟨-, -, rfl⟩ | ⟨now, fresh, hlabel, harrived, rfl⟩ |
    ⟨m, outside, before, store, -, hbefore, hadvance, -⟩
  · exact .inl ⟨pc, hold, hpc⟩
  · cases hpc
  · obtain ⟨requestId, hserved⟩ := HttpConfig.enter_served hpc
    exact .inr ⟨now, fresh, requestId, hlabel, harrived, hserved⟩
  · exact .inl ⟨before, hbefore, (advance_principal? hadvance).symm.trans hpc⟩

/-- A request in progress came over the path of its route. -/
theorem servedAt_run {db₀ : IdentityDatabase} {schedule : List HttpLabel} {i : ℕ} {request : HttpRequest} {pc : HttpPc}
    (hrun : runSteps (step config) (.initial db₀) schedule = some s) (hcall : s.calls[i]? = some ⟨request, pc⟩) :
    request.route.servedAt request.scope = true := by
  have hserved : ∀ request pc, s.calls[i]? = some ⟨request, pc⟩ → request.route.servedAt request.scope = true := by
    apply runSteps_invariant (fun s => ∀ request pc, s.calls[i]? = some ⟨request, pc⟩ →
      request.route.servedAt request.scope = true) _ _ hrun
    · intro s label t hs hstep request pc hcall
      rcases step_calls hstep hcall with hold | ⟨-, hserved, -⟩ | ⟨now, fresh, -, harrived, -⟩ |
        ⟨m, outside, before, store, -, hbefore, -⟩
      · exact hs request pc hold
      · exact hserved
      · exact hs request _ harrived
      · exact hs request _ hbefore
    · intro request pc hcall
      cases hcall
  exact hserved request pc hcall

end HttpGateway

end SharedIntegration

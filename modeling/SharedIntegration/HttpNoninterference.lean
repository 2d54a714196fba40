import SharedIntegration.HttpAuthorization
import SharedIntegration.SilencedTenant
import SharedIntegration.TenantRows
import SharedIntegration.Library.HiddenSteps
import SharedIntegration.Noninterference

/-!
# Requests of one tenant and what the others see

A tenant sends requests to a gateway that others use as well. Leaving out everything that the handlers of
its requests do changes no answer, no event stream and no position of a request of anyone else, and no
exchange, revocation or message about a job of anyone else, whatever workers do for any tenant meanwhile.
-/

namespace SharedIntegration

open Transition Identity Isolation FindingLifecycle

/-- The request is handled for a principal of the tenant. -/
def HttpCall.isOf (tenantId : String) (call : HttpCall) : Bool :=
  call.pc.principal?.any fun principal => principal.tenantId.text = tenantId

/-- What others see of a request: that it was made, and unless it is one of the tenant, where it stands. -/
def HttpCall.seenBut (tenantId : String) (call : HttpCall) : HttpRequest × Option HttpPc :=
  (call.request, if call.isOf tenantId then none else some call.pc)

/-- The uuid that a step draws. -/
def HttpLabel.uuid? : HttpLabel → Option String
  | .proceed _ m _ | .work _ m => some m.uuid
  | _ => none

/-- What anyone but a tenant sees of the gateway. -/
structure Observed where
  exchanges : List Exchange.Call
  revocations : List Revocation.Call
  requests : List (HttpRequest × Option HttpPc)
  published : List JobKey

/-- The same stores beside the same identities. -/
theorem SameUnlessAsked.beside {removed : String} {db db' after after' : IdentityDatabase}
    (h : SameUnlessAsked removed db.toDatabase db'.toDatabase) (hbeside : Beside db db' after after') :
    SameUnlessAsked removed after.toDatabase after'.toDatabase where
  tenants := hbeside.identity.tenants
  jobs := by
    rw [hbeside.stores.jobTables, hbeside.stores'.jobTables]
    exact h.jobs
  findings := by
    rw [hbeside.stores.findings, hbeside.stores'.findings]
    exact h.findings
  sequence := by rw [hbeside.stores.findingSequence, hbeside.stores'.findingSequence, h.sequence]
  correlations := by rw [hbeside.stores.correlations, hbeside.stores'.correlations, h.correlations]
  links := by rw [hbeside.stores.correlationFindings, hbeside.stores'.correlationFindings, h.links]

namespace HttpGateway

variable (config : HttpConfig) (removed : String)

/-- What anyone but the tenant sees. -/
def observedBut (s : HttpGateway) : Observed where
  exchanges := s.identity.calls
  revocations := s.identity.revocations
  requests := s.calls.map (HttpCall.seenBut removed)
  published := s.published.filter fun key => key.tenantId ≠ removed

/-- The step is one of a handler for the tenant. -/
def silenced (s : HttpGateway) : HttpLabel → Bool
  | .proceed index _ _ => s.calls[index]?.any (HttpCall.isOf removed)
  | _ => false

/-- The schedule without the steps of the tenant's handlers. -/
def without : HttpGateway → List HttpLabel → List HttpLabel :=
  withoutHidden (step config) (silenced removed)

/-- Two gateways of which anyone but the tenant sees the same. -/
structure Alike (s s' : HttpGateway) : Prop where
  identity : SameIdentity s.db s'.db
  stores : SameUnlessAsked removed s.db.toDatabase s'.db.toDatabase
  exchanges : s'.identity.calls = s.identity.calls
  drawn : s'.identity.drawn = s.identity.drawn
  revocations : s'.identity.revocations = s.identity.revocations
  requests : s'.calls.map (HttpCall.seenBut removed) = s.calls.map (HttpCall.seenBut removed)
  published : (s'.published.filter fun key => key.tenantId ≠ removed) =
    s.published.filter fun key => key.tenantId ≠ removed

variable {config removed} {s s' t : HttpGateway} {index : ℕ} {m : Moment} {outside : Outside}

/-- Alike gateways look the same. -/
theorem Alike.observedBut_eq (h : Alike removed s s') : s'.observedBut removed = s.observedBut removed := by
  unfold observedBut
  rw [h.exchanges, h.revocations, h.requests, h.published]

/-- A request of anyone else stands where it stands. -/
theorem Alike.call_eq (h : Alike removed s s') {call : HttpCall} (hcall : s.calls[index]? = some call)
    (hother : call.isOf removed = false) : s'.calls[index]? = some call := by
  have hseen := congrArg (fun seen : List (HttpRequest × Option HttpPc) => seen[index]?) h.requests
  simp only [List.getElem?_map] at hseen
  rw [hcall, Option.map_some, Option.map_eq_some_iff] at hseen
  obtain ⟨call', hcall', hsame⟩ := hseen
  rw [hcall']
  unfold HttpCall.seenBut at hsame
  rw [hother, Prod.mk.injEq] at hsame
  obtain ⟨hrequest, hpc⟩ := hsame
  split at hpc
  · cases hpc
  · cases call
    cases call'
    cases hrequest
    cases hpc
    rfl

/-! ### Moves -/

/-- A step of a request that gets the same answers ends at the same position. -/
theorem advance_alike {v : String → Visible} {route : ApiRoute} {pc pc' : HttpPc} {store : ApiStore} {principal : Principal}
    (hconfined : pc.Confined v route) (hprincipal : pc.principal? = some principal)
    (hsame : ∀ c, ApiCall.Bound (v principal.tenantId.text) principal.tenantId.text route.writes c →
      (s.store.serve config m outside c).2 = (s'.store.serve config m outside c).2)
    (h : s.advance config m outside pc = some (store, pc')) :
    ∃ store', s'.advance config m outside pc = some (store', pc') ∧
      ((store = s.store ∧ store' = s'.store) ∨
        ∃ c, ApiCall.Bound (v principal.tenantId.text) principal.tenantId.text route.writes c ∧
          store = (s.store.serve config m outside c).1 ∧ store' = (s'.store.serve config m outside c).1) := by
  cases pc with
  | arrived => cases h
  | answered => cases h
  | handling served handler =>
    cases hprincipal
    obtain ⟨⟨after, rest⟩, hstep, heq⟩ := Option.map_eq_some_iff.mp h
    cases heq
    obtain ⟨c, hbound, rfl, hstep'⟩ := Program.Uses.step_alike hconfined hsame hstep
    refine ⟨_, ?_, .inr ⟨c, hbound, rfl, rfl⟩⟩
    simp [advance, hstep']
  | streaming served stream =>
    cases hprincipal
    have huses := EventStream.next_confined hconfined.1 hconfined.2
    obtain ⟨stream', rfl, ⟨hnext, rfl⟩ | ⟨c, next, hnext, rfl, hdone⟩⟩ := advance_streaming h
    · refine ⟨_, ?_, .inl ⟨rfl, rfl⟩⟩
      simp [advance, hnext]
    · rw [hnext] at huses
      have hbound : ApiCall.Bound (v principal.tenantId.text) principal.tenantId.text route.writes c := huses.1.mono
      refine ⟨_, ?_, .inr ⟨c, hbound, rfl, rfl⟩⟩
      rw [hsame c hbound] at hdone
      simp [advance, hnext, hdone]

/-- The uuid of a moment names no job yet. -/
def UnusedBy (uuid : String) (s : HttpGateway) : Prop := ∀ row ∈ s.db.jobTables.jobs.rows, row.id ≠ "job_" ++ uuid

/-- A handler for anyone else gets the same answers, and writes the same. -/
theorem Alike.serve (h : Alike removed s s') (hstored : Stored s.db.toDatabase removed) (hunused : UnusedBy m.uuid s)
    (hunused' : UnusedBy m.uuid s') {c : ApiCall} {tenantId : String} {writes : Bool}
    (hbound : c.Bound (ownJobs tenantId) tenantId writes) (htenant : tenantId ≠ removed) :
    (s.store.serve config m outside c).2 = (s'.store.serve config m outside c).2 ∧
      SameUnlessAsked removed (s.store.serve config m outside c).1.db (s'.store.serve config m outside c).1.db ∧
      ((s'.store.serve config m outside c).1.published.filter fun key => key.tenantId ≠ removed) =
        (s.store.serve config m outside c).1.published.filter fun key => key.tenantId ≠ removed := by
  cases c with
  | store call =>
    obtain ⟨rfl, -, -⟩ := hbound
    obtain ⟨hresult, hafter⟩ := @SameUnlessAsked.perform removed config.core config.text s.db.toDatabase s'.db.toDatabase m
      h.stores hstored call hunused hunused'
    exact ⟨hresult htenant, hafter, h.published⟩
  | submit job queue =>
    refine ⟨rfl, h.stores, ?_⟩
    change ((s'.published ++ _).filter _) = (s.published ++ _).filter _
    rw [List.filter_append, List.filter_append, h.published]
  | cancel | ping | ready | available => exact ⟨rfl, h.stores, h.published⟩

/-- What a handler for the tenant writes is seen by no one else. -/
theorem Alike.serve_outside (h : Alike removed s s') (hstored : Stored s.db.toDatabase removed) {c : ApiCall}
    {writes : Bool} (hbound : c.Bound (ownJobs removed) removed writes) :
    SameUnlessAsked removed (s.store.serve config m outside c).1.db s'.db.toDatabase ∧
      (s'.published.filter fun key => key.tenantId ≠ removed) =
        (s.store.serve config m outside c).1.published.filter fun key => key.tenantId ≠ removed := by
  cases c with
  | store call => exact ⟨h.stores.perform_outside hstored hbound.1 hbound.2.1, h.published⟩
  | submit job queue =>
    refine ⟨h.stores, ?_⟩
    have hown : decide (job.key.tenantId ≠ removed) = false := decide_eq_false (not_not_intro hbound.2)
    change _ = (s.published ++ _).filter _
    rw [List.filter_append, h.published]
    split
    · rw [List.filter_cons_of_neg (by rw [hown]; exact Bool.false_ne_true), List.filter_nil, List.append_nil]
    · rw [List.filter_nil, List.append_nil]
  | cancel | ping | ready | available => exact ⟨h.stores, h.published⟩

/-- A request at another position that is seen alike. -/
theorem goto_seen (pc : HttpPc) (h : s'.calls.map (HttpCall.seenBut removed) = s.calls.map (HttpCall.seenBut removed)) :
    (s'.goto index pc).calls.map (HttpCall.seenBut removed) = (s.goto index pc).calls.map (HttpCall.seenBut removed) := by
  apply List.ext_getElem?
  intro i
  have hsame := congrArg (fun seen : List (HttpRequest × Option HttpPc) => seen[i]?) h
  simp only [List.getElem?_map] at hsame ⊢
  rw [goto_calls, goto_calls]
  split
  · cases hcall : s.calls[i]? with
    | none =>
      rw [hcall, Option.map_none, Option.map_eq_none_iff] at hsame
      rw [hsame]
    | some call =>
      rw [hcall, Option.map_some, Option.map_eq_some_iff] at hsame
      obtain ⟨call', hcall', hseen⟩ := hsame
      have hrequest : call'.request = call.request := congrArg Prod.fst hseen
      rw [hcall']
      change some (HttpCall.seenBut removed ⟨call'.request, pc⟩) = _
      rw [hrequest]
      rfl
  · exact hsame

/-- A request of the tenant moves unseen. -/
theorem goto_hidden {pc : HttpPc} {call : HttpCall} (hcall : s.calls[index]? = some call)
    (hprincipal : pc.principal? = call.pc.principal?) (hown : call.isOf removed = true) :
    (s.goto index pc).calls.map (HttpCall.seenBut removed) = s.calls.map (HttpCall.seenBut removed) := by
  apply List.ext_getElem?
  intro i
  rw [List.getElem?_map, List.getElem?_map, goto_calls]
  split
  · next hi =>
    rw [← hi, hcall]
    unfold HttpCall.isOf at hown
    simp [HttpCall.seenBut, HttpCall.isOf, hprincipal, hown]
  · rfl

/-! ### What a step adds -/

/-- A call of a store keeps the tenants, and adds at most one job under the id that it draws. -/
theorem perform_adds {core : CoreLibrary} {text : TextLibrary} {db : Database} (call : StoreCall) :
    TenantsKept db.tenants (call.perform core text db m).1.tenants ∧
      ∀ row ∈ (call.perform core text db m).1.jobTables.jobs.rows,
        (∃ old ∈ db.jobTables.jobs.rows, old.id = row.id) ∨ row.id = "job_" ++ m.uuid := by
  constructor
  · rcases @StoreCall.perform_tenants core text db m call with hsame | ⟨tenantId, -, hensure⟩
    · rw [hsame]
      exact fun row hrow => ⟨row, hrow, rfl⟩
    · rcases SqlJobs.ensureTenant_cases hensure with ⟨-, hsame⟩ | ⟨-, hinsert⟩
      · rw [hsame]
        exact fun row hrow => ⟨row, hrow, rfl⟩
      · intro row hrow
        refine ⟨row, ?_, rfl⟩
        rw [(Relational.Table.insert_eq_some hinsert).1]
        exact List.mem_append_left _ hrow
  · cases call with
    | jobs call =>
      obtain ⟨tenants, -, hwrite, -⟩ := @perform_ensures core db m call
      exact hwrite.ids
    | findings tenantId call =>
      have hsame : (call.perform core text db m tenantId).1.jobTables = db.jobTables := by
        cases call with
        | addForJob finding jobId =>
          unfold RegistryCall.perform addForJob
          dsimp only
          split
          · next after hstore => exact (FindingLifecycle.storeFinding_same core text hstore).1
          · rfl
        | addCorrelation correlation =>
          unfold RegistryCall.perform addCorrelation
          dsimp only
          split
          · next after hinsert => exact (FindingLifecycle.insertCorrelation_same hinsert).1
          · rfl
        | updateLifecycle findingId status assignedTo actor =>
          unfold RegistryCall.perform updateLifecycle
          dsimp only
          split <;> rfl
        | findings | correlations | query | listPage => rfl
      intro row hrow
      exact .inl ⟨row, hsame ▸ hrow, rfl⟩

/-- A step of a request leaves the stores alone or makes one call. -/
theorem advance_serve {pc pc' : HttpPc} {store : ApiStore} (h : s.advance config m outside pc = some (store, pc')) :
    store = s.store ∨ ∃ c, store = (s.store.serve config m outside c).1 := by
  cases pc with
  | arrived => cases h
  | answered => cases h
  | handling principal handler =>
    obtain ⟨⟨after, rest⟩, hstep, heq⟩ := Option.map_eq_some_iff.mp h
    cases heq
    cases handler with
    | done => cases hstep
    | call c next =>
      cases hstep
      exact .inr ⟨c, rfl⟩
  | streaming principal stream =>
    obtain ⟨stream', -, ⟨-, rfl⟩ | ⟨c, next, -, rfl, -⟩⟩ := advance_streaming h
    · exact .inl rfl
    · exact .inr ⟨c, rfl⟩

/-- A step keeps the tenants, and adds at most one job under the id that it draws. -/
theorem step_adds {label : HttpLabel} (h : s.step config label = some t) :
    TenantsKept s.db.tenants t.db.tenants ∧ ∀ row ∈ t.db.jobTables.jobs.rows,
      (∃ old ∈ s.db.jobTables.jobs.rows, old.id = row.id) ∨ ∃ uuid ∈ label.uuid?, row.id = "job_" ++ uuid := by
  have hrefl : TenantsKept s.db.tenants s.db.tenants := fun row hrow => ⟨row, hrow, rfl⟩
  cases label with
  | identity label =>
    obtain ⟨identity, hidentity, rfl⟩ := step_identity h
    obtain ⟨after', -, hbeside⟩ := Revocation.System.step_beside s.db.toDatabase hidentity
    refine ⟨hbeside.kept, fun row hrow => .inl ⟨row, ?_, rfl⟩⟩
    exact hbeside.stores.jobTables ▸ hrow
  | request request =>
    obtain ⟨-, -, rfl⟩ := step_request h
    exact ⟨hrefl, fun row hrow => .inl ⟨row, hrow, rfl⟩⟩
  | enter index now fresh =>
    obtain ⟨request, -, rfl⟩ := step_enter h
    have hbeside := config.authenticated_beside s.db s.db.toDatabase now request.scope
    refine ⟨hbeside.kept, fun row hrow => .inl ⟨row, ?_, rfl⟩⟩
    exact hbeside.stores.jobTables ▸ hrow
  | work call m =>
    cases h
    obtain ⟨hkept, hids⟩ := @perform_adds m config.core config.text s.db.toDatabase call
    exact ⟨hkept, fun row hrow => (hids row hrow).imp_right fun hid => ⟨m.uuid, rfl, hid⟩⟩
  | proceed index m outside =>
    obtain ⟨request, pc, store, pc', -, hadvance, rfl⟩ := step_proceed h
    rcases advance_serve hadvance with rfl | ⟨c, rfl⟩
    · exact ⟨hrefl, fun row hrow => .inl ⟨row, hrow, rfl⟩⟩
    · cases c with
      | store call =>
        obtain ⟨hkept, hids⟩ := @perform_adds m config.core config.text s.db.toDatabase call
        exact ⟨hkept, fun row hrow => (hids row hrow).imp_right fun hid => ⟨m.uuid, rfl, hid⟩⟩
      | submit | cancel | ping | ready | available =>
        exact ⟨hrefl, fun row hrow => .inl ⟨row, hrow, rfl⟩⟩

/-- The tenant has a row, and the uuids that the rest of a schedule draws are distinct and name no job. -/
structure Ready (removed : String) (labels : List HttpLabel) (s : HttpGateway) : Prop where
  stored : Stored s.db.toDatabase removed
  distinct : (labels.filterMap HttpLabel.uuid?).Nodup
  unused : ∀ uuid ∈ labels.filterMap HttpLabel.uuid?, UnusedBy uuid s

/-- Nothing is needed for a step that is left out. -/
theorem Ready.skip {label : HttpLabel} {rest : List HttpLabel} (h : Ready removed (label :: rest) s) :
    Ready removed rest s := by
  have hrest : (label :: rest).filterMap HttpLabel.uuid? = label.uuid?.toList ++ rest.filterMap HttpLabel.uuid? := by
    rw [List.filterMap_cons]
    cases label.uuid? <;> rfl
  have hdistinct := h.distinct
  rw [hrest, List.nodup_append] at hdistinct
  refine ⟨h.stored, hdistinct.2.1, fun uuid huuid => h.unused uuid ?_⟩
  rw [hrest]
  exact List.mem_append_right _ huuid

/-- What a step draws names no job. -/
theorem Ready.unused_here {label : HttpLabel} {rest : List HttpLabel} (h : Ready removed (label :: rest) s) :
    ∀ uuid ∈ label.uuid?, UnusedBy uuid s := by
  intro uuid huuid
  apply h.unused
  rw [List.filterMap_cons, huuid]
  exact List.mem_cons_self

/-- A step leaves the rest ready. -/
theorem Ready.step {label : HttpLabel} {rest : List HttpLabel} (h : Ready removed (label :: rest) s)
    (hstep : s.step config label = some t) : Ready removed rest t := by
  obtain ⟨hkept, hids⟩ := step_adds hstep
  refine ⟨?_, h.skip.distinct, fun uuid huuid row hrow hid => ?_⟩
  · obtain ⟨row, hrow, hid⟩ := h.stored
    obtain ⟨row', hrow', hid'⟩ := hkept row hrow
    exact ⟨row', hrow', hid'.trans hid⟩
  · rcases hids row hrow with ⟨old, hold, hsame⟩ | ⟨drawn, hdrawn, hnew⟩
    · exact h.skip.unused uuid huuid old hold (hsame.trans hid)
    · have hdistinct := h.distinct
      rw [List.filterMap_cons, hdrawn, List.nodup_cons] at hdistinct
      have hne : drawn ≠ uuid := fun heq => hdistinct.1 (heq ▸ huuid)
      exact append_ne "job_" hne (hnew.symm.trans hid)

/-! ### Steps and runs -/

/-- The step of a handler for the tenant is seen by no one else. -/
theorem Alike.hidden_step {label : HttpLabel} (h : Alike removed s s') (hstored : Stored s.db.toDatabase removed)
    (hconfined : ∀ call ∈ s.calls, call.pc.Confined ownJobs call.request.route) (hstep : s.step config label = some t)
    (hsilenced : s.silenced removed label = true) : Alike removed t s' := by
  cases label with
  | identity | request | enter | work => cases hsilenced
  | proceed index m outside =>
    obtain ⟨request, pc, store, pc', hcall, hadvance, rfl⟩ := step_proceed hstep
    have hown : (⟨request, pc⟩ : HttpCall).isOf removed = true := by
      simpa only [silenced, hcall, Option.any_some] using hsilenced
    have hrequests : s'.calls.map (HttpCall.seenBut removed) =
        ((s.withStore store).goto index pc').calls.map (HttpCall.seenBut removed) :=
      h.requests.trans (goto_hidden hcall (advance_principal? hadvance) hown).symm
    obtain ⟨principal, hprincipal, -, ⟨rfl, -⟩ | ⟨c, hbound, rfl, -⟩⟩ :=
      advance_confined (hconfined _ (List.mem_of_getElem? hcall)) hadvance
    · exact { h with requests := hrequests }
    · obtain rfl : principal.tenantId.text = removed := by
        rw [HttpCall.isOf, hprincipal] at hown
        exact of_decide_eq_true hown
      obtain ⟨hstores, hpublished⟩ := h.serve_outside hstored hbound
      exact { h with
        identity := ⟨hstores.tenants, h.identity.users, h.identity.memberships, h.identity.apiKeys,
          h.identity.identityClients, h.identity.userSessions⟩
        stores := hstores
        requests := hrequests
        published := hpublished }

/-- Every other step is possible on both sides, and is seen alike. -/
theorem Alike.visible_step {label : HttpLabel} (h : Alike removed s s') (hstored : Stored s.db.toDatabase removed)
    (hunused : ∀ uuid ∈ label.uuid?, UnusedBy uuid s) (hunused' : ∀ uuid ∈ label.uuid?, UnusedBy uuid s')
    (hconfined : ∀ call ∈ s.calls, call.pc.Confined ownJobs call.request.route) (hstep : s.step config label = some t)
    (hsilenced : s.silenced removed label = false) : ∃ t', s'.step config label = some t' ∧ Alike removed t t' := by
  have hgraft : s'.db = s.db.graft s'.db.toDatabase := h.identity.eq_graft
  cases label with
  | identity label =>
    obtain ⟨identity, hidentity, rfl⟩ := step_identity hstep
    obtain ⟨after', hidentity', hbeside⟩ := Revocation.System.step_beside s'.db.toDatabase hidentity
    have hgraft : s'.db = s.identity.db.graft s'.db.toDatabase := hgraft
    have hsame : { s.identity with db := s'.db } = s'.identity := by
      dsimp only
      rw [← h.exchanges, ← h.drawn, ← h.revocations]
      rfl
    rw [← hgraft] at hidentity' hbeside
    refine ⟨{ s' with identity := { identity with db := after' } }, ?_, ?_⟩
    · rw [step, ← hsame, hidentity']
      rfl
    · exact { h with
        identity := hbeside.identity
        stores := h.stores.beside hbeside
        exchanges := rfl
        drawn := rfl
        revocations := rfl }
  | request request =>
    obtain ⟨htype, hserved, rfl⟩ := step_request hstep
    refine ⟨{ s' with calls := s'.calls ++ [⟨request, .arrived⟩] }, ?_, { h with requests := ?_ }⟩
    · rw [step, if_pos (by simp [htype, hserved])]
    · rw [List.map_append, List.map_append, h.requests]
  | enter index now fresh =>
    obtain ⟨request, hcall, rfl⟩ := step_enter hstep
    have hcall' := h.call_eq hcall rfl
    have hbeside := config.authenticated_beside s.db s'.db.toDatabase now request.scope
    have henter := config.enter_graft s.db s'.db.toDatabase now fresh request
    rw [← hgraft] at hbeside henter
    refine ⟨(s'.withDb (config.authenticated s'.db now request.scope)).goto index (config.enter s'.db now fresh request),
      ?_, ?_⟩
    · simp [step, hcall']
    · rw [henter]
      exact { h with
        identity := hbeside.identity
        stores := h.stores.beside hbeside
        requests := goto_seen _ h.requests }
  | work call m =>
    cases hstep
    obtain ⟨-, hstores⟩ := @SameUnlessAsked.perform removed config.core config.text s.db.toDatabase s'.db.toDatabase m
      h.stores hstored call (hunused m.uuid rfl) (hunused' m.uuid rfl)
    exact ⟨_, rfl, { h with
      identity := ⟨hstores.tenants, h.identity.users, h.identity.memberships, h.identity.apiKeys,
        h.identity.identityClients, h.identity.userSessions⟩
      stores := hstores }⟩
  | proceed index m outside =>
    obtain ⟨request, pc, store, pc', hcall, hadvance, rfl⟩ := step_proceed hstep
    have hother : (⟨request, pc⟩ : HttpCall).isOf removed = false := by
      simpa only [silenced, hcall, Option.any_some] using hsilenced
    have hcall' := h.call_eq hcall hother
    have hpc := hconfined _ (List.mem_of_getElem? hcall)
    obtain ⟨principal, hprincipal, -, -⟩ := advance_confined hpc hadvance
    have htenant : principal.tenantId.text ≠ removed := by
      rw [HttpCall.isOf, hprincipal] at hother
      exact of_decide_eq_false hother
    have hserve := fun c hbound => @Alike.serve config removed s s' m outside h hstored (hunused m.uuid rfl)
      (hunused' m.uuid rfl) c principal.tenantId.text request.route.writes hbound htenant
    obtain ⟨store', hadvance', hstores⟩ := advance_alike hpc hprincipal (fun c hbound => (hserve c hbound).1) hadvance
    refine ⟨(s'.withStore store').goto index pc', ?_, ?_⟩
    · simp [step, hcall', hadvance']
    · obtain ⟨rfl, rfl⟩ | ⟨c, hbound, rfl, rfl⟩ := hstores
      · exact { h with requests := goto_seen pc' h.requests }
      · obtain ⟨-, hafter, hpublished⟩ := hserve c hbound
        exact { h with
          identity := ⟨hafter.tenants, h.identity.users, h.identity.memberships, h.identity.apiKeys,
            h.identity.identityClients, h.identity.userSessions⟩
          stores := hafter
          requests := goto_seen pc' h.requests
          published := hpublished }

/-- A gateway is seen like itself. -/
theorem Alike.refl (removed : String) (s : HttpGateway) : Alike removed s s where
  identity := SameIdentity.refl s.db
  stores := SameUnlessAsked.refl removed s.db.toDatabase
  exchanges := rfl
  drawn := rfl
  revocations := rfl
  requests := rfl
  published := rfl

/-- Every other tenant has the same rows and messages. -/
theorem Alike.heldBy_eq (h : Alike removed s s') {tenantId : String} (hne : tenantId ≠ removed) :
    s'.heldBy tenantId = s.heldBy tenantId := by
  have helsewhere : SameElsewhere removed s.db.toDatabase s'.db.toDatabase :=
    ⟨h.stores.jobs, h.stores.findingsAgree,
      ⟨(mirrors_iff fun _ => rfl).mpr (by rw [h.stores.correlations]),
        (mirrors_iff fun _ => rfl).mpr (by rw [h.stores.links])⟩⟩
  have hpublished : (s'.published.filter fun key => key.tenantId = tenantId) =
      s.published.filter fun key => key.tenantId = tenantId := by
    have hfilter : ∀ keys : List JobKey, (keys.filter fun key => key.tenantId = tenantId) =
        (keys.filter fun key => key.tenantId ≠ removed).filter fun key => key.tenantId = tenantId := by
      intro keys
      rw [List.filter_filter]
      apply List.filter_congr
      intro key _
      by_cases hkey : key.tenantId = tenantId
      · simp [hkey, hne]
      · simp [hkey]
    rw [hfilter, hfilter s.published, h.published]
  exact Prod.ext (helsewhere.heldBy_eq hne).symm hpublished

/-- Without the handlers of a tenant a run ends alike. -/
theorem run_alike {db₀ : IdentityDatabase} {schedule : List HttpLabel}
    (hready : Ready removed schedule (.initial db₀))
    (hrun : runSteps (step config) (.initial db₀) schedule = some s) :
    ∃ s', runSteps (step config) (.initial db₀) (without config removed (.initial db₀) schedule) = some s' ∧
      Alike removed s s' := by
  let Rel (rest : List HttpLabel) (s s' : HttpGateway) : Prop :=
    (∃ first, runSteps (step config) (.initial db₀) first = some s) ∧ Ready removed rest s ∧ Ready removed rest s' ∧
      Alike removed s s'
  have hreached : ∀ {label s t}, (∃ first, runSteps (step config) (.initial db₀) first = some s) →
      s.step config label = some t → ∃ first, runSteps (step config) (.initial db₀) first = some t := by
    rintro label s t ⟨first, hfirst⟩ hstep
    exact ⟨first ++ [label], runSteps_append_eq_some.mpr ⟨s, hfirst, runSteps_cons_eq_some.mpr ⟨t, hstep, rfl⟩⟩⟩
  obtain ⟨s', hrun', -, -, -, halike⟩ : ∃ s', runSteps (step config) (.initial db₀)
      (without config removed (.initial db₀) schedule) = some s' ∧ Rel [] s s' := by
    refine @runSteps_withoutHidden _ _ _ _ Rel ?_ ?_ _ _ _ _ ⟨⟨[], rfl⟩, hready, hready, Alike.refl removed _⟩ hrun
    · rintro label rest s s' t ⟨hfirst, hs, hs', halike⟩ hstep hsilenced
      obtain ⟨first, hfirst'⟩ := hfirst
      exact ⟨hreached ⟨first, hfirst'⟩ hstep, hs.step hstep, hs'.skip,
        halike.hidden_step hs.stored (confined_run hfirst') hstep hsilenced⟩
    · rintro label rest s s' t ⟨hfirst, hs, hs', halike⟩ hstep hsilenced
      obtain ⟨first, hfirst'⟩ := hfirst
      obtain ⟨t', hstep', halike'⟩ := halike.visible_step hs.stored hs.unused_here hs'.unused_here (confined_run hfirst')
        hstep hsilenced
      exact ⟨t', hstep', hreached ⟨first, hfirst'⟩ hstep, hs.step hstep, hs'.step hstep', halike'⟩
  exact ⟨s', hrun', halike⟩

end HttpGateway

/-- In every run, leaving out all that the handlers of one tenant's requests do changes nothing that anyone else sees:
no answer, stream or position of a request, no exchange or revocation, no message, and no row of another tenant. -/
theorem http_noninterference (config : HttpConfig) (db₀ : IdentityDatabase) (schedule : List HttpLabel)
    (s : HttpGateway) (removed : String) (hready : HttpGateway.Ready removed schedule (.initial db₀))
    (hrun : runSteps (HttpGateway.step config) (.initial db₀) schedule = some s) :
    ∃ s', runSteps (HttpGateway.step config) (.initial db₀)
        (HttpGateway.without config removed (.initial db₀) schedule) = some s' ∧
      s'.observedBut removed = s.observedBut removed ∧
      ∀ tenantId, tenantId ≠ removed → s'.heldBy tenantId = s.heldBy tenantId := by
  obtain ⟨s', hrun', halike⟩ := HttpGateway.run_alike hready hrun
  exact ⟨s', hrun', halike.observedBut_eq, fun tenantId hne => halike.heldBy_eq hne⟩

/-- The second tenant has its row, and the schedule draws each uuid once. -/
theorem twoSubmissions_ready :
    HttpGateway.Ready "tenant-b" HttpGateway.twoSubmissions (.initial HttpGateway.tenantRows) where
  stored := by
    have hrow : ∃ row ∈ HttpGateway.tenantRows.tenants.rows, row.id = "tenant-b" := by decide +kernel
    exact hrow
  distinct := by decide +kernel
  unused _ _ _ hrow := by cases hrow

/-- The theorem applies to that run without the requests of the second tenant. -/
theorem http_noninterference_submission :
    ∃ s s', runSteps (HttpGateway.step HttpGateway.twoTokens) (.initial HttpGateway.tenantRows)
        HttpGateway.twoSubmissions = some s ∧
      runSteps (HttpGateway.step HttpGateway.twoTokens) (.initial HttpGateway.tenantRows)
        (HttpGateway.without HttpGateway.twoTokens "tenant-b" (.initial HttpGateway.tenantRows)
          HttpGateway.twoSubmissions) = some s' ∧
      s'.observedBut "tenant-b" = s.observedBut "tenant-b" ∧ s'.heldBy "tenant-a" = s.heldBy "tenant-a" := by
  have hreach : (runSteps (HttpGateway.step HttpGateway.twoTokens) (.initial HttpGateway.tenantRows)
      HttpGateway.twoSubmissions).isSome = true := by decide +kernel
  obtain ⟨s, hrun⟩ := Option.isSome_iff_exists.mp hreach
  obtain ⟨s', hrun', hsame, hheld⟩ := http_noninterference HttpGateway.twoTokens HttpGateway.tenantRows
    HttpGateway.twoSubmissions s "tenant-b" twoSubmissions_ready hrun
  exact ⟨s, s', hrun, hrun', hsame, hheld "tenant-a" (by decide)⟩

end SharedIntegration

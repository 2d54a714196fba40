import SharedIntegration.AdapterSafety
import SharedIntegration.ExchangeSafety
import SharedIntegration.FailClosed
import SharedIntegration.FindingDict
import SharedIntegration.HttpMoves

/-!
# What the gateway discloses

A request may be answered while others write to the same database. Every row that it shows was stored
under the tenant of its principal right before or right after one of its own calls: no answer has a row
of another tenant, a row that was never stored, or one that was gone before the request asked for it.
-/

namespace SharedIntegration

open Transition FindingLifecycle Identity Exchange

/-- The rows that one of these databases holds under a tenant. -/
def Visible.storedIn (core : CoreLibrary) (dbs : List Database) (tenantId : String) : Visible where
  job record := ∃ db ∈ dbs, ∃ row ∈ db.jobTables.jobs.rows, row.tenantId = tenantId ∧ row.toJobRecord = record
  event event := ∃ db ∈ dbs, event ∈ db.jobTables.events.rows ∧ event.tenantId = tenantId
  finding record := ∃ db ∈ dbs, ∃ row ∈ db.findings.rows, row.tenantId = tenantId ∧ recordFromRow core row = record

/-- Each of these databases is covered. -/
theorem Visible.storedIn_covers {core : CoreLibrary} {dbs : List Database} {db : Database} (hdb : db ∈ dbs)
    (tenantId : String) : (storedIn core dbs tenantId).Covers core tenantId db where
  jobs row hrow htenant := ⟨db, hdb, row, hrow, htenant, rfl⟩
  events _ hevent htenant := ⟨db, hdb, hevent, htenant⟩
  findings row hrow htenant := ⟨db, hdb, row, hrow, htenant, rfl⟩

/-- What a request has shown; without a principal it is an error that names no row. -/
def HttpPc.Discloses (v : String → Visible) : HttpPc → Prop
  | .arrived | .handling _ _ => True
  | .streaming principal stream => stream.key.tenantId = principal.tenantId.text ∧
      ∀ event ∈ stream.sent, (v principal.tenantId.text).event event
  | .answered (some principal) response => response.Shows (v principal.tenantId.text) principal.tenantId.text
  | .answered none response => ∃ answer, response = .document answer

/-- A confined request discloses what it may. -/
theorem HttpPc.Confined.discloses {v : String → Visible} {route : ApiRoute} {pc : HttpPc} (h : pc.Confined v route) :
    pc.Discloses v := by
  cases pc with
  | arrived | handling => exact trivial
  | streaming => exact h
  | answered principal response =>
    cases principal with
    | none => exact h
    | some principal => exact h

/-- Calls are answered with rows that the databases around them hold. -/
theorem ApiCall.promises {v : Visible} {tenantId : String} {writes : Bool} {config : HttpConfig} {store : ApiStore}
    {m : Moment} {outside : Outside} {c : ApiCall} (hbound : c.Bound v tenantId writes)
    (hbefore : v.Covers config.core tenantId store.db)
    (hafter : v.Covers config.core tenantId (store.serve config m outside c).1.db) :
    c.Promises v (store.serve config m outside c).2 := by
  cases c with
  | store call =>
    obtain ⟨rfl, -⟩ := hbound
    exact StoreCall.shows hbefore hafter
  | submit | cancel | ping | ready | available => exact trivial

namespace HttpGateway

variable (config : HttpConfig)

/-- The databases right before and right after a call of a request. -/
def around (index : ℕ) (s : HttpGateway) : HttpLabel → List Database
  | .proceed i m outside =>
    if i = index then s.db.toDatabase :: (s.step config (.proceed i m outside)).elim [] fun t => [t.db.toDatabase]
    else []
  | _ => []

/-- Confined by whatever covers the databases around its calls so far. -/
def ConfinedBy (index : ℕ) (history : List Database) (s : HttpGateway) : Prop :=
  ∀ v : String → Visible, (∀ tenantId, ∀ db ∈ history, (v tenantId).Covers config.core tenantId db) →
    ∀ call, s.calls[index]? = some call → call.pc.Confined v call.request.route

variable {config} {index : ℕ} {history : List Database} {s t : HttpGateway} {label : HttpLabel}

/-- A step keeps a request confined by the databases around its calls. -/
theorem ConfinedBy.step (h : ConfinedBy config index history s) (hstep : s.step config label = some t) :
    ConfinedBy config index (history ++ around config index s label) t := by
  intro v hcovers call hcall
  have hold : ∀ call, s.calls[index]? = some call → call.pc.Confined v call.request.route :=
    h v fun tenantId db hdb => hcovers tenantId db (List.mem_append_left _ hdb)
  obtain ⟨request, pc⟩ := call
  rcases step_calls hstep hcall with hsame | ⟨-, -, rfl⟩ | ⟨now, fresh, -, harrived, rfl⟩ |
    ⟨m, outside, before, store, rfl, hbefore, hadvance, hdb⟩
  · exact hold _ hsame
  · exact trivial
  · exact HttpConfig.enter_confined
  · rw [around, if_pos rfl, hstep] at hcovers
    obtain ⟨principal, -, -, ⟨-, hsame⟩ | ⟨c, hbound, rfl, hrest⟩⟩ := advance_confined (hold _ hbefore) hadvance
    · exact hsame
    · apply hrest
      apply ApiCall.promises hbound
      · exact hcovers _ _ (List.mem_append_right _ List.mem_cons_self)
      · rw [← hdb]
        exact hcovers _ _ (List.mem_append_right _ (List.mem_cons_of_mem _ List.mem_cons_self))

/-- In every run each request is confined by the databases around its calls. -/
theorem confinedBy_run {db₀ : IdentityDatabase} {schedule : List HttpLabel}
    (hrun : runSteps (step config) (.initial db₀) schedule = some s) (index : ℕ) :
    ConfinedBy config index (emitted (step config) (around config index) (.initial db₀) schedule) s := by
  have hinitial : ConfinedBy config index [] (.initial db₀) := by
    intro v hcovers call hcall
    cases hcall
  exact runSteps_history (ConfinedBy config index)
    (fun history s label t hconfined hstep => hconfined.step hstep) hinitial hrun

end HttpGateway

/-- In every run, with any exchanges, revocations, requests and workers at the same time, every row that a request
shows was stored under the tenant of its principal right before or right after one of its own calls. -/
theorem http_answers_stored (config : HttpConfig) (db₀ : IdentityDatabase) (schedule : List HttpLabel) (s : HttpGateway)
    (hrun : runSteps (HttpGateway.step config) (.initial db₀) schedule = some s) (index : ℕ) (call : HttpCall)
    (hcall : s.calls[index]? = some call) :
    call.pc.Discloses (Visible.storedIn config.core
      (emitted (HttpGateway.step config) (HttpGateway.around config index) (.initial db₀) schedule)) := by
  apply HttpPc.Confined.discloses
  exact HttpGateway.confinedBy_run hrun index _ (fun tenantId db hdb => Visible.storedIn_covers hdb tenantId) call hcall

namespace HttpGateway

/-- A gateway with one product, and two tenants with a token each. -/
def twoTokens : HttpConfig where
  core := FindingDict.core
  text := FindingDict.text
  secrets := plainDigests
  tables := asciiTables
  decimal := asciiDecimal
  products := [(.firmware, AdapterHost.firmware)]
  principals := [(.of "analyst-token-0001", .ofRole (.of "tenant-a") (.of "analyst") (.of "machine")),
    (.of "analyst-token-0002", .ofRole (.of "tenant-b") (.of "analyst") (.of "machine"))]
  identity := false

/-- A database with the rows of the two tenants. -/
def tenantRows : IdentityDatabase :=
  afterCall plainDigests
    (afterCall plainDigests .empty (letterDraw 0 "1" 'a', .createTenant "tenant-a" "tenant-a" "Tenant A" 90 "system"))
    (letterDraw 0 "2" 'b', .createTenant "tenant-b" "tenant-b" "Tenant B" 90 "system")

/-- A request that bears a token. -/
def requestOf (method path token : String) (route : ApiRoute) : HttpRequest :=
  ⟨⟨.of "http", some (.of path), some (.of method), [(.of "authorization", .of ("Bearer " ++ token))]⟩, route⟩

/-- A submission of a scan. -/
def submission (token : String) : HttpRequest :=
  requestOf "POST" "/v1/scans" token (.createScan .firmware .null (some "nightly"))

/-- A broker and adapters that work. -/
def working : Outside := ⟨true, .ok "dispatch", .ok (), true, true, fun _ => true⟩

/-- Both tenants submit a scan under one key, and the worker of the first one starts. -/
def twoSubmissions : List HttpLabel :=
  [.request (submission "analyst-token-0001"), .request (submission "analyst-token-0002"),
    .enter 0 0 (.of "0"), .enter 1 0 (.of "1"), .proceed 1 ⟨1, "1"⟩ working, .proceed 0 ⟨2, "2"⟩ working,
    .proceed 0 ⟨3, "3"⟩ working, .proceed 1 ⟨4, "4"⟩ working, .proceed 0 ⟨5, "5"⟩ working,
    .work (.jobs (.markRunning ⟨"tenant-a", "job_2"⟩ true)) ⟨6, "6"⟩, .proceed 0 ⟨7, "7"⟩ working]

end HttpGateway

/-- The theorem applies to the first request of that run, which is answered with its job. -/
theorem http_answers_stored_submission :
    ∃ s call, runSteps (HttpGateway.step HttpGateway.twoTokens) (.initial HttpGateway.tenantRows)
        HttpGateway.twoSubmissions = some s ∧ s.calls[0]? = some call ∧
      (call.pc.response? FindingDict.core).map JsonAnswer.statusCode = some 202 ∧
      call.pc.Discloses (Visible.storedIn FindingDict.core (emitted (HttpGateway.step HttpGateway.twoTokens)
        (HttpGateway.around HttpGateway.twoTokens 0) (.initial HttpGateway.tenantRows) HttpGateway.twoSubmissions)) := by
  have hreach : ∃ s ∈ runSteps (HttpGateway.step HttpGateway.twoTokens) (.initial HttpGateway.tenantRows)
      HttpGateway.twoSubmissions, ∃ call ∈ s.calls[0]?,
        (call.pc.response? FindingDict.core).map JsonAnswer.statusCode = some 202 := by decide +kernel
  obtain ⟨s, hrun, call, hcall, hstatus⟩ := hreach
  exact ⟨s, call, hrun, hcall, hstatus,
    http_answers_stored HttpGateway.twoTokens HttpGateway.tenantRows HttpGateway.twoSubmissions s hrun 0 call hcall⟩

end SharedIntegration

import SharedIntegration.HttpGateway

/-!
# What handlers call and show

A handler makes all its calls for the tenant of its principal, writes only on the routes that write,
and shows only rows that a call has returned to it. What a call returns are rows of the tenant that
it is bound to.
-/

namespace SharedIntegration

open FindingLifecycle

/-- Which rows may be shown. -/
structure Visible where
  job : JobRecord → Prop
  event : JobEvent → Prop
  finding : FindingLifecycleRecord → Prop

/-- The routes that write. -/
def ApiRoute.writes : ApiRoute → Bool
  | .createScan _ _ _ | .cancelScan _ | .updateFinding _ _ _ => true
  | _ => false

/-- The calls that only read. -/
def StoreCall.reads : StoreCall → Bool
  | .jobs (.get _) | .jobs (.listJobs _ _ _ _) | .jobs (.findByIdempotencyKey _ _) | .jobs (.listEvents _ _ _) => true
  | .findings _ .findings | .findings _ (.correlations _) | .findings _ (.query _ _ _ _ _ _)
  | .findings _ (.listPage _ _ _ _ _) => true
  | _ => false

/-- The calls that store findings and correlations, which only workers make. -/
def StoreCall.files : StoreCall → Bool
  | .findings _ (.addForJob _ _) | .findings _ (.addCorrelation _) => true
  | _ => false

/-- A call that reads changes nothing. -/
theorem StoreCall.perform_reads {core : CoreLibrary} {text : TextLibrary} {db : Database} {m : Moment} {call : StoreCall}
    (h : call.reads = true) : (call.perform core text db m).1 = db := by
  cases call with
  | jobs call => cases call <;> first | rfl | cases h
  | findings tenantId call => cases call <;> first | rfl | cases h

section Shows

variable (v : Visible) (tenantId : String) (writes : Bool)

/-- Every job and event that a repository returns may be shown. -/
def RepositoryResult.Shows : RepositoryResult → Prop
  | .created job _ | .record job => v.job job
  | .optional found => ∀ job ∈ found, v.job job
  | .records jobs => ∀ job ∈ jobs, v.job job
  | .event appended => v.event appended
  | .events listed => ∀ event ∈ listed, v.event event
  | .unit | .raised _ => True

/-- Every lifecycle record that the registry returns may be shown. -/
def RegistryResult.Shows : RegistryResult → Prop
  | .page items _ => ∀ item ∈ items, v.finding item
  | .record found => ∀ item ∈ found, v.finding item
  | .done _ | .findings _ | .correlations _ => True

/-- The same for both stores. -/
def StoreResult.Shows : StoreResult → Prop
  | .jobs result => result.Shows v
  | .findings result => result.Shows v

/-- Every row of a response may be shown; a stream is one of the tenant. -/
def ApiResponse.Shows : ApiResponse → Prop
  | .job _ record _ => v.job record
  | .jobs records => ∀ job ∈ records, v.job job
  | .events stream => stream.key.tenantId = tenantId ∧ ∀ event ∈ stream.sent, v.event event
  | .findings records _ => ∀ record ∈ records, v.finding record
  | .finding record => v.finding record
  | .document _ => True

/-- The call is bound to the tenant, stores no finding, and writes only where that is allowed. -/
def ApiCall.Bound : ApiCall → Prop
  | .store call => call.tenantId = tenantId ∧ call.files = false ∧ (writes = true ∨ call.reads = true)
  | .submit job _ | .cancel job => writes = true ∧ v.job job
  | .ping | .ready | .available _ => True

/-- What a call of a store returns may be shown. -/
def ApiCall.Promises : (c : ApiCall) → c.Answer → Prop
  | .store _, answer => StoreResult.Shows v answer
  | .submit _ _, _ | .cancel _, _ | .ping, _ | .ready, _ | .available _, _ => True

end Shows

/-- A call that may not write is allowed everywhere. -/
theorem ApiCall.Bound.mono {v : Visible} {tenantId : String} {writes : Bool} {c : ApiCall} (h : c.Bound v tenantId false) :
    c.Bound v tenantId writes := by
  cases c with
  | store call => exact ⟨h.1, h.2.1, .inr (h.2.2.resolve_left Bool.false_ne_true)⟩
  | submit | cancel => exact absurd h.1 Bool.false_ne_true
  | ping | ready | available => exact trivial

section Handlers

variable (v : Visible) (tenantId : String)

/-- A handler for a tenant. -/
abbrev Handler.Confined (writes : Bool) (handler : Handler) : Prop :=
  handler.Uses (ApiCall.Bound v tenantId writes) (ApiCall.Promises v) (ApiResponse.Shows v tenantId)

variable {v tenantId} (requestId : String)

/-- The handler of a failed dispatch. -/
theorem ApiV1.failDispatch_confined (jobId message : String) :
    (ApiV1.failDispatch tenantId requestId jobId message).Confined v tenantId true := by
  refine ⟨⟨rfl, rfl, .inl rfl⟩, fun answer _ => ?_⟩
  dsimp only
  split <;> exact trivial

/-- `create_scan` behind the submission. -/
theorem ApiV1.reload_confined (jobId : String) :
    (ApiV1.reload tenantId requestId jobId).Confined v tenantId true := by
  refine ⟨⟨rfl, rfl, .inl rfl⟩, fun answer hshows => ?_⟩
  dsimp only
  split
  · exact hshows _ rfl
  · exact ApiV1.failDispatch_confined requestId jobId _

/-- `create_scan`. -/
theorem ApiV1.createScan_confined (core : CoreLibrary) (products : Products) (source : FindingSource)
    (payload : Document) (idempotencyKey : Option String) :
    (ApiV1.createScan core products tenantId requestId source payload idempotencyKey).Confined v tenantId true := by
  unfold ApiV1.createScan
  split
  · exact trivial
  · split
    · exact trivial
    · refine ⟨⟨rfl, rfl, .inl rfl⟩, fun answer hshows => ?_⟩
      dsimp only
      split
      · refine ⟨⟨rfl, hshows⟩, fun submitted _ => ?_⟩
        dsimp only
        split
        · exact ⟨⟨rfl, rfl, .inl rfl⟩, fun _ _ => ApiV1.reload_confined requestId _⟩
        · exact ApiV1.failDispatch_confined requestId _ _
      · exact hshows
      · exact trivial

/-- `cancel_scan`. -/
theorem ApiV1.cancelScan_confined (jobId : String) :
    (ApiV1.cancelScan tenantId requestId jobId).Confined v tenantId true := by
  refine ⟨⟨rfl, rfl, .inl rfl⟩, fun answer hshows => ?_⟩
  dsimp only
  split
  · refine ⟨⟨rfl, rfl, .inl rfl⟩, fun cancelled hcancelled => ?_⟩
    dsimp only
    split
    · refine ⟨⟨rfl, hshows _ rfl⟩, fun revoked _ => ?_⟩
      dsimp only
      split
      · exact hcancelled
      · exact trivial
    · exact trivial
  · exact trivial
  · exact trivial

/-- Asking the adapters is followed by what is asked for. -/
theorem ApiV1.askHealth_confined {writes : Bool} {next : List (FindingSource × JSONSubprocessAdapter × Bool) → Handler}
    (hnext : ∀ known, (next known).Confined v tenantId writes) (products : Products) :
    (ApiV1.askHealth next products).Confined v tenantId writes := by
  induction products generalizing next with
  | nil => exact hnext []
  | cons entry rest ih => exact ⟨trivial, fun available _ => ih fun known => hnext _⟩

/-- Every handler makes its calls for its tenant, writes only on a route that writes, and shows what it was shown. -/
theorem ApiRoute.handler_confined (core : CoreLibrary) (decimal : Char → Option ℕ) (products : Products)
    (role : String) (route : ApiRoute) :
    (route.handler core decimal products tenantId role requestId).Confined v tenantId route.writes := by
  cases route with
  | livez | listAdapters | unserved => exact trivial
  | readyz =>
    change (ApiV1.readyz products).Confined v tenantId false
    apply ApiV1.askHealth_confined
    intro known
    refine ⟨trivial, fun (ping : Bool) _ => ?_⟩
    cases ping with
    | false => exact trivial
    | true => exact ⟨trivial, fun _ _ => trivial⟩
  | adminHealth =>
    refine ⟨trivial, fun ping _ => ⟨trivial, fun ready _ => ?_⟩⟩
    apply ApiV1.askHealth_confined
    exact fun known => trivial
  | createScan source payload idempotencyKey =>
    exact ApiV1.createScan_confined requestId core products source payload idempotencyKey
  | cancelScan jobId => exact ApiV1.cancelScan_confined requestId jobId
  | listScans status source limit =>
    refine ⟨⟨rfl, rfl, .inr rfl⟩, fun answer hshows => ?_⟩
    dsimp only
    split
    · exact hshows
    · exact trivial
  | getScan jobId =>
    refine ⟨⟨rfl, rfl, .inr rfl⟩, fun answer hshows => ?_⟩
    dsimp only
    split
    · exact hshows _ rfl
    · exact trivial
    · exact trivial
  | scanEvents jobId lastEventId =>
    refine ⟨⟨rfl, rfl, .inr rfl⟩, fun answer hshows => ?_⟩
    dsimp only
    split
    · split
      · exact trivial
      · exact ⟨rfl, fun event hevent => absurd hevent List.not_mem_nil⟩
    · exact trivial
    · exact trivial
  | listFindings cursor limit source severity status =>
    change (ApiV1.listFindings decimal tenantId requestId cursor limit source severity status).Confined v tenantId false
    unfold ApiV1.listFindings
    split
    · exact trivial
    · exact trivial
    · refine ⟨⟨rfl, rfl, .inr rfl⟩, fun answer hshows => ?_⟩
      dsimp only
      split
      · exact hshows
      · exact trivial
  | updateFinding findingId status assignedTo =>
    change (ApiV1.updateFinding tenantId requestId role findingId status assignedTo).Confined v tenantId true
    unfold ApiV1.updateFinding
    split
    · exact trivial
    · refine ⟨⟨rfl, rfl, .inl rfl⟩, fun answer hshows => ?_⟩
      dsimp only
      split
      · exact hshows _ rfl
      · exact trivial
      · exact trivial

/-- A read of an event stream is for its tenant, and the stream goes on with events that it was shown. -/
theorem EventStream.next_confined {stream : EventStream} (hkey : stream.key.tenantId = tenantId)
    (hsent : ∀ event ∈ stream.sent, v.event event) :
    stream.next.Uses (ApiCall.Bound v tenantId false) (ApiCall.Promises v)
      fun stream' => stream'.key.tenantId = tenantId ∧ ∀ event ∈ stream'.sent, v.event event := by
  unfold EventStream.next
  split
  · exact ⟨hkey, hsent⟩
  · split
    · exact ⟨hkey, hsent⟩
    · refine ⟨⟨hkey, rfl, .inr rfl⟩, fun answer hshows => ?_⟩
      dsimp only
      split
      · refine ⟨hkey, fun event hevent => ?_⟩
        rw [EventStream.sent_send] at hevent
        rcases List.mem_append.mp hevent with hold | hnew
        · exact hsent event hold
        · exact hshows event hnew
      · exact ⟨hkey, hsent⟩
  · next found hpc =>
    refine ⟨⟨hkey, rfl, .inr rfl⟩, fun answer hshows => ?_⟩
    dsimp only
    split
    · next job =>
      obtain ⟨hsame, hsameKey, -⟩ := stream.look_eq found job
      refine ⟨by rw [hsameKey]; exact hkey, fun event hevent => hsent event ?_⟩
      rwa [hsame] at hevent
    · exact ⟨hkey, hsent⟩

end Handlers

end SharedIntegration

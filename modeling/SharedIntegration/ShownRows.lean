import SharedIntegration.ApiConfinement
import SharedIntegration.ForeignRows

/-!
# Shown rows are stored rows

Every row that a call of the stores returns is stored under the tenant that the call is bound to,
before the call or after it.
-/

namespace SharedIntegration

open Relational FindingLifecycle

/-- Every row that is stored under a tenant may be shown. -/
structure Visible.Covers (v : Visible) (core : CoreLibrary) (tenantId : String) (db : Database) : Prop where
  jobs : ∀ row ∈ db.jobTables.jobs.rows, row.tenantId = tenantId → v.job row.toJobRecord
  events : ∀ event ∈ db.jobTables.events.rows, event.tenantId = tenantId → v.event event
  findings : ∀ row ∈ db.findings.rows, row.tenantId = tenantId → v.finding (recordFromRow core row)

section Jobs

variable {v : Visible} {core : CoreLibrary} {db after : Database} {m : Moment} {key : JobKey}

/-- What `get` reads. -/
theorem Visible.Covers.get {record : JobRecord} (h : v.Covers core key.tenantId db)
    (hget : SqlJobs.get db key = some record) : v.job record := by
  obtain ⟨view, hview, rfl⟩ := Option.map_eq_some_iff.mp hget
  obtain ⟨row, hrow, hrecord⟩ := SqlJobs.findRow_of_view hview
  rw [← hrecord]
  exact h.jobs row (Table.find_eq_some hrow).1 (congrArg JobKey.tenantId (JobTables.findRow_key hrow))

/-- What `_required` reads. -/
theorem Visible.Covers.required {record : JobRecord} (h : v.Covers core key.tenantId after)
    (hrequired : SqlJobs.required db key = .ok (after, record)) : v.job record := by
  unfold SqlJobs.required at hrequired
  split at hrequired
  · next hget =>
    cases hrequired
    exact h.get hget
  · cases hrequired

/-- What `find_by_idempotency_key` reads. -/
theorem Visible.Covers.findByIdempotencyKey {tenantId idempotencyKey : String} {record : JobRecord}
    (h : v.Covers core tenantId db) (hfind : SqlJobs.findByIdempotencyKey db tenantId idempotencyKey = some record) :
    v.job record := by
  obtain ⟨row, hrow, rfl⟩ := Option.map_eq_some_iff.mp hfind
  obtain ⟨hmem, hkeys⟩ := Table.find_eq_some hrow
  exact h.jobs row hmem (of_decide_eq_true hkeys).1

/-- `create` shows the stored match, or the job that it stores. -/
theorem Visible.Covers.create {tenantId : String} {source : FindingSource} {payload : Document}
    {idempotencyKey : Option String} {record : JobRecord} {isNew : Bool} (h : v.Covers core tenantId after)
    (hcreate : SqlJobs.create core db m tenantId source payload idempotencyKey = .ok (after, record, isNew)) :
    v.job record := by
  have hget : SqlJobs.get after record.key = some record ∧ record.tenantId = tenantId := by
    obtain ⟨-, rfl, htenant, hget⟩ | ⟨-, htenant, -, hrecord, hview⟩ := SqlJobs.create_ok hcreate
    · exact ⟨hget, htenant⟩
    · exact ⟨(SqlJobs.get_of_view_update hview).trans (congrArg some hrecord.symm), htenant⟩
  obtain ⟨hget, rfl⟩ := hget
  exact Visible.Covers.get h hget

/-- `mark_running` shows the job that it has started. -/
theorem Visible.Covers.markRunning {requireQueued : Bool}
    (h : v.Covers core key.tenantId (SqlJobs.markRunning db m key requireQueued).1) :
    ∀ record ∈ (SqlJobs.markRunning db m key requireQueued).2, v.job record := by
  intro record hrecord
  unfold SqlJobs.markRunning at h hrecord
  split at hrecord
  · next hcount =>
    rw [if_pos hcount] at h
    exact h.get hrecord
  · cases hrecord

/-- `append_event` shows the event that it has stored. -/
theorem Visible.Covers.appendEvent {kind : String} {payload : Document} {appended : JobEvent}
    (h : v.Covers core key.tenantId after)
    (happend : SqlJobs.appendEvent db m key kind payload = .ok (after, appended)) : v.event appended := by
  unfold SqlJobs.appendEvent at happend
  split at happend
  · cases happend
  · next row hrow =>
    cases happend
    apply h.events _ _ rfl
    change db.jobTables.nextEvent key kind payload m.now ∈ (db.jobTables.appendEvent key kind payload m.now).events.rows
    rw [(Isolation.appendEvent_rows db.jobTables key kind payload m.now).2, hrow]
    exact List.mem_append_right _ List.mem_cons_self

/-- `list_events` shows stored events. -/
theorem Visible.Covers.listEvents {afterSequence limit : ℕ} (h : v.Covers core key.tenantId db) :
    ∀ event ∈ SqlJobs.listEvents db key afterSequence limit, v.event event := by
  intro event hevent
  have hlog : event ∈ db.jobTables.jobLog key := List.mem_of_mem_filter (List.mem_of_mem_take hevent)
  obtain ⟨hmem, hkey⟩ := List.mem_filter.mp ((orderBy_perm _ _).mem_iff.mp hlog)
  exact h.events event hmem (congrArg JobKey.tenantId (of_decide_eq_true hkey))

/-- `list_jobs` shows stored jobs. -/
theorem Visible.Covers.listJobs {tenantId : String} {status : Option JobStatus} {source : Option FindingSource}
    {limit : ℕ} (h : v.Covers core tenantId db) :
    ∀ record ∈ SqlJobs.listJobs db tenantId status source limit, v.job record := by
  intro record hrecord
  obtain ⟨row, hrow, rfl⟩ := List.mem_map.mp hrecord
  obtain ⟨hmem, hlisted⟩ := List.mem_filter.mp ((List.mem_insertionSort _).mp (List.mem_of_mem_take hrow))
  simp only [listed, Bool.and_eq_true, decide_eq_true_eq] at hlisted
  exact h.jobs row hmem hlisted.1.1

/-- `transition` shows the job that it has written. -/
theorem Visible.Covers.transition {status : JobStatus} {resultCount : Option ℕ} {errorCode errorMessage : Option String}
    {record : JobRecord} (h : v.Covers core key.tenantId after)
    (htransition : SqlJobs.transition db m key status resultCount errorCode errorMessage = .ok (after, record)) :
    v.job record := by
  unfold SqlJobs.transition at htransition
  split at htransition
  · cases htransition
  · exact h.required htransition

/-- `request_cancel` shows the job that it has read or written. -/
theorem Visible.Covers.requestCancel {record : JobRecord} (h : v.Covers core key.tenantId after)
    (hcancel : SqlJobs.requestCancel db m key = .ok (after, record)) : v.job record := by
  unfold SqlJobs.requestCancel at hcancel
  split at hcancel
  · cases hcancel
  · next row hrow =>
    split at hcancel
    · cases hcancel
      exact h.jobs row (Table.find_eq_some hrow).1 (congrArg JobKey.tenantId (JobTables.findRow_key hrow))
    · exact h.required hcancel

/-- The end of a call that may raise. -/
theorem outcome_shows {tenantId : String} {Value : Type} {wrap : Value → RepositoryResult}
    {result : Except RepositoryError (Database × Value)}
    (h : v.Covers core tenantId (outcome db wrap result).1)
    (hok : ∀ after value, v.Covers core tenantId after → result = .ok (after, value) → (wrap value).Shows v) :
    (outcome db wrap result).2.Shows v := by
  cases result with
  | error error => exact trivial
  | ok pair => exact hok pair.1 pair.2 h rfl

/-- A call of the job repository shows stored rows. -/
theorem RepositoryCall.shows {call : RepositoryCall} (hbefore : v.Covers core call.tenantId db)
    (hafter : v.Covers core call.tenantId ((SqlJobs.queried core).perform db m call).1) :
    ((SqlJobs.queried core).perform db m call).2.Shows v := by
  cases call with
  | create tenantId source payload idempotencyKey =>
    apply outcome_shows hafter
    exact fun after value hcovers hcreate => hcovers.create hcreate
  | get key => exact fun record hrecord => hbefore.get hrecord
  | listJobs tenantId status source limit => exact hbefore.listJobs
  | findByIdempotencyKey tenantId idempotencyKey => exact fun record hrecord => hbefore.findByIdempotencyKey hrecord
  | markRunning key requireQueued => exact hafter.markRunning
  | transition key status resultCount errorCode errorMessage =>
    exact outcome_shows hafter fun after value hcovers htransition => hcovers.transition htransition
  | appendEvent key kind payload =>
    exact outcome_shows hafter fun after value hcovers happend => hcovers.appendEvent happend
  | listEvents key afterSequence limit => exact hbefore.listEvents
  | setDispatchId key dispatchId => exact trivial
  | requestCancel key => exact outcome_shows hafter fun after value hcovers hcancel => hcovers.requestCancel hcancel

end Jobs

section Findings

variable {v : Visible} {core : CoreLibrary} {text : TextLibrary} {db : Database} {m : Moment} {tenantId : String}

/-- `list_page` shows stored findings. -/
theorem Visible.Covers.listPage {cursor : Option ℕ} {limit : ℕ} {source : Option FindingSource}
    {severity : Option FindingSeverity} {status : Option FindingStatus} (h : v.Covers core tenantId db) :
    ∀ record ∈ (listPage core db tenantId cursor limit source severity status).1, v.finding record := by
  intro record hrecord
  obtain ⟨row, hrow, rfl⟩ := List.mem_map.mp hrecord
  have hselected := List.mem_reverse.mp (List.mem_of_mem_take (List.mem_of_mem_take hrow))
  obtain ⟨hmem, hwanted⟩ := List.mem_filter.mp ((orderBy_perm _ _).mem_iff.mp hselected)
  rw [Bool.and_eq_true, Bool.and_eq_true] at hwanted
  exact h.findings row hmem (of_decide_eq_true hwanted.1.1)

/-- `update_lifecycle` shows the finding that it has written. -/
theorem Visible.Covers.updateLifecycle {findingId : String} {status : Option FindingStatus}
    {assignedTo : Option (Option String)} {actor : String}
    (h : v.Covers core tenantId (updateLifecycle core db m tenantId findingId status assignedTo actor).1) :
    ∀ record ∈ (updateLifecycle core db m tenantId findingId status assignedTo actor).2, v.finding record := by
  intro record hrecord
  unfold FindingLifecycle.updateLifecycle at h hrecord
  split at hrecord
  · cases hrecord
  · next row hrow =>
    cases hrecord
    rw [hrow] at h
    obtain ⟨hmem, hwanted⟩ := Table.find_eq_some hrow
    apply h.findings (row.triage status assignedTo m.now)
    · exact List.mem_map.mpr ⟨row, hmem, if_pos hwanted⟩
    · exact (of_decide_eq_true hwanted).1

/-- A call of the registry shows stored rows. -/
theorem RegistryCall.shows {call : RegistryCall} (hbefore : v.Covers core tenantId db)
    (hafter : v.Covers core tenantId (call.perform core text db m tenantId).1) :
    (call.perform core text db m tenantId).2.Shows v := by
  cases call with
  | addForJob | addCorrelation | findings | correlations | query => exact trivial
  | listPage cursor limit source severity status => exact hbefore.listPage
  | updateLifecycle findingId status assignedTo actor => exact hafter.updateLifecycle

/-- A call shows rows that are stored under its tenant before it or after it. -/
theorem StoreCall.shows {call : StoreCall} (hbefore : v.Covers core call.tenantId db)
    (hafter : v.Covers core call.tenantId (call.perform core text db m).1) :
    StoreResult.Shows v (call.perform core text db m).2 := by
  cases call with
  | jobs call => exact RepositoryCall.shows hbefore hafter
  | findings tenantId call => exact RegistryCall.shows hbefore hafter

end Findings

end SharedIntegration

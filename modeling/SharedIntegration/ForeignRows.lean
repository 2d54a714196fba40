import SharedIntegration.CallIsolation

/-!
# Rows of other tenants

A call of the stores touches rows of the tenant that it is bound to and no others, whether or not the
tenant has a row of its own. Databases with the same rows of every other tenant are told apart by no
other tenant.
-/

namespace SharedIntegration

open Relational FindingLifecycle

namespace Isolation

/-- The same jobs, events, findings, correlations and links of every other tenant. -/
structure SameElsewhere (tenantId : String) (db db' : Database) : Prop where
  jobs : JobsAgree tenantId db.jobTables db'.jobTables
  findings : FindingsAgree tenantId id db.findings db'.findings
  correlations : CorrelationsAgree tenantId db db'

section Mirrors

variable {Row : Type*} {conflict : Row → Row → Prop} {kept : Row → Bool} {rename : Row → Row}
  {table table' table'' : Table Row conflict}

/-- A renaming that changes no row. -/
theorem mirrors_iff (hrename : ∀ row, rename row = row) :
    Table.Mirrors kept rename table table' ↔ table.select kept = table'.select kept := by
  rw [Table.Mirrors, List.map_congr_left (g := id) fun row _ => hrename row, List.map_id]

end Mirrors

/-- The same jobs and events the other way round. -/
theorem JobsAgree.symm {tenantId : String} {tables tables' : JobTables JobRow} (h : JobsAgree tenantId tables tables') :
    JobsAgree tenantId tables' tables where
  jobs := (mirrors_iff fun _ => rfl).mpr ((mirrors_iff fun _ => rfl).mp h.jobs).symm
  events := (mirrors_iff fun _ => rfl).mpr ((mirrors_iff fun _ => rfl).mp h.events).symm

/-- A row under its own id. -/
@[simp] theorem renumber_id (row : FindingRow) : row.renumber id = row := rfl

variable {tenantId other : String} {core : CoreLibrary} {text : TextLibrary} {db db₁ db' : Database} {m : Moment}

namespace SameElsewhere

/-- Which rows are to be the same. -/
theorem iff_select : SameElsewhere tenantId db db' ↔
    (db.jobTables.jobs.select fun row => decide (row.tenantId ≠ tenantId)) =
        (db'.jobTables.jobs.select fun row => decide (row.tenantId ≠ tenantId)) ∧
      (db.jobTables.events.select fun event => decide (event.tenantId ≠ tenantId)) =
        (db'.jobTables.events.select fun event => decide (event.tenantId ≠ tenantId)) ∧
      (db.findings.select fun row => decide (row.tenantId ≠ tenantId)) =
        (db'.findings.select fun row => decide (row.tenantId ≠ tenantId)) ∧
      (db.correlations.select fun row => decide (row.tenantId ≠ tenantId)) =
        (db'.correlations.select fun row => decide (row.tenantId ≠ tenantId)) ∧
      (db.correlationFindings.select fun link => decide (link.tenantId ≠ tenantId)) =
        (db'.correlationFindings.select fun link => decide (link.tenantId ≠ tenantId)) := by
  constructor
  · rintro ⟨⟨hjobs, hevents⟩, hfindings, hcorrelations, hlinks⟩
    exact ⟨(mirrors_iff fun _ => rfl).mp hjobs, (mirrors_iff fun _ => rfl).mp hevents,
      (mirrors_iff renumber_id).mp hfindings, (mirrors_iff fun _ => rfl).mp hcorrelations,
      (mirrors_iff fun _ => rfl).mp hlinks⟩
  · rintro ⟨hjobs, hevents, hfindings, hcorrelations, hlinks⟩
    exact ⟨⟨(mirrors_iff fun _ => rfl).mpr hjobs, (mirrors_iff fun _ => rfl).mpr hevents⟩,
      (mirrors_iff renumber_id).mpr hfindings, (mirrors_iff fun _ => rfl).mpr hcorrelations,
      (mirrors_iff fun _ => rfl).mpr hlinks⟩

/-- A database has its own rows. -/
theorem refl (tenantId : String) (db : Database) : SameElsewhere tenantId db db :=
  iff_select.mpr ⟨rfl, rfl, rfl, rfl, rfl⟩

/-- The same rows the other way round. -/
theorem symm (h : SameElsewhere tenantId db db') : SameElsewhere tenantId db' db := by
  rw [iff_select] at h ⊢
  obtain ⟨hjobs, hevents, hfindings, hcorrelations, hlinks⟩ := h
  exact ⟨hjobs.symm, hevents.symm, hfindings.symm, hcorrelations.symm, hlinks.symm⟩

/-- The same rows throughout. -/
theorem trans (h : SameElsewhere tenantId db db₁) (h' : SameElsewhere tenantId db₁ db') :
    SameElsewhere tenantId db db' := by
  rw [iff_select] at h h' ⊢
  obtain ⟨hjobs, hevents, hfindings, hcorrelations, hlinks⟩ := h
  obtain ⟨hjobs', hevents', hfindings', hcorrelations', hlinks'⟩ := h'
  exact ⟨hjobs.trans hjobs', hevents.trans hevents', hfindings.trans hfindings', hcorrelations.trans hcorrelations',
    hlinks.trans hlinks'⟩

/-- Tables that did not change. -/
theorem of_eq (hjobs : db'.jobTables = db.jobTables) (hfindings : db'.findings = db.findings)
    (hcorrelations : db'.correlations = db.correlations)
    (hlinks : db'.correlationFindings = db.correlationFindings) : SameElsewhere tenantId db db' := by
  rw [iff_select, hjobs, hfindings, hcorrelations, hlinks]
  exact ⟨rfl, rfl, rfl, rfl, rfl⟩

end SameElsewhere

/-! ### Calls -/

/-- A call of the job repository. -/
theorem SameElsewhere.jobs_call (call : RepositoryCall) :
    SameElsewhere call.tenantId ((SqlJobs.queried core).perform db m call).1 db := by
  obtain ⟨tenants, -, hwrite, honly⟩ := @perform_ensures core db m call
  have hothers : SameElsewhere call.tenantId db
      { ((SqlJobs.queried core).perform db m call).1 with jobTables := db.jobTables } :=
    of_eq rfl honly.findings honly.correlations honly.correlationFindings
  exact ⟨hwrite.outside (refl _ db).jobs, hothers.symm.findings, hothers.symm.correlations.correlations,
    hothers.symm.correlations.links⟩

/-- An update of one tenant's findings. -/
theorem findings_update {findings findings' : Table FindingRow FindingRow.Conflict} {selected : FindingRow → Bool}
    {change : FindingRow → FindingRow} (h : FindingsAgree tenantId id findings findings')
    (hkeys : KeepsKeys FindingRow.Conflict change) (hselected : ∀ row, selected row = true → row.tenantId = tenantId)
    (hchange : ∀ row, (change row).tenantId = row.tenantId) :
    FindingsAgree tenantId id (findings.update selected change hkeys) findings' := by
  apply h.update_outside hkeys
  · exact fun row hrow => decide_eq_false fun hne => hne (hselected row hrow)
  · intro row _
    rw [hchange]

/-- Changing the row of a fingerprint. -/
theorem updateFingerprint_elsewhere {findings findings' : Table FindingRow FindingRow.Conflict} {fingerprint : String}
    {change : FindingRow → FindingRow} (h : FindingsAgree tenantId id findings findings')
    (hkeys : KeepsKeys FindingRow.Conflict change) (hchange : ∀ row, (change row).tenantId = row.tenantId) :
    FindingsAgree tenantId id (updateFingerprint findings tenantId fingerprint change hkeys) findings' :=
  findings_update h hkeys (fun _ hrow => (of_decide_eq_true hrow).1) hchange

/-- `add_for_job`. -/
theorem SameElsewhere.addForJob (core : CoreLibrary) (text : TextLibrary) (db : Database) (m : Moment)
    (tenantId : String) (finding : Finding) (jobId : Option String) :
    SameElsewhere tenantId (addForJob core text db m tenantId finding jobId).1 db := by
  have hsame := refl tenantId db
  unfold FindingLifecycle.addForJob
  split
  · next db' hstore =>
    rcases Option.or_eq_some_iff.mp hstore with hlocked | ⟨-, hlost⟩
    · obtain ⟨tenants, -, ⟨-, findings, hinsert, rfl⟩ | ⟨row, -, rfl⟩⟩ := storeLocked_cases hlocked
      · have hfindings := Table.Mirrors.insert_outside hsame.findings (decide_eq_false fun hne => hne rfl) hinsert
        exact ⟨hsame.jobs, hfindings, hsame.correlations.correlations, hsame.correlations.links⟩
      · exact ⟨hsame.jobs, updateFingerprint_elsewhere hsame.findings (FindingRow.merge_keeps core finding jobId m.now)
          fun _ => rfl, hsame.correlations.correlations, hsame.correlations.links⟩
    · obtain ⟨row, -, rfl⟩ := storeLost_cases hlost
      exact ⟨hsame.jobs, updateFingerprint_elsewhere hsame.findings (FindingRow.mergeLost_keeps core finding m.now)
        fun _ => rfl, hsame.correlations.correlations, hsame.correlations.links⟩
  · exact hsame

/-- `add_correlation`. -/
theorem SameElsewhere.addCorrelation (db : Database) (m : Moment) (tenantId : String) (correlation : Correlation) :
    SameElsewhere tenantId (addCorrelation db m tenantId correlation).1 db := by
  unfold FindingLifecycle.addCorrelation
  split
  · next db' hinsert =>
    obtain ⟨tenants, correlations, links, -, hcorrelations, hlinks, rfl⟩ := insertCorrelation_eq_some hinsert
    have hsame := refl tenantId db
    refine ⟨hsame.jobs, hsame.findings, ?_, ?_⟩
    · exact hsame.correlations.correlations.insert_outside (decide_eq_false fun hne => hne rfl) hcorrelations
    · exact links_outside _ _ hsame.correlations.links hlinks
  · exact refl _ _

/-- `update_lifecycle`. -/
theorem SameElsewhere.updateLifecycle (core : CoreLibrary) (db : Database) (m : Moment)
    (tenantId findingId : String) (status : Option FindingStatus) (assignedTo : Option (Option String)) (actor : String) :
    SameElsewhere tenantId (updateLifecycle core db m tenantId findingId status assignedTo actor).1 db := by
  have hsame := refl tenantId db
  unfold FindingLifecycle.updateLifecycle
  split
  · exact hsame
  · exact ⟨hsame.jobs, findings_update hsame.findings (FindingRow.triage_keeps status assignedTo m.now)
      (fun _ hrow => (of_decide_eq_true hrow).1) fun _ => rfl, hsame.correlations.correlations,
      hsame.correlations.links⟩

/-- A call changes no row of another tenant. -/
theorem SameElsewhere.perform (call : StoreCall) :
    SameElsewhere call.tenantId (call.perform core text db m).1 db := by
  cases call with
  | jobs call => exact jobs_call call
  | findings tenantId call =>
    cases call with
    | addForJob finding jobId => exact SameElsewhere.addForJob core text db m tenantId finding jobId
    | addCorrelation correlation => exact SameElsewhere.addCorrelation db m tenantId correlation
    | updateLifecycle findingId status assignedTo actor =>
      exact SameElsewhere.updateLifecycle core db m tenantId findingId status assignedTo actor
    | findings | correlations | query | listPage => exact refl _ _

end Isolation

/-! ### The rows of one tenant -/

/-- What the stores hold of a tenant. -/
structure HeldRows where
  jobs : List JobRow
  events : List JobEvent
  findings : List FindingRow
  correlations : List CorrelationRow
  links : List CorrelationFindingRow

/-- The rows of a tenant. -/
def Database.heldBy (db : Database) (tenantId : String) : HeldRows where
  jobs := db.jobTables.jobs.select fun row => row.tenantId = tenantId
  events := db.jobTables.events.select fun event => event.tenantId = tenantId
  findings := db.findings.select fun row => row.tenantId = tenantId
  correlations := db.correlations.select fun row => row.tenantId = tenantId
  links := db.correlationFindings.select fun link => link.tenantId = tenantId

/-- Databases that are the same off another tenant hold the same of a tenant. -/
theorem Isolation.SameElsewhere.heldBy_eq {db db' : Database} {tenantId other : String}
    (h : SameElsewhere other db db') (hne : tenantId ≠ other) : db.heldBy tenantId = db'.heldBy tenantId := by
  unfold Database.heldBy
  have hkept : ∀ {Row : Type} (owner : Row → String) (row : Row), decide (owner row = tenantId) = true →
      decide (owner row ≠ other) = true :=
    fun owner row hrow => decide_eq_true ((of_decide_eq_true hrow).trans_ne hne)
  congr 1
  · exact h.jobs.jobs.select_same (hkept fun row : JobRow => row.tenantId)
  · exact h.jobs.events.select_same (hkept JobEvent.tenantId)
  · exact Table.Mirrors.select_same ((mirrors_iff fun _ => rfl).mpr ((mirrors_iff renumber_id).mp h.findings))
      (hkept FindingRow.tenantId)
  · exact h.correlations.correlations.select_same (hkept CorrelationRow.tenantId)
  · exact h.correlations.links.select_same (hkept CorrelationFindingRow.tenantId)

/-- A call bound to another tenant changes nothing of a tenant. -/
theorem StoreCall.heldBy_perform {core : CoreLibrary} {text : TextLibrary} {db : Database} {m : Moment} {call : StoreCall}
    {tenantId : String} (h : tenantId ≠ call.tenantId) : (call.perform core text db m).1.heldBy tenantId = db.heldBy tenantId :=
  (Isolation.SameElsewhere.perform call).heldBy_eq h

end SharedIntegration

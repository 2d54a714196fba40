import SharedIntegration.StoreCalls
import SharedIntegration.Library.Mirror

/-!
# Databases that differ in one tenant

Two databases agree off a tenant when they hold the same rows of every other tenant, with the
findings under other row ids. A call for another tenant returns the same in both and keeps the
agreement; a call for the tenant itself keeps it when performed in one of them only.
-/

namespace SharedIntegration

open Relational

namespace Isolation

/-! ### Jobs and their events -/

/-- The same jobs and events of every other tenant. -/
structure JobsAgree (removed : String) (tables tables' : JobTables JobRow) : Prop where
  jobs : Table.Mirrors (fun row => decide (row.tenantId ≠ removed)) id tables.jobs tables'.jobs
  events : Table.Mirrors (fun event => decide (event.tenantId ≠ removed)) id tables.events tables'.events

variable {removed : String} {tables tables' : JobTables JobRow} {key : JobKey}

/-- A lookup among the jobs of another tenant. -/
theorem JobsAgree.find_eq (h : JobsAgree removed tables tables') {wanted : JobRow → Bool}
    (hkept : ∀ row, wanted row = true → row.tenantId ≠ removed) :
    tables.jobs.find wanted = tables'.jobs.find wanted := by
  apply h.jobs.find_same
  exact fun row hrow => decide_eq_true (hkept row hrow)

/-- The row of a job of another tenant. -/
theorem JobsAgree.findRow_eq (h : JobsAgree removed tables tables') (hkey : key.tenantId ≠ removed) :
    tables.findRow key = tables'.findRow key := by
  apply h.find_eq
  intro row hrow
  rw [decide_eq_true_eq] at hrow
  exact fun htenant => hkey (by rw [← hrow]; exact htenant)

/-- The events of a job of another tenant. -/
theorem JobsAgree.events_eq (h : JobsAgree removed tables tables') (hkey : key.tenantId ≠ removed) :
    (tables.events.select fun event => event.key = key) = tables'.events.select fun event => event.key = key := by
  apply h.events.select_same
  intro event hevent
  rw [decide_eq_true_eq] at hevent
  exact decide_eq_true fun htenant => hkey (by rw [← hevent]; exact htenant)

/-- The view of a job of another tenant. -/
theorem JobsAgree.view_eq (h : JobsAgree removed tables tables') (hkey : key.tenantId ≠ removed) :
    tables.view key = tables'.view key := by
  have hlog : tables.jobLog key = tables'.jobLog key := by
    rw [JobTables.jobLog, JobTables.jobLog, h.events_eq hkey]
  rw [JobTables.view, JobTables.view, h.findRow_eq hkey, hlog]

/-- The next event of a job of another tenant. -/
theorem JobsAgree.nextEvent_eq (h : JobsAgree removed tables tables') (hkey : key.tenantId ≠ removed)
    (kind : String) (payload : Document) (now : Instant) :
    tables.nextEvent key kind payload now = tables'.nextEvent key kind payload now := by
  rw [JobTables.nextEvent, JobTables.nextEvent, h.events_eq hkey]

variable {change : JobRecord → JobRecord}

/-- An update changes no tenant. -/
theorem update_tenantId (hchange : KeepsIdentity change) (row : JobRow) :
    decide ((JobColumns.setRecord row (change (JobColumns.record row))).tenantId ≠ removed) =
      decide (row.tenantId ≠ removed) := by
  have htenant : (JobColumns.setRecord row (change (JobColumns.record row))).tenantId = row.tenantId :=
    hchange.tenantId row.toJobRecord
  rw [htenant]

/-- Updating a job in both keeps the agreement. -/
theorem JobsAgree.updateJob (h : JobsAgree removed tables tables') (key : JobKey) (condition : JobRecord → Bool)
    (hchange : KeepsIdentity change) :
    JobsAgree removed (tables.updateJob key condition change hchange)
      (tables'.updateJob key condition change hchange) where
  jobs := h.jobs.update hchange.keepsKeys hchange.keepsKeys (fun row _ => update_tenantId hchange row) (fun row _ => update_tenantId hchange row)
    (fun _ => rfl) fun _ => rfl
  events := h.events

/-- Updating a job of the tenant keeps the agreement. -/
theorem JobsAgree.updateJob_outside (h : JobsAgree removed tables tables') (hkey : key.tenantId = removed)
    (condition : JobRecord → Bool) (hchange : KeepsIdentity change) :
    JobsAgree removed (tables.updateJob key condition change hchange) tables' where
  jobs := by
    apply h.jobs.update_outside hchange.keepsKeys
    · intro row hrow
      rw [Bool.and_eq_true, decide_eq_true_eq] at hrow
      have htenant : row.tenantId = key.tenantId := congrArg JobKey.tenantId hrow.1
      exact decide_eq_false fun hne => hne (htenant.trans hkey)
    · exact fun row _ => update_tenantId hchange row
  events := h.events

/-- A job that is stored has a row. -/
theorem exists_row_iff (tables : JobTables JobRow) (key : JobKey) :
    (∃ row ∈ tables.jobs.rows, (JobColumns.record row).key = key) ↔ (tables.findRow key).isSome := by
  constructor
  · rintro ⟨row, hrow, rfl⟩
    rw [JobTables.findRow_of_mem hrow]
    rfl
  · intro hsome
    obtain ⟨row, hrow⟩ := Option.isSome_iff_exists.mp hsome
    exact ⟨row, (Table.find_eq_some hrow).1, JobTables.findRow_key hrow⟩

/-- What appending an event does to the tables. -/
theorem appendEvent_rows (tables : JobTables JobRow) (key : JobKey) (kind : String) (payload : Document)
    (now : Instant) : (tables.appendEvent key kind payload now).jobs = tables.jobs ∧
      (tables.appendEvent key kind payload now).events.rows = tables.events.rows ++
        if (tables.findRow key).isSome then [tables.nextEvent key kind payload now] else [] := by
  unfold JobTables.appendEvent
  split
  · next hjob =>
    rw [if_pos ((exists_row_iff tables key).mp hjob)]
    exact ⟨rfl, rfl⟩
  · next hjob =>
    rw [if_neg fun hsome => hjob ((exists_row_iff tables key).mpr hsome)]
    exact ⟨rfl, (List.append_nil _).symm⟩

/-- Appending an event to a job of another tenant in both keeps the agreement. -/
theorem JobsAgree.appendEvent (h : JobsAgree removed tables tables') (hkey : key.tenantId ≠ removed)
    (kind : String) (payload : Document) (now : Instant) :
    JobsAgree removed (tables.appendEvent key kind payload now) (tables'.appendEvent key kind payload now) := by
  obtain ⟨hjobs, hevents⟩ := appendEvent_rows tables key kind payload now
  obtain ⟨hjobs', hevents'⟩ := appendEvent_rows tables' key kind payload now
  refine ⟨by rw [hjobs, hjobs']; exact h.jobs, ?_⟩
  rw [← h.findRow_eq hkey] at hevents'
  have hkept : decide ((tables.nextEvent key kind payload now).tenantId ≠ removed) = true := decide_eq_true hkey
  split at hevents
  · next hsome =>
    rw [if_pos hsome, ← h.nextEvent_eq hkey] at hevents'
    exact h.events.append hkept hkept rfl hevents hevents'
  · next hnone =>
    rw [if_neg hnone] at hevents'
    simp only [Table.Mirrors, Table.select, hevents, hevents', List.append_nil]
    exact h.events

/-- Appending an event to a job of the tenant keeps the agreement. -/
theorem JobsAgree.appendEvent_outside (h : JobsAgree removed tables tables') (hkey : key.tenantId = removed)
    (kind : String) (payload : Document) (now : Instant) :
    JobsAgree removed (tables.appendEvent key kind payload now) tables' := by
  obtain ⟨hjobs, hevents⟩ := appendEvent_rows tables key kind payload now
  refine ⟨by rw [hjobs]; exact h.jobs, ?_⟩
  split at hevents
  · exact h.events.append_outside (decide_eq_false fun hne => hne hkey) hevents
  · simp only [Table.Mirrors, Table.select, hevents, List.append_nil]
    exact h.events

/-- A new job of another tenant is refused in both or keeps the agreement, if its id is new. -/
theorem JobsAgree.insertRow (h : JobsAgree removed tables tables') {row : JobRow}
    (hrow : row.tenantId ≠ removed) (hnew : ∀ old ∈ tables.jobs.rows, old.id ≠ row.id)
    (hnew' : ∀ old ∈ tables'.jobs.rows, old.id ≠ row.id) :
    (tables.insertRow row = none ∧ tables'.insertRow row = none) ∨
      ∃ inserted inserted', tables.insertRow row = some inserted ∧ tables'.insertRow row = some inserted' ∧
        JobsAgree removed inserted inserted' := by
  have hfree : ∀ (old : JobRow), old.id ≠ row.id → decide (old.tenantId ≠ removed) = false →
      ¬ JobColumns.Conflict old row := by
    rintro old hid hkept (hsame | ⟨htenant, -⟩)
    · exact hid hsame
    · exact of_decide_eq_false hkept fun hremoved => hrow (htenant.symm.trans hremoved)
  have hiff := h.jobs.free_iff (fun old hold => hfree old (hnew old hold))
    (fun old hold => hfree old (hnew' old hold)) fun _ _ _ => Iff.rfl
  by_cases hnone : ∀ old ∈ tables.jobs.rows, ¬ JobColumns.Conflict old row
  · refine Or.inr ⟨_, _, dif_pos hnone, dif_pos (hiff.mp hnone), ?_, h.events⟩
    exact h.jobs.append (decide_eq_true hrow) (decide_eq_true hrow) rfl rfl rfl
  · exact Or.inl ⟨dif_neg hnone, dif_neg fun hnone' => hnone (hiff.mpr hnone')⟩

/-- A new job of the tenant keeps the agreement. -/
theorem JobsAgree.insertRow_outside (h : JobsAgree removed tables tables') {row : JobRow}
    (hrow : row.tenantId = removed) {inserted : JobTables JobRow} (hinsert : tables.insertRow row = some inserted) :
    JobsAgree removed inserted tables' := by
  unfold JobTables.insertRow at hinsert
  split at hinsert
  · cases hinsert
    exact ⟨h.jobs.append_outside (decide_eq_false fun hne => hne hrow) rfl, h.events⟩
  · cases hinsert

end Isolation

end SharedIntegration

import SharedIntegration.Correlations
import SharedIntegration.References
import SharedIntegration.Results

/-!
# Related findings in the store loop

A run reads the registry once, before it adds its first finding, and from then on knows only what it has read and
what it has added itself. For a position of its store loop this file says which findings it has still to add, which
stored findings it should know for their sake, and which correlations it is going to store.
-/

namespace SharedIntegration

open Relational

/-! ### Positions in the store loop -/

/-- The findings that a run which has read the registry has still to add. -/
def Stage.unadded : Stage → List Finding
  | .adding loop => loop.finding :: loop.rest
  | .recording loop | .correlating loop _ _ | .recordingCorrelation loop _ _ _ => loop.rest
  | _ => []

/-- The run is going to store a correlation of these findings. -/
def Stage.WillCorrelate (rule : CorrelationRule) (a b : Finding) : Stage → Prop
  | .recording loop => loop.finding = a ∧ b ∈ loop.existing
  | .correlating loop rules pending => loop.finding = a ∧ b ∈ loop.existing ∧
      (rule ∈ rules ∨ ∃ correlation ∈ pending, a.id ∈ correlation.findings ∧ b.id ∈ correlation.findings)
  | .recordingCorrelation loop rules _ pending => loop.finding = a ∧ b ∈ loop.existing ∧
      (rule ∈ rules ∨ ∃ correlation ∈ pending, a.id ∈ correlation.findings ∧ b.id ∈ correlation.findings)
  | _ => False

/-- The same for a run. -/
def Run.WillCorrelate (rule : CorrelationRule) (run : Run) (a b : Finding) : Prop :=
  ∃ stage ∈ run.pc.stage?, stage.WillCorrelate rule a b

/-- A run correlates what its stage does. -/
theorem Run.willCorrelate_iff {rule : CorrelationRule} {run : Run} {a b : Finding} {attempt : ℕ} {stage : Stage}
    (hpc : run.pc = .trying attempt stage) : run.WillCorrelate rule a b ↔ stage.WillCorrelate rule a b := by
  unfold Run.WillCorrelate
  rw [hpc]
  exact ⟨fun ⟨stage', hstage', h⟩ => Option.some.inj hstage' ▸ h, fun h => ⟨stage, rfl, h⟩⟩

/-- Such a run is in its store loop, and does not report its success next. -/
theorem Run.WillCorrelate.stage {rule : CorrelationRule} {run : Run} {a b : Finding} (h : run.WillCorrelate rule a b) :
    ∃ attempt stage, run.pc = .trying attempt stage ∧ stage.WillCorrelate rule a b ∧ stage.phase = .storing ∧
      ∀ count, stage ≠ .succeeding count := by
  obtain ⟨stage, hstage, hwill⟩ := h
  cases hpc : run.pc with
  | trying attempt stage' =>
    rw [hpc] at hstage
    cases hstage
    refine ⟨attempt, stage, rfl, hwill, ?_⟩
    cases stage with
    | recording | correlating | recordingCorrelation => exact ⟨rfl, nofun⟩
    | _ => exact False.elim hwill
  | _ =>
    rw [hpc] at hstage
    cases hstage

/-- The finding ids are in one stored correlation of the tenant. -/
def Database.Correlated (db : Database) (tenantId a b : String) : Prop :=
  ∃ row ∈ db.correlations.rows, row.tenantId = tenantId ∧
    ⟨tenantId, row.id, a⟩ ∈ db.correlationFindings.rows ∧ ⟨tenantId, row.id, b⟩ ∈ db.correlationFindings.rows

instance (db : Database) (tenantId a b : String) : Decidable (db.Correlated tenantId a b) :=
  inferInstanceAs (Decidable (∃ row ∈ db.correlations.rows, row.tenantId = tenantId ∧
    ⟨tenantId, row.id, a⟩ ∈ db.correlationFindings.rows ∧ ⟨tenantId, row.id, b⟩ ∈ db.correlationFindings.rows))

/-- The order of the ids does not matter. -/
theorem Database.Correlated.symm {db : Database} {tenantId a b : String} (h : db.Correlated tenantId a b) :
    db.Correlated tenantId b a := by
  obtain ⟨row, hrow, htenant, ha, hb⟩ := h
  exact ⟨row, hrow, htenant, hb, ha⟩

/-- Correlations stay while rows are only added. -/
theorem Database.Correlated.mono {db db' : Database} {tenantId a b : String} (h : db.Correlated tenantId a b)
    (hrows : ∀ row ∈ db.correlations.rows, row ∈ db'.correlations.rows)
    (hlinks : ∀ link ∈ db.correlationFindings.rows, link ∈ db'.correlationFindings.rows) :
    db'.Correlated tenantId a b := by
  obtain ⟨row, hrow, htenant, ha, hb⟩ := h
  exact ⟨row, hrows row hrow, htenant, hlinks _ ha, hlinks _ hb⟩

/-- A correlation that is stored correlates the ids it names, and keeps the others. -/
theorem FindingLifecycle.insertCorrelation_correlated {db db' : Database} {m : Moment} {tenantId : String}
    {correlation : Correlation} (h : insertCorrelation db m tenantId correlation = some db') :
    (∀ a ∈ correlation.findings, ∀ b ∈ correlation.findings, db'.Correlated tenantId a b) ∧
      ∀ tenantId a b, db.Correlated tenantId a b → db'.Correlated tenantId a b := by
  have hlinks := fun link => @mem_insertCorrelation db db' m tenantId correlation h link
  obtain ⟨row, hnew, hid, htenant⟩ : ∃ row, db'.correlations.rows = db.correlations.rows ++ [row] ∧
      row.id = "corr_" ++ m.uuid ∧ row.tenantId = tenantId := by
    obtain ⟨tenants, correlations, links, -, hinsert, -, rfl⟩ := insertCorrelation_eq_some h
    exact ⟨_, (Table.insert_eq_some hinsert).1, rfl, rfl⟩
  constructor
  · intro a ha b hb
    refine ⟨row, ?_, htenant, (hlinks _).mpr (Or.inr ⟨rfl, hid, ha⟩), (hlinks _).mpr (Or.inr ⟨rfl, hid, hb⟩)⟩
    rw [hnew]
    exact List.mem_append_right _ List.mem_cons_self
  · intro tenantId a b hold
    apply hold.mono
    · intro row hrow
      rw [hnew]
      exact List.mem_append_left _ hrow
    · exact fun link hlink => (hlinks link).mpr (Or.inl hlink)

/-! ### Findings of the scans of a tenant -/

/-- The findings of a scan that has ended for a job of the tenant. -/
def Effect.foundFor (tenantId : String) : Effect → List Finding
  | .scanned key (.findings found) => if key.tenantId = tenantId then found else []
  | _ => []

/-- Findings with different ids and different fingerprints. -/
structure Finding.Apart (core : CoreLibrary) (text : TextLibrary) (a b : Finding) : Prop where
  id : a.id ≠ b.id
  fingerprint : findingFingerprint core text a ≠ findingFingerprint core text b

instance (core : CoreLibrary) (text : TextLibrary) (a b : Finding) : Decidable (Finding.Apart core text a b) :=
  decidable_of_iff (a.id ≠ b.id ∧ findingFingerprint core text a ≠ findingFingerprint core text b)
    ⟨fun ⟨hid, hfingerprint⟩ => ⟨hid, hfingerprint⟩, fun ⟨hid, hfingerprint⟩ => ⟨hid, hfingerprint⟩⟩

section Apart

variable {core : CoreLibrary} {text : TextLibrary} {tenantId : String} {history : List Effect}

/-- Being apart has no direction. -/
theorem Finding.Apart.symm {a b : Finding} (h : Finding.Apart core text a b) : Finding.Apart core text b a :=
  ⟨h.id.symm, h.fingerprint.symm⟩

/-- The call that gave an outcome of a scan. -/
theorem Effect.mem_outcomes {key : JobKey} {outcome : ScanOutcome}
    (h : outcome ∈ history.filterMap (Effect.outcomeOf key)) : Effect.scanned key outcome ∈ history := by
  obtain ⟨effect, heffect, houtcome⟩ := List.mem_filterMap.mp h
  unfold Effect.outcomeOf at houtcome
  split at houtcome
  · next other outcome' =>
    split at houtcome
    · next hkey =>
      cases houtcome
      exact hkey ▸ heffect
    · cases houtcome
  · cases houtcome

/-- The findings of one scan are apart if all findings are. -/
theorem apart_of_scan (hapart : (history.flatMap (Effect.foundFor tenantId)).Pairwise (Finding.Apart core text))
    {key : JobKey} (hkey : key.tenantId = tenantId) {found : List Finding}
    (hfound : ScanOutcome.findings found ∈ history.filterMap (Effect.outcomeOf key)) :
    found.Pairwise (Finding.Apart core text) := by
  have hscan := (List.pairwise_flatMap.mp hapart).1 _ (Effect.mem_outcomes hfound)
  rw [Effect.foundFor, if_pos hkey] at hscan
  exact hscan

/-- The findings of scans of different jobs are apart if all findings are. -/
theorem apart_of_scans (hapart : (history.flatMap (Effect.foundFor tenantId)).Pairwise (Finding.Apart core text))
    {key key' : JobKey} (hkey : key.tenantId = tenantId) (hkey' : key'.tenantId = tenantId) (hne : key ≠ key')
    {found found' : List Finding} (hfound : ScanOutcome.findings found ∈ history.filterMap (Effect.outcomeOf key))
    (hfound' : ScanOutcome.findings found' ∈ history.filterMap (Effect.outcomeOf key')) {a b : Finding}
    (ha : a ∈ found) (hb : b ∈ found') : Finding.Apart core text a b := by
  have hsymm : Std.Symm fun e e' : Effect => ∀ x ∈ e.foundFor tenantId, ∀ y ∈ e'.foundFor tenantId,
      Finding.Apart core text x y := ⟨fun e e' h x hx y hy => (h y hy x hx).symm⟩
  have hscans := (List.pairwise_flatMap.mp hapart).2.forall (Effect.mem_outcomes hfound) (Effect.mem_outcomes hfound')
    fun heq => hne (by cases heq; rfl)
  rw [Effect.foundFor, if_pos hkey, Effect.foundFor, if_pos hkey'] at hscans
  exact hscans a ha b hb

end Apart

/-! ### What the runs of a tenant know and have still to correlate -/

section Seen

variable {core : CoreLibrary} {text : TextLibrary} {window : ℕ} {db db' : Database} {run : Run}

/-- Every stored finding that is related to one that the stage has still to add is known to it. -/
def Stage.Seen (core : CoreLibrary) (window : ℕ) (db : Database) (tenantId : String) (stage : Stage) : Prop :=
  ∀ finding ∈ stage.unadded, ∀ row ∈ db.findings.rows, row.tenantId = tenantId →
    SameHostMultiSourceRule.Related window (row.finding core) finding → row.finding core ∈ stage.known

/-- The same for a run and the findings of its tenant. -/
def Run.Seen (core : CoreLibrary) (window : ℕ) (db : Database) (run : Run) : Prop :=
  ∀ stage ∈ run.pc.stage?, stage.Seen core window db run.key.tenantId

/-- A stage that adds nothing more has nothing to know. -/
theorem Stage.seen_of_unadded {tenantId : String} {stage : Stage} (h : stage.unadded = []) :
    stage.Seen core window db tenantId := by
  intro finding hfinding
  rw [h] at hfinding
  exact absurd hfinding List.not_mem_nil

/-- Only the store loop adds findings. -/
theorem Stage.unadded_of_phase {stage : Stage} (h : stage.phase ≠ .storing) : stage.unadded = [] := by
  cases stage with
  | storing | adding | recording | correlating | recordingCorrelation | succeeding => exact absurd rfl h
  | _ => rfl

/-- A run outside the store loop has nothing to know. -/
theorem Run.seen_of_phase (h : run.pc.phase ≠ .storing) : run.Seen core window db := by
  intro stage hstage
  cases hpc : run.pc with
  | trying attempt stage' =>
    rw [hpc] at h hstage
    cases hstage
    exact Stage.seen_of_unadded (Stage.unadded_of_phase h)
  | _ =>
    rw [hpc] at hstage
    cases hstage

/-- A run knows what its stage knows. -/
theorem Run.seen_iff {attempt : ℕ} {stage : Stage} (hpc : run.pc = .trying attempt stage) :
    run.Seen core window db ↔ stage.Seen core window db run.key.tenantId := by
  unfold Run.Seen
  rw [hpc]
  exact ⟨fun h => h stage rfl, fun h stage' hstage' => Option.some.inj hstage' ▸ h⟩

/-- While no finding of the tenant is added, what a run knows is enough. -/
theorem Run.Seen.mono (hseen : run.Seen core window db)
    (h : ∀ row ∈ db'.findings.rows, row.tenantId = run.key.tenantId → row ∈ db.findings.rows) :
    run.Seen core window db' :=
  fun stage hstage finding hfinding row hrow htenant => hseen stage hstage finding hfinding row
    (h row hrow htenant) htenant

/-- The head of the store loop knows enough if its snapshot does. -/
theorem storeNext_seen {tenantId : String} {existing rest : List Finding} {count : ℕ}
    (h : ∀ finding ∈ rest, ∀ row ∈ db.findings.rows, row.tenantId = tenantId →
      SameHostMultiSourceRule.Related window (row.finding core) finding → row.finding core ∈ existing) :
    (storeNext existing count rest).Seen core window db tenantId := by
  cases rest with
  | nil => exact Stage.seen_of_unadded rfl
  | cons finding rest => exact h

end Seen

end SharedIntegration

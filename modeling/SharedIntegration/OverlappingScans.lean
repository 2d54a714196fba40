import SharedIntegration.RelatedFindings
import SharedIntegration.DoomedJobs

/-!
# Correlations of overlapping scans

Of two related findings the later one is compared with the earlier one if its run had read it. So all related findings
end up correlated as long as no run adds a finding that another run, which has read the registry already, will add a
related finding to.
-/

namespace SharedIntegration

open Transition Relational

namespace System

/-- The rule is evaluated in every run of the tenant, and of two related findings of the tenant that are stored, a
stored correlation contains both or a run of the tenant is going to store one. -/
structure Correlating (core : CoreLibrary) (text : TextLibrary) (window : ℕ) (tenantId : String)
    (history : List Effect) (s : System Database) : Prop where
  rules : ∀ run ∈ s.runs, run.key.tenantId = tenantId →
    SameHostMultiSourceRule.correlate core window ∈ run.executor.correlations
  columns : ∀ row ∈ s.world.findings.rows, row.tenantId = tenantId → row.findingId = (row.finding core).id ∧
    row.fingerprint = findingFingerprint core text (row.finding core)
  added : ∀ row ∈ s.world.findings.rows, row.tenantId = tenantId → ∃ key : JobKey, key.tenantId = tenantId ∧
    row.finding core ∈ history.filterMap (Effect.findingOf key)
  seen : ∀ run ∈ s.runs, run.key.tenantId = tenantId → run.Seen core window s.world
  pairs : ∀ row ∈ s.world.findings.rows, ∀ row' ∈ s.world.findings.rows, row.tenantId = tenantId →
    row'.tenantId = tenantId → SameHostMultiSourceRule.Related window (row.finding core) (row'.finding core) →
    s.world.Correlated tenantId row.findingId row'.findingId ∨ ∃ run ∈ s.runs, run.key.tenantId = tenantId ∧
      (run.WillCorrelate (SameHostMultiSourceRule.correlate core window) (row.finding core) (row'.finding core) ∨
        run.WillCorrelate (SameHostMultiSourceRule.correlate core window) (row'.finding core) (row.finding core))

/-- What a run adds was found by a scan of its job. -/
def AddsScanned (history : List Effect) : Prop :=
  ∀ key : JobKey, ∀ finding ∈ history.filterMap (Effect.findingOf key),
    ∃ found, ScanOutcome.findings found ∈ history.filterMap (Effect.outcomeOf key) ∧ finding ∈ found

/-- No other run of the tenant that has read the registry has still to add a finding that is related to the one that
is added now. -/
def AddsUnobserved (window : ℕ) (tenantId : String) (s : System Database) (label : Label) : Prop :=
  match label.action with
  | .run index _ => ∀ run ∈ s.runs[index]?, run.key.tenantId = tenantId → ∀ finding ∈ run.pc.adding?,
      ∀ other ∈ s.runs.eraseIdx index, other.key.tenantId = tenantId → ∀ stage ∈ other.pc.stage?,
        ∀ later ∈ stage.unadded, ¬ SameHostMultiSourceRule.Related window finding later
  | _ => True

instance (window : ℕ) (tenantId : String) (s : System Database) : ∀ label, Decidable (AddsUnobserved window tenantId s label)
  | ⟨.run index _, _⟩ => inferInstanceAs (Decidable (∀ run ∈ s.runs[index]?, run.key.tenantId = tenantId →
      ∀ finding ∈ run.pc.adding?, ∀ other ∈ s.runs.eraseIdx index, other.key.tenantId = tenantId →
        ∀ stage ∈ other.pc.stage?, ∀ later ∈ stage.unadded, ¬ SameHostMultiSourceRule.Related window finding later))
  | ⟨.scanRequest .., _⟩ | ⟨.scan .., _⟩ | ⟨.deliver .., _⟩ | ⟨.requestCancel _, _⟩
  | ⟨.cancelRead _, _⟩ | ⟨.cancelWrite _, _⟩ => isTrue trivial

/-- A message of the tenant is delivered to an executor with the rule. -/
def DeliversRule (core : CoreLibrary) (window : ℕ) (tenantId : String) (label : Label) : Prop :=
  ∀ executor key, label.action = .deliver executor key → key.tenantId = tenantId →
    SameHostMultiSourceRule.correlate core window ∈ executor.correlations

section Steps

variable {core : CoreLibrary} {text : TextLibrary} {window : ℕ} {tenantId : String} {history : List Effect}
  {s s' : System Database} {label : Label} {event : RunEvent} {before after : List Run} {run run' : Run}
  {v v' : JobView} {appended : List Document}

/-- The runs after a step of one of them. -/
theorem RunStep.runs_cases {World : Type} {backend : Backend World} {s s' : System World}
    (h : RunStep backend s label s' event before run run' after v v' appended) {other : Run} (hother : other ∈ s'.runs) :
    other = run' ∨ other ∈ before ++ after := by
  rw [h.runs'] at hother
  rcases List.mem_append.mp hother with hbefore | hother
  · exact Or.inr (List.mem_append_left _ hbefore)
  · rcases List.mem_cons.mp hother with rfl | hafter
    · exact Or.inl rfl
    · exact Or.inr (List.mem_append_right _ hafter)

/-- The runs that did not move were there. -/
theorem RunStep.others {World : Type} {backend : Backend World} {s s' : System World}
    (h : RunStep backend s label s' event before run run' after v v' appended) {other : Run}
    (hother : other ∈ before ++ after) : other ∈ s.runs := by
  rw [h.runs]
  rcases List.mem_append.mp hother with hbefore | hafter
  · exact List.mem_append_left _ hbefore
  · exact List.mem_append_right _ (List.mem_cons_of_mem _ hafter)

/-- Every other run stays where it is. -/
theorem RunStep.kept {World : Type} {backend : Backend World} {s s' : System World}
    (h : RunStep backend s label s' event before run run' after v v' appended) {other : Run} (hother : other ∈ s.runs)
    (hne : other ≠ run) : other ∈ s'.runs := by
  rw [h.runs] at hother
  rw [h.runs']
  rcases List.mem_append.mp hother with hbefore | hother
  · exact List.mem_append_left _ hbefore
  · exact List.mem_append_right _ (List.mem_cons_of_mem _ ((List.mem_cons.mp hother).resolve_left hne))

/-- A step that stores no finding of the tenant keeps what has been correlated so, as long as the run that moves
does. -/
theorem Correlating.advance (hs : Correlating core text window tenantId history s)
    (hsplit : RunStep (relationalBackend core text) s label s' event before run run' after v v' appended)
    (hrows : ∀ row ∈ s'.world.findings.rows, row.tenantId = tenantId → row ∈ s.world.findings.rows)
    (hcorrelated : ∀ a b, s.world.Correlated tenantId a b → s'.world.Correlated tenantId a b)
    (hseen : run.key.tenantId = tenantId → run.Seen core window s'.world → run'.Seen core window s'.world)
    (hwill : run.key.tenantId = tenantId → ∀ row ∈ s.world.findings.rows, ∀ row' ∈ s.world.findings.rows,
      row.tenantId = tenantId → row'.tenantId = tenantId →
      SameHostMultiSourceRule.Related window (row.finding core) (row'.finding core) →
      run.WillCorrelate (SameHostMultiSourceRule.correlate core window) (row.finding core) (row'.finding core) →
      run'.WillCorrelate (SameHostMultiSourceRule.correlate core window) (row.finding core) (row'.finding core) ∨
        s'.world.Correlated tenantId row.findingId row'.findingId) :
    Correlating core text window tenantId (history ++ s.effects label) s' := by
  obtain ⟨hkey, hexecutor⟩ := hsplit.move.arguments
  have hmem : run ∈ s.runs := by simp [hsplit.runs]
  have hmem' : run' ∈ s'.runs := by simp [hsplit.runs']
  have hkept : ∀ {other}, other ∈ s.runs → other.key.tenantId = tenantId → other.Seen core window s'.world := by
    intro other hother htenant
    exact (hs.seen other hother htenant).mono fun row hrow hrowTenant => hrows row hrow (hrowTenant.trans htenant)
  constructor
  · intro other hother htenant
    rcases hsplit.runs_cases hother with rfl | hother
    · rw [hkey] at htenant
      rw [hexecutor]
      exact hs.rules run hmem htenant
    · exact hs.rules other (hsplit.others hother) htenant
  · exact fun row hrow htenant => hs.columns row (hrows row hrow htenant) htenant
  · intro row hrow htenant
    obtain ⟨key, hkeyTenant, hadded⟩ := hs.added row (hrows row hrow htenant) htenant
    exact ⟨key, hkeyTenant, by rw [List.filterMap_append]; exact List.mem_append_left _ hadded⟩
  · intro other hother htenant
    rcases hsplit.runs_cases hother with rfl | hother
    · rw [hkey] at htenant
      exact hseen htenant (hkept hmem htenant)
    · exact hkept (hsplit.others hother) htenant
  · intro row hrow row' hrow' htenant htenant' hrelated
    have hold := hrows row hrow htenant
    have hold' := hrows row' hrow' htenant'
    rcases hs.pairs row hold row' hold' htenant htenant' hrelated with hdone | ⟨other, hother, hotherTenant, hpending⟩
    · exact Or.inl (hcorrelated _ _ hdone)
    · by_cases hsame : other = run
      · subst hsame
        rcases hpending with hforward | hback
        · rcases hwill hotherTenant row hold row' hold' htenant htenant' hrelated hforward with hstill | hdone
          · exact Or.inr ⟨run', hmem', hkey ▸ hotherTenant, Or.inl hstill⟩
          · exact Or.inl hdone
        · rcases hwill hotherTenant row' hold' row hold htenant' htenant hrelated.symm hback with hstill | hdone
          · exact Or.inr ⟨run', hmem', hkey ▸ hotherTenant, Or.inr hstill⟩
          · exact Or.inl hdone.symm
      · exact Or.inr ⟨other, hsplit.kept hother hsame, hotherTenant, hpending⟩

/-- What a run adds was found by a scan of its job. -/
theorem AddsScanned.step {World : Type} {backend : Backend World} {s s' : System World}
    (hs : AddsScanned history) (hcounted : Counted backend s) (hfiled : ∀ key, FiledOnce backend key history s)
    (hsplit : RunStep backend s label s' event before run run' after v v' appended) :
    AddsScanned (history ++ s.effects label) := by
  intro key finding hfinding
  rw [List.filterMap_append] at hfinding ⊢
  rcases List.mem_append.mp hfinding with hold | hnew
  · obtain ⟨found, hfound, hmem⟩ := hs key finding hold
    exact ⟨found, List.mem_append_left _ hfound, hmem⟩
  · rw [hsplit.effects] at hnew
    obtain ⟨effect, heffect, hadded⟩ := List.mem_filterMap.mp hnew
    obtain ⟨attempt, loop, hpc, rfl⟩ : ∃ attempt loop, run.pc = .trying attempt (.adding loop) ∧
        effect = .added run.key loop.finding := by
      unfold Run.effects at heffect
      split at heffect
      case h_4 attempt loop hpc => exact ⟨attempt, loop, hpc, List.mem_singleton.mp heffect⟩
      all_goals
        first
          | exact absurd heffect List.not_mem_nil
          | rw [List.mem_singleton.mp heffect] at hadded
            cases hadded
    change (if run.key = key then some loop.finding else none) = some finding at hadded
    split at hadded
    · next hkey =>
      cases hadded
      subst hkey
      have hmem : run ∈ s.runs := by simp [hsplit.runs]
      have hclaims := (hcounted.runs run hmem).queuedClaims_pos hpc
      have hposition := (hfiled run.key).runs run hmem rfl hclaims
      rw [hpc] at hposition
      obtain ⟨handled, hat, -⟩ := hposition
      exact ⟨_, List.mem_append_left _ (List.mem_of_getLast? hat.scan),
        List.mem_append_right _ List.mem_cons_self⟩
    · cases hadded

/-- A finding that a run adds is apart from all that are stored, if all findings of the scans are apart. -/
theorem Correlating.apart_of_adding (hs : Correlating core text window tenantId history s)
    (hcounted : Counted (relationalBackend core text) s)
    (hfiled : ∀ key, FiledOnce (relationalBackend core text) key history s) (hscanned : AddsScanned history)
    (hapart : (history.flatMap (Effect.foundFor tenantId)).Pairwise (Finding.Apart core text)) (hmem : run ∈ s.runs)
    (htenant : run.key.tenantId = tenantId) {attempt : ℕ} {loop : StoreLoop}
    (hpc : run.pc = .trying attempt (.adding loop)) {row : FindingRow} (hrow : row ∈ s.world.findings.rows)
    (hrowTenant : row.tenantId = tenantId) : Finding.Apart core text (row.finding core) loop.finding := by
  have hposition := (hfiled run.key).runs run hmem rfl ((hcounted.runs run hmem).queuedClaims_pos hpc)
  rw [hpc] at hposition
  obtain ⟨handled, hat, hhandled, -⟩ := hposition
  have hscan := List.mem_of_getLast? hat.scan
  obtain ⟨key, hkeyTenant, hadded⟩ := hs.added row hrow hrowTenant
  by_cases hkey : key = run.key
  · subst hkey
    rw [hhandled] at hadded
    have hparts := List.pairwise_append.mp (apart_of_scan hapart htenant hscan)
    exact hparts.2.2 _ hadded _ List.mem_cons_self
  · obtain ⟨found, hfound, hin⟩ := hscanned key _ hadded
    exact apart_of_scans hapart hkeyTenant htenant hkey hfound hscan hin
      (List.mem_append_right _ List.mem_cons_self)

/-- A finding that is apart from all stored ones of its tenant becomes a row of its own. -/
theorem storeFinding_apart {db db' : Database} {m : Moment} {finding : Finding} {jobId : Option String}
    (h : FindingLifecycle.storeFinding core text db m tenantId finding jobId = some db')
    (hcolumns : ∀ row ∈ db.findings.rows, row.tenantId = tenantId →
      row.fingerprint = findingFingerprint core text (row.finding core))
    (hapart : ∀ row ∈ db.findings.rows, row.tenantId = tenantId → Finding.Apart core text (row.finding core) finding) :
    ∃ new : FindingRow, db'.findings.rows = db.findings.rows ++ [new] ∧ new.tenantId = tenantId ∧
      new.findingId = finding.id ∧ new.fingerprint = findingFingerprint core text finding ∧
      new.finding core = finding := by
  rcases FindingLifecycle.storeFinding_cases h with ⟨-, hinsert⟩ | ⟨row, -, -, hrow, -, -⟩
  · refine ⟨_, (Table.insert_eq_some hinsert).1, rfl, rfl, rfl, ?_⟩
    exact core.fromDict_toDict finding
  · obtain ⟨hmem, hkeys⟩ := Table.find_eq_some hrow
    obtain ⟨htenant, hfingerprint⟩ := of_decide_eq_true hkeys
    exact absurd ((hcolumns row hmem htenant).symm.trans hfingerprint) (hapart row hmem htenant).fingerprint

/-- Storing a finding of another tenant adds no finding of this one. -/
theorem storeFinding_other {db db' : Database} {m : Moment} {other : String} {finding : Finding}
    {jobId : Option String} (h : FindingLifecycle.storeFinding core text db m other finding jobId = some db')
    (hother : other ≠ tenantId) : ∀ row ∈ db'.findings.rows, row.tenantId = tenantId → row ∈ db.findings.rows := by
  intro row hrow htenant
  rcases FindingLifecycle.storeFinding_cases h with ⟨-, hinsert⟩ | ⟨found, change, hchange, hfound, hfindings, hmerge⟩
  · rw [(Table.insert_eq_some hinsert).1] at hrow
    rcases List.mem_append.mp hrow with hold | hnew
    · exact hold
    · rw [List.mem_singleton.mp hnew] at htenant
      exact absurd htenant hother
  · rw [hfindings] at hrow
    rcases FindingLifecycle.mem_updateFingerprint hchange hfound hrow with rfl | ⟨hold, -⟩
    · have hsame := (FindingRow.merged_id hmerge found).1
      obtain ⟨-, hkeys⟩ := Table.find_eq_some hfound
      exact absurd ((of_decide_eq_true hkeys).1.symm.trans (hsame.symm.trans htenant)) hother
    · exact hold

/-- A run that adds a finding of the tenant has read all that are related to it, or it is known to no one; from then
on it is going to correlate it. -/
theorem Correlating.add (hs : Correlating core text window tenantId history s)
    (hapart : ∀ row ∈ s.world.findings.rows, row.tenantId = tenantId → ∀ loop attempt,
      run.pc = .trying attempt (.adding loop) → Finding.Apart core text (row.finding core) loop.finding)
    (hsplit : RunStep (relationalBackend core text) s label s' event before run run' after v v' appended)
    (htenant : run.key.tenantId = tenantId) {attempt : ℕ} {loop : StoreLoop}
    (hpc : run.pc = .trying attempt (.adding loop)) (hpc' : run'.pc = .trying attempt (.recording loop))
    (hstore : FindingLifecycle.storeFinding core text s.world label.moment run.key.tenantId loop.finding
      (some run.key.jobId) = some s'.world)
    (hguard : ∀ other ∈ before ++ after, other.key.tenantId = tenantId → ∀ stage ∈ other.pc.stage?,
      ∀ later ∈ stage.unadded, ¬ SameHostMultiSourceRule.Related window loop.finding later) :
    Correlating core text window tenantId (history ++ s.effects label) s' := by
  obtain ⟨hkey, hexecutor⟩ := hsplit.move.arguments
  have hmem : run ∈ s.runs := by simp [hsplit.runs]
  have hmem' : run' ∈ s'.runs := by simp [hsplit.runs']
  rw [htenant] at hstore
  obtain ⟨new, hrows, hnewTenant, hnewId, hnewFingerprint, hnew⟩ := storeFinding_apart hstore
    (fun row hrow hrowTenant => (hs.columns row hrow hrowTenant).2)
    fun row hrow hrowTenant => hapart row hrow hrowTenant loop attempt hpc
  obtain ⟨-, hcorrelations, hlinks⟩ := FindingLifecycle.storeFinding_same core text hstore
  have hcases : ∀ row ∈ s'.world.findings.rows, row ∈ s.world.findings.rows ∨ row = new := by
    intro row hrow
    rw [hrows] at hrow
    exact (List.mem_append.mp hrow).imp id List.mem_singleton.mp
  have hcorrelated : ∀ a b, s.world.Correlated tenantId a b → s'.world.Correlated tenantId a b := by
    intro a b hold
    apply hold.mono
    · exact fun row hrow => hcorrelations ▸ hrow
    · exact fun link hlink => hlinks ▸ hlink
  have hread := (Run.seen_iff hpc).mp (hs.seen run hmem htenant)
  have hadded : loop.finding ∈ (s.effects label).filterMap (Effect.findingOf run.key) := by
    obtain ⟨hevent⟩ : event = .advance ∧ True := by
      have hfiling := hsplit.filing
      cases hfiling with
      | add hpc₂ hevent => exact ⟨hevent, trivial⟩
      | outside hbefore => rw [hpc] at hbefore; cases hbefore
      | leave hover => rw [hpc'] at hover; cases hover
      | settle hpc₂ | accept hpc₂ | load hpc₂ | record hpc₂ | evaluate hpc₂ | correlate hpc₂
      | recordCorrelation hpc₂ | next hpc₂ =>
        rw [hpc] at hpc₂
        cases hpc₂
    rw [hsplit.effects, hevent]
    simp [Run.effects, hpc, Effect.findingOf]
  constructor
  · intro other hother hotherTenant
    rcases hsplit.runs_cases hother with rfl | hother
    · rw [hexecutor]
      exact hs.rules run hmem htenant
    · exact hs.rules other (hsplit.others hother) hotherTenant
  · intro row hrow hrowTenant
    rcases hcases row hrow with hold | rfl
    · exact hs.columns row hold hrowTenant
    · rw [hnew]
      exact ⟨hnewId, hnewFingerprint⟩
  · intro row hrow hrowTenant
    rcases hcases row hrow with hold | rfl
    · obtain ⟨key, hkeyTenant, hmemAdded⟩ := hs.added row hold hrowTenant
      exact ⟨key, hkeyTenant, by rw [List.filterMap_append]; exact List.mem_append_left _ hmemAdded⟩
    · rw [hnew]
      exact ⟨run.key, htenant, by rw [List.filterMap_append]; exact List.mem_append_right _ hadded⟩
  · intro other hother hotherTenant
    rcases hsplit.runs_cases hother with rfl | hother
    · rw [Run.seen_iff hpc', hkey]
      intro later hlater row hrow hrowTenant hrelated
      rcases hcases row hrow with hold | rfl
      · exact List.mem_cons_of_mem _ (hread later (List.mem_cons_of_mem _ hlater) row hold hrowTenant hrelated)
      · rw [hnew]
        exact List.mem_cons_self
    · intro stage hstage later hlater row hrow hrowTenant hrelated
      rcases hcases row hrow with hold | rfl
      · exact hs.seen other (hsplit.others hother) hotherTenant stage hstage later hlater row hold hrowTenant hrelated
      · rw [hnew] at hrelated
        exact absurd hrelated (hguard other hother hotherTenant stage hstage later hlater)
  · -- a new finding is related to none but those its run has read
    have hnewest : ∀ row ∈ s.world.findings.rows, row.tenantId = tenantId →
        SameHostMultiSourceRule.Related window (row.finding core) loop.finding →
        run'.WillCorrelate (SameHostMultiSourceRule.correlate core window) loop.finding (row.finding core) := by
      intro row hrow hrowTenant hrelated
      rw [Run.willCorrelate_iff hpc']
      exact ⟨rfl, hread loop.finding List.mem_cons_self row hrow (hrowTenant.trans htenant.symm) hrelated⟩
    intro row hrow row' hrow' hrowTenant hrowTenant' hrelated
    rcases hcases row hrow with hold | rfl
    · rcases hcases row' hrow' with hold' | rfl
      · rcases hs.pairs row hold row' hold' hrowTenant hrowTenant' hrelated with
          hdone | ⟨other, hother, hotherTenant, hpending⟩
        · exact Or.inl (hcorrelated _ _ hdone)
        · have hne : other ≠ run := by
            rintro rfl
            rcases hpending with hforward | hback
            · exact (Run.willCorrelate_iff hpc).mp hforward
            · exact (Run.willCorrelate_iff hpc).mp hback
          exact Or.inr ⟨other, hsplit.kept hother hne, hotherTenant, hpending⟩
      · rw [hnew] at hrelated ⊢
        exact Or.inr ⟨run', hmem', hkey ▸ htenant, Or.inr (hnewest row hold hrowTenant hrelated)⟩
    · rcases hcases row' hrow' with hold' | rfl
      · rw [hnew] at hrelated ⊢
        exact Or.inr ⟨run', hmem', hkey ▸ htenant, Or.inl (hnewest row' hold' hrowTenant' hrelated.symm)⟩
      · exact absurd rfl hrelated.source

/-- Findings of a tenant with one id are one. -/
theorem row_unique_id {db : Database} {row row' : FindingRow} (hrow : row ∈ db.findings.rows)
    (hrow' : row' ∈ db.findings.rows) (htenant : row.tenantId = row'.tenantId)
    (hid : row.findingId = row'.findingId) : row = row' := by
  apply db.findings.eq_of_key (fun other => other.tenantId = row'.tenantId ∧ other.findingId = row'.findingId) _
    hrow hrow' (decide_eq_true ⟨htenant, hid⟩) (decide_eq_true ⟨rfl, rfl⟩)
  intro a b ha hb
  obtain ⟨haTenant, haId⟩ := of_decide_eq_true ha
  obtain ⟨hbTenant, hbId⟩ := of_decide_eq_true hb
  exact Or.inr ⟨haTenant.trans hbTenant.symm, Or.inl (haId.trans hbId.symm)⟩

/-- A run that gives up a correlation dooms its job. -/
theorem RunStep.dooms (hcounted : Counted (relationalBackend core text) s)
    (hfiled : FiledOnce (relationalBackend core text) run.key history s)
    (hsplit : RunStep (relationalBackend core text) s label s' event before run run' after v v' appended)
    {rule : CorrelationRule} {a b : Finding} (hwill : run.WillCorrelate rule a b) (hover : run'.pc.phase = .over) :
    Doomed (relationalBackend core text) run.key s' := by
  obtain ⟨attempt, stage, hpc, -, hstoring, hnotSucceeding⟩ := hwill.stage
  have hmem : run ∈ s.runs := by simp [hsplit.runs]
  have hclaims := (hcounted.runs run hmem).queuedClaims_pos hpc
  have hphase : run.pc.phase = .storing := by rw [hpc]; exact hstoring
  have hbefore : v.record.status ≠ .succeeded := by
    intro hsucceeded
    have hended := (hfiled.succeeded v hsplit.stored hsucceeded).2 run hmem rfl hclaims
    rw [hphase] at hended
    cases hended
  constructor
  · refine ⟨run', by simp [hsplit.runs'], hsplit.move.arguments.1, ?_, hover⟩
    rcases hsplit.move.claim_or_same with ⟨attempt', payload, hclaiming, -⟩ | ⟨-, hsame, -⟩
    · rw [hpc] at hclaiming
      cases hclaiming
    · omega
  · intro u hu hsucceeded
    rw [hsplit.view, Function.update_self, Option.some.injEq] at hu
    subst hu
    obtain ⟨⟨attempt', count, hsucceeding⟩, -⟩ := hsplit.move.success hbefore hsucceeded
    rw [hpc] at hsucceeding
    cases hsucceeding
    exact hnotSucceeding count rfl

/-- Every step of a run keeps what will have been correlated, or dooms a job of the tenant. -/
theorem Correlating.run_step (hs : Correlating core text window tenantId history s)
    (hcounted : Counted (relationalBackend core text) s)
    (hfiled : ∀ key, FiledOnce (relationalBackend core text) key history s) (hscanned : AddsScanned history)
    (hapart : (history.flatMap (Effect.foundFor tenantId)).Pairwise (Finding.Apart core text)) {index : ℕ}
    (haction : label.action = .run index event) (hindex : before.length = index)
    (hsplit : RunStep (relationalBackend core text) s label s' event before run run' after v v' appended)
    (hstep : run.step (relationalBackend core text) s.world label.moment event = some (s'.world, run'))
    (hguard : AddsUnobserved window tenantId s label) :
    (∃ key : JobKey, key.tenantId = tenantId ∧ Doomed (relationalBackend core text) key s') ∨
      Correlating core text window tenantId (history ++ s.effects label) s' := by
  obtain ⟨hkey, hexecutor⟩ := hsplit.move.arguments
  have hmem : run ∈ s.runs := by simp [hsplit.runs]
  have hquiet : SameRegistry s.world s'.world →
      (run.key.tenantId = tenantId → run.Seen core window s'.world → run'.Seen core window s'.world) →
      (∀ a b, run.key.tenantId = tenantId →
        run.WillCorrelate (SameHostMultiSourceRule.correlate core window) a b →
        run'.WillCorrelate (SameHostMultiSourceRule.correlate core window) a b) →
      Correlating core text window tenantId (history ++ s.effects label) s' := by
    intro hsame hseen hwill
    apply hs.advance hsplit
    · exact fun row hrow _ => hsame.findings ▸ hrow
    · exact fun a b hold => hold.mono (fun row hrow => hsame.correlations ▸ hrow)
        fun link hlink => hsame.links ▸ hlink
    · exact hseen
    · exact fun htenant _ _ _ _ _ _ _ hstill => Or.inl (hwill _ _ htenant hstill)
  cases Run.storing_of_step hstep with
  | outside hbefore hafter hsame =>
    right
    apply hquiet hsame
    · intro _ _
      rcases hafter with hafter | ⟨attempt, found, hpc'⟩
      · exact Run.seen_of_phase (by rw [hafter]; decide)
      · exact (Run.seen_iff hpc').mpr (Stage.seen_of_unadded rfl)
    · intro a b _ hwill
      obtain ⟨attempt, stage, hpc, -, hstoring, -⟩ := hwill.stage
      rw [hpc] at hbefore
      exact nomatch hstoring.symm.trans hbefore
  | leave hover hsame =>
    by_cases hgives : run.key.tenantId = tenantId ∧
        ∃ a b, run.WillCorrelate (SameHostMultiSourceRule.correlate core window) a b
    · obtain ⟨htenant, a, b, hwill⟩ := hgives
      exact Or.inl ⟨run.key, htenant, hsplit.dooms hcounted (hfiled run.key) hwill hover⟩
    · right
      apply hquiet hsame
      · exact fun _ _ => Run.seen_of_phase (by rw [hover]; decide)
      · exact fun a b htenant hwill => absurd ⟨htenant, a, b, hwill⟩ hgives
  | @load attempt found hpc hpc' hdb =>
    right
    apply hquiet (hdb ▸ SameRegistry.refl _)
    · intro _ _
      rw [Run.seen_iff hpc', hdb]
      apply storeNext_seen
      intro finding _ row hrow hrowTenant _
      apply List.mem_map_of_mem
      rw [orderBy, List.mem_insertionSort]
      exact List.mem_filter.mpr ⟨hrow, decide_eq_true (hrowTenant.trans (by rw [hkey]))⟩
    · exact fun a b _ hwill => absurd ((Run.willCorrelate_iff hpc).mp hwill) id
  | @add attempt loop hpc hpc' hstore =>
    right
    by_cases htenant : run.key.tenantId = tenantId
    · apply hs.add (fun row hrow hrowTenant loop' attempt' hpc₂ =>
        hs.apart_of_adding hcounted hfiled hscanned hapart hmem htenant hpc₂ hrow hrowTenant) hsplit htenant hpc hpc' hstore
      unfold AddsUnobserved at hguard
      rw [haction] at hguard
      have hfree := hguard run (getElem?_of_split hsplit.runs hindex) htenant loop.finding (by rw [hpc]; rfl)
      rw [eraseIdx_of_split hsplit.runs hindex] at hfree
      exact hfree
    · obtain ⟨-, hcorrelations, hlinks⟩ := FindingLifecycle.storeFinding_same core text hstore
      apply hs.advance hsplit (storeFinding_other hstore htenant)
      · exact fun a b hold => hold.mono (fun row hrow => hcorrelations ▸ hrow) fun link hlink => hlinks ▸ hlink
      · exact fun hsame => absurd hsame htenant
      · exact fun hsame => absurd hsame htenant
  | @record attempt loop stored hpc hpc' happend =>
    right
    obtain ⟨hfindings, hcorrelations, hlinks⟩ := SqlJobs.appendEvent_registry happend
    apply hs.advance hsplit
    · exact fun row hrow _ => hfindings ▸ hrow
    · exact fun a b hold => hold.mono (fun row hrow => hcorrelations ▸ hrow) fun link hlink => hlinks ▸ hlink
    · intro _ hseen
      rw [Run.seen_iff hpc', hkey]
      exact (Run.seen_iff hpc).mp hseen
    · intro htenant _ _ _ _ _ _ _ hwill
      obtain ⟨hfinding, hexisting⟩ := (Run.willCorrelate_iff hpc).mp hwill
      exact Or.inl ((Run.willCorrelate_iff hpc').mpr ⟨hfinding, hexisting, Or.inl (hs.rules run hmem htenant)⟩)
  | @evaluate attempt loop rule rules pending hpc hpc' hrule hdb =>
    right
    apply hs.advance hsplit
    · exact fun row hrow _ => hdb ▸ hrow
    · exact fun a b hold => hdb ▸ hold
    · intro _ hseen
      rw [Run.seen_iff hpc', hkey]
      exact (Run.seen_iff hpc).mp hseen
    · intro _ row hrow row' hrow' hrowTenant hrowTenant' hrelated hwill
      obtain ⟨hfinding, hexisting, hleft⟩ := (Run.willCorrelate_iff hpc).mp hwill
      refine Or.inl ((Run.willCorrelate_iff hpc').mpr ⟨hfinding, hexisting, ?_⟩)
      rcases hleft with hrules | ⟨correlation, hnone, -⟩
      · rcases List.mem_cons.mp hrules with rfl | hlater
        · -- the rule itself is evaluated, on a snapshot with the other finding
          right
          rw [hfinding] at hrule
          apply SameHostMultiSourceRule.correlate_contains hrule hexisting _ hrelated
          intro hid
          have hsame : row = row' := by
            apply row_unique_id hrow hrow' (hrowTenant.trans hrowTenant'.symm)
            rw [(hs.columns row hrow hrowTenant).1, (hs.columns row' hrow' hrowTenant').1, hid]
          exact hrelated.source (by rw [hsame])
        · exact Or.inl hlater
      · exact absurd hnone List.not_mem_nil
  | @correlate attempt loop rules correlation pending hpc hpc' hinsert =>
    right
    obtain ⟨hstored, hcorrelated⟩ := FindingLifecycle.insertCorrelation_correlated hinsert
    obtain ⟨-, hfindings⟩ := FindingLifecycle.insertCorrelation_same hinsert
    apply hs.advance hsplit
    · exact fun row hrow _ => hfindings ▸ hrow
    · exact hcorrelated tenantId
    · intro _ hseen
      rw [Run.seen_iff hpc', hkey]
      exact (Run.seen_iff hpc).mp hseen
    · intro htenant row hrow row' hrow' hrowTenant hrowTenant' hrelated hwill
      obtain ⟨hfinding, hexisting, hleft⟩ := (Run.willCorrelate_iff hpc).mp hwill
      rcases hleft with hrules | ⟨other, hother, ha, hb⟩
      · exact Or.inl ((Run.willCorrelate_iff hpc').mpr ⟨hfinding, hexisting, Or.inl hrules⟩)
      · rcases List.mem_cons.mp hother with rfl | hlater
        · right
          rw [(hs.columns row hrow hrowTenant).1, (hs.columns row' hrow' hrowTenant').1]
          exact htenant ▸ hstored _ ha _ hb
        · exact Or.inl ((Run.willCorrelate_iff hpc').mpr ⟨hfinding, hexisting, Or.inr ⟨other, hlater, ha, hb⟩⟩)
  | @recordCorrelation attempt loop rules correlation pending hpc hpc' hsame =>
    right
    apply hquiet hsame
    · intro _ hseen
      rw [Run.seen_iff hpc', hkey]
      exact (Run.seen_iff hpc).mp hseen
    · exact fun a b _ hwill => (Run.willCorrelate_iff hpc').mpr ((Run.willCorrelate_iff hpc).mp hwill)
  | @next attempt loop hpc hpc' hdb =>
    right
    apply hquiet (hdb ▸ SameRegistry.refl _)
    · intro _ hseen
      rw [Run.seen_iff hpc', hkey]
      apply storeNext_seen
      intro finding hfinding row hrow hrowTenant hrelated
      have hknown := (Run.seen_iff hpc).mp hseen finding hfinding row hrow hrowTenant hrelated
      rcases List.mem_cons.mp hknown with hlast | hexisting
      · exact List.mem_append_right _ (List.mem_singleton.mpr hlast)
      · exact List.mem_append_left _ hexisting
    · intro a b _ hwill
      obtain ⟨-, -, hnone | ⟨correlation, hnone, -⟩⟩ := (Run.willCorrelate_iff hpc).mp hwill
      · exact absurd hnone List.not_mem_nil
      · exact absurd hnone List.not_mem_nil

/-- A step that names no run keeps it too. -/
theorem Correlating.quiet (hs : Correlating core text window tenantId history s)
    (hsame : SameRegistry s.world s'.world)
    (hruns : s'.runs = s.runs ∨ ∃ executor key, label.action = .deliver executor key ∧
      s'.runs = s.runs ++ [Run.fresh executor key])
    (hrule : DeliversRule core window tenantId label) : Correlating core text window tenantId history s' := by
  have hkept : ∀ run ∈ s.runs, run ∈ s'.runs := by
    intro run hrun
    rcases hruns with hruns | ⟨executor, key, -, hruns⟩
    · exact hruns ▸ hrun
    · rw [hruns]
      exact List.mem_append_left _ hrun
  have hcases : ∀ run ∈ s'.runs, run ∈ s.runs ∨
      ∃ executor key, label.action = .deliver executor key ∧ run = Run.fresh executor key := by
    intro run hrun
    rcases hruns with hruns | ⟨executor, key, haction, hruns⟩
    · exact Or.inl (hruns ▸ hrun)
    · rw [hruns] at hrun
      rcases List.mem_append.mp hrun with hold | hnew
      · exact Or.inl hold
      · exact Or.inr ⟨executor, key, haction, List.mem_singleton.mp hnew⟩
  constructor
  · intro run hrun htenant
    rcases hcases run hrun with hold | ⟨executor, key, haction, rfl⟩
    · exact hs.rules run hold htenant
    · exact hrule executor key haction htenant
  · rw [hsame.findings]
    exact hs.columns
  · rw [hsame.findings]
    exact hs.added
  · intro run hrun htenant
    rcases hcases run hrun with hold | ⟨executor, key, -, rfl⟩
    · exact (hs.seen run hold htenant).mono fun row hrow _ => hsame.findings ▸ hrow
    · exact Run.seen_of_phase nofun
  · rw [hsame.findings]
    intro row hrow row' hrow' htenant htenant' hrelated
    rcases hs.pairs row hrow row' hrow' htenant htenant' hrelated with hdone | ⟨run, hrun, hpending⟩
    · exact Or.inl (hdone.mono (fun row hrow => hsame.correlations ▸ hrow) fun link hlink => hsame.links ▸ hlink)
    · exact Or.inr ⟨run, hkept run hrun, hpending⟩

/-- What is known of the system at any time: unless a job of the tenant is doomed or two findings of its scans are not
apart, all related findings will have been correlated. -/
structure Watched (core : CoreLibrary) (text : TextLibrary) (window : ℕ) (tenantId : String) (history : List Effect)
    (s : System Database) : Prop where
  formed : WellFormed (relationalBackend core text) s
  counted : Counted (relationalBackend core text) s
  pending : s.PendingActive
  filed : ∀ key, FiledOnce (relationalBackend core text) key history s
  scanned : AddsScanned history
  correlating : (history.flatMap (Effect.foundFor tenantId)).Pairwise (Finding.Apart core text) →
    (∃ key : JobKey, key.tenantId = tenantId ∧ Doomed (relationalBackend core text) key s) ∨
      Correlating core text window tenantId history s

/-- There is nothing to correlate in a new system. -/
theorem watched_initial : Watched core text window tenantId [] (initial (relationalBackend core text)) where
  formed := wellFormed_initial
  counted := counted_initial
  pending _ hpending := absurd hpending List.not_mem_nil
  filed := filedOnce_initial
  scanned _ _ hfinding := absurd hfinding List.not_mem_nil
  correlating _ := by
    right
    constructor
    · exact fun _ hrun => absurd hrun List.not_mem_nil
    · exact fun _ hrow => absurd hrow List.not_mem_nil
    · exact fun _ hrow => absurd hrow List.not_mem_nil
    · exact fun _ hrun => absurd hrun List.not_mem_nil
    · exact fun _ hrow => absurd hrow List.not_mem_nil

/-- Every step that adds no finding unobserved keeps it so. -/
theorem Watched.step {products : List FindingSource} (hs : Watched core text window tenantId history s)
    (hguard : AddsUnobserved window tenantId s label) (hrule : DeliversRule core window tenantId label)
    (h : s.step (relationalBackend core text) products label = some s') :
    Watched core text window tenantId (history ++ s.effects label) s' := by
  have hfiled : ∀ key, FiledOnce (relationalBackend core text) key (history ++ s.effects label) s' := fun key =>
    (hs.filed key).step hs.formed hs.counted hs.pending h
  have hformed := step_wellFormed hs.formed h
  have hcounted := hs.counted.move (step_move hs.formed h)
  have hpending := hs.pending.step h
  by_cases hmoves : ∃ index event, label.action = .run index event
  · obtain ⟨index, event, haction⟩ := hmoves
    obtain ⟨before, run, run', after, v, v', appended, hsplit, hindex, hstep⟩ := step_run_at hs.formed h haction
    refine ⟨hformed, hcounted, hpending, hfiled, hs.scanned.step hs.counted hs.filed hsplit, fun hlater => ?_⟩
    rw [List.flatMap_append] at hlater
    have hearlier := (List.pairwise_append.mp hlater).1
    rcases hs.correlating hearlier with ⟨key, hkey, hdoomed⟩ | hcorrelating
    · exact Or.inl ⟨key, hkey, hdoomed.step hs.formed hs.counted hs.pending h⟩
    · exact hcorrelating.run_step hs.counted hs.filed hs.scanned hearlier haction hindex hsplit hstep hguard
  · have hother : ∀ index event, label.action ≠ .run index event := fun index event haction =>
      hmoves ⟨index, event, haction⟩
    rw [effects_of_ne_run hother, List.append_nil] at hfiled ⊢
    refine ⟨hformed, hcounted, hpending, hfiled, hs.scanned, fun hearlier => ?_⟩
    rcases hs.correlating hearlier with ⟨key, hkey, hdoomed⟩ | hcorrelating
    · exact Or.inl ⟨key, hkey, hdoomed.step hs.formed hs.counted hs.pending h⟩
    · rcases step_storing h with ⟨index, event, _, _, _, _, haction, -⟩ | ⟨hsame, hruns⟩
      · exact absurd haction (hother index event)
      · exact Or.inr (hcorrelating.quiet hsame hruns hrule)

end Steps

end System

/-- Every job of the tenant has succeeded. -/
def Database.AllSucceeded (db : Database) (tenantId : String) : Prop :=
  ∀ row ∈ db.jobTables.jobs.rows, row.tenantId = tenantId → row.status = .succeeded

instance (db : Database) (tenantId : String) : Decidable (db.AllSucceeded tenantId) :=
  inferInstanceAs (Decidable (∀ row ∈ db.jobTables.jobs.rows, row.tenantId = tenantId → row.status = .succeeded))

/-- The view of a job shows its success. -/
theorem Database.AllSucceeded.view {db : Database} {tenantId : String} (h : db.AllSucceeded tenantId) {key : JobKey}
    (hkey : key.tenantId = tenantId) {v : JobView} (hv : SqlJobs.view db key = some v) : v.record.status = .succeeded := by
  obtain ⟨row, hrow, rfl⟩ := Option.map_eq_some_iff.mp hv
  obtain ⟨hmem, hrowKey⟩ := Table.find_eq_some hrow
  exact h row hmem ((congrArg JobKey.tenantId (of_decide_eq_true hrowKey)).trans hkey)

/-- In every run of the system in which no finding of the tenant is added while another run of the tenant, which has
read the registry, has still to add a related one: once all jobs of the tenant have succeeded, a stored correlation
contains both of any two related findings, if the findings of all scans are apart. -/
theorem overlapping_scans_correlated (core : CoreLibrary) (text : TextLibrary) (products : List FindingSource)
    (window : ℕ) (tenantId : String) {schedule : List Label} {s : System Database}
    (hrule : ∀ label ∈ schedule, System.DeliversRule core window tenantId label)
    (hguard : GuardedAlong (System.step (relationalBackend core text) products)
      (System.AddsUnobserved window tenantId) (System.initial (relationalBackend core text)) schedule)
    (hrun : runSteps (System.step (relationalBackend core text) products)
      (System.initial (relationalBackend core text)) schedule = some s)
    (hapart : ((emitted (System.step (relationalBackend core text) products) System.effects
      (System.initial (relationalBackend core text)) schedule).flatMap (Effect.foundFor tenantId)).Pairwise
        (Finding.Apart core text))
    (hsucceeded : s.world.AllSucceeded tenantId) :
    ∀ row ∈ s.world.findings.rows, ∀ row' ∈ s.world.findings.rows, row.tenantId = tenantId →
      row'.tenantId = tenantId → SameHostMultiSourceRule.Related window (row.finding core) (row'.finding core) →
      s.world.Correlated tenantId row.findingId row'.findingId := by
  have hwatched := runSteps_guarded_history (System.Watched core text window tenantId)
    (fun _ _ _ _ hs hadmits hstep => hs.step hadmits.1 hadmits.2 hstep) System.watched_initial
    (hguard.and (GuardedAlong.of_labels hrule _)) hrun
  rw [List.nil_append] at hwatched
  have hstored : ∀ run ∈ s.runs, ∃ v, SqlJobs.view s.world run.key = some v := fun run hmem =>
    Option.isSome_iff_exists.mp (hwatched.formed.runs run hmem)
  intro row hrow row' hrow' htenant htenant' hrelated
  rcases hwatched.correlating hapart with ⟨key, hkey, hdoomed⟩ | hcorrelating
  · obtain ⟨run, hmem, rfl, -⟩ := hdoomed.ended
    obtain ⟨v, hv⟩ := hstored run hmem
    exact absurd (hsucceeded.view hkey hv) (hdoomed.status v hv)
  · rcases hcorrelating.pairs row hrow row' hrow' htenant htenant' hrelated with
      hdone | ⟨run, hmem, hrunTenant, hpending⟩
    · exact hdone
    · -- a run with a correlation to store has not come to its end
      obtain ⟨v, hv⟩ := hstored run hmem
      have hended := ((hwatched.filed run.key).succeeded v hv (hsucceeded.view hrunTenant hv)).2 run hmem rfl
      obtain ⟨attempt, stage, hpc, hstoring⟩ : ∃ attempt stage, run.pc = .trying attempt stage ∧
          stage.phase = .storing := by
        rcases hpending with hforward | hback
        · obtain ⟨attempt, stage, hpc, -, hstoring, -⟩ := hforward.stage
          exact ⟨attempt, stage, hpc, hstoring⟩
        · obtain ⟨attempt, stage, hpc, -, hstoring, -⟩ := hback.stage
          exact ⟨attempt, stage, hpc, hstoring⟩
      have hover := hended ((hwatched.counted.runs run hmem).queuedClaims_pos hpc)
      rw [hpc] at hover
      exact nomatch hstoring.symm.trans hover

/-- One executor of the gateway: every product, the rule with its window of a day, one attempt. -/
def crossProduct : JobExecutor :=
  ⟨[.soc, .vuln], [SameHostMultiSourceRule.correlate FindingDict.core 86400000000], 1, JobExecutor.once⟩

/-- Two jobs are created, delivered and scanned, and each scan finds a problem of the same host. -/
def twoScans : List Label :=
  publishScan 0 "tenant-a" .soc (.obj []) ⟨0, "1"⟩ ++ publishScan 1 "tenant-a" .vuln (.obj []) ⟨0, "2"⟩ ++
    [⟨.deliver crossProduct ⟨"tenant-a", "job_1"⟩, ⟨0, "1"⟩⟩, ⟨.deliver crossProduct ⟨"tenant-a", "job_2"⟩, ⟨0, "2"⟩⟩] ++
    runLabels 0 ⟨0, "1"⟩ [.advance, .advance, .advance, .scanSettles (.findings [hostFinding "f1" "web-1" .low])] ++
    runLabels 1 ⟨0, "2"⟩ [.advance, .advance, .advance,
      .scanSettles (.findings [{ hostFinding "f2" "web-1" .high with source := .vuln }])]

/-- Then both runs take this many steps in turns. -/
def inTurns (first second third fourth : ℕ) : List Label :=
  twoScans ++ (runLabels 0 ⟨1, "3"⟩ (List.replicate first .advance) ++
    (runLabels 1 ⟨1, "4"⟩ (List.replicate second .advance) ++
      (runLabels 0 ⟨2, "5"⟩ (List.replicate third .advance) ++
        runLabels 1 ⟨2, "6"⟩ (List.replicate fourth .advance))))

/-- The second run reads the registry when the first one has added its finding. -/
def readAfterAdding : List Label := inTurns 3 2 4 7

/-- Both runs read the registry before either adds its finding. -/
def readBeforeAdding : List Label := inTurns 2 2 5 5

/-- A list of steps of runs delivers nothing. -/
theorem runLabels_deliver {index : ℕ} {m : Moment} {events : List RunEvent} :
    ∀ label ∈ runLabels index m events, ∀ executor key, label.action ≠ .deliver executor key := by
  intro label hlabel executor key haction
  obtain ⟨event, -, rfl⟩ := List.mem_map.mp hlabel
  cases haction

/-- All messages are delivered to that executor. -/
theorem inTurns_delivers (first second third fourth : ℕ) : ∀ label ∈ inTurns first second third fourth,
    System.DeliversRule FindingDict.core 86400000000 "tenant-a" label := by
  intro label hlabel executor key haction _
  have hexecutor : executor = crossProduct := by
    rcases List.mem_append.mp hlabel with htwo | hlabel
    · simp only [twoScans, publishScan, runLabels, List.map_cons, List.map_nil, List.cons_append, List.nil_append,
        List.mem_cons, List.not_mem_nil, or_false] at htwo
      rcases htwo with rfl | rfl | rfl | rfl | rfl | rfl | rfl | rfl | htwo
      case inr.inr.inr.inr.inr.inr.inl =>
        cases haction
        rfl
      case inr.inr.inr.inr.inr.inr.inr.inl =>
        cases haction
        rfl
      case inr.inr.inr.inr.inr.inr.inr.inr =>
        rcases htwo with rfl | rfl | rfl | rfl | rfl | rfl | rfl | rfl <;> cases haction
      all_goals cases haction
    · rcases List.mem_append.mp hlabel with hrun | hlabel
      · exact absurd haction (runLabels_deliver label hrun executor key)
      · rcases List.mem_append.mp hlabel with hrun | hlabel
        · exact absurd haction (runLabels_deliver label hrun executor key)
        · rcases List.mem_append.mp hlabel with hrun | hrun
          · exact absurd haction (runLabels_deliver label hrun executor key)
          · exact absurd haction (runLabels_deliver label hrun executor key)
  rw [hexecutor]
  exact List.mem_cons_self

set_option maxRecDepth 8000 in
/-- The theorem applies to the second reading, which finds the first finding. -/
theorem overlapping_scans_correlated_readAfterAdding :
    ∃ s ∈ runSteps (System.step FindingDict.backend [.soc, .vuln]) (System.initial FindingDict.backend) readAfterAdding,
      s.world.findings.rows.map FindingRow.findingId = ["f1", "f2"] ∧
      ∀ row ∈ s.world.findings.rows, ∀ row' ∈ s.world.findings.rows, row.tenantId = "tenant-a" →
        row'.tenantId = "tenant-a" → SameHostMultiSourceRule.Related 86400000000 (row.finding FindingDict.core)
          (row'.finding FindingDict.core) → s.world.Correlated "tenant-a" row.findingId row'.findingId := by
  have hreach : ∃ s ∈ runSteps (System.step FindingDict.backend [.soc, .vuln]) (System.initial FindingDict.backend)
      readAfterAdding, s.world.findings.rows.map FindingRow.findingId = ["f1", "f2"] ∧
        s.world.AllSucceeded "tenant-a" := by
    decide +kernel
  have hguard : GuardedAlong (System.step FindingDict.backend [.soc, .vuln])
      (System.AddsUnobserved 86400000000 "tenant-a") (System.initial FindingDict.backend) readAfterAdding := by
    decide +kernel
  have hapart : ((emitted (System.step FindingDict.backend [.soc, .vuln]) System.effects
      (System.initial FindingDict.backend) readAfterAdding).flatMap (Effect.foundFor "tenant-a")).Pairwise
        (Finding.Apart FindingDict.core FindingDict.text) := by
    decide +kernel
  obtain ⟨s, hs, hids, hsucceeded⟩ := hreach
  exact ⟨s, hs, hids, overlapping_scans_correlated FindingDict.core FindingDict.text [.soc, .vuln] 86400000000
    "tenant-a" (inTurns_delivers 3 2 4 7) hguard hs hapart hsucceeded⟩

set_option maxRecDepth 8000 in
/-- When both runs have read the registry before, both jobs succeed and no correlation contains their two related
findings, although all findings are apart. -/
theorem overlapping_scans_missed :
    (∃ s ∈ runSteps (System.step FindingDict.backend [.soc, .vuln]) (System.initial FindingDict.backend)
        readBeforeAdding, s.world.AllSucceeded "tenant-a" ∧ ∃ row ∈ s.world.findings.rows,
          ∃ row' ∈ s.world.findings.rows, row.tenantId = "tenant-a" ∧ row'.tenantId = "tenant-a" ∧
            SameHostMultiSourceRule.Related 86400000000 (row.finding FindingDict.core)
              (row'.finding FindingDict.core) ∧ ¬ s.world.Correlated "tenant-a" row.findingId row'.findingId) ∧
      ((emitted (System.step FindingDict.backend [.soc, .vuln]) System.effects (System.initial FindingDict.backend)
        readBeforeAdding).flatMap (Effect.foundFor "tenant-a")).Pairwise
          (Finding.Apart FindingDict.core FindingDict.text) ∧
      ∀ label ∈ readBeforeAdding, System.DeliversRule FindingDict.core 86400000000 "tenant-a" label := by
  exact ⟨by decide +kernel, by decide +kernel, inTurns_delivers 2 2 5 5⟩

end SharedIntegration

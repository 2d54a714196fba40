import SharedIntegration.Storing
import SharedIntegration.FindingColumns

/-!
# Which finding ids resolve

A duplicate is merged into the row of its first occurrence under that row's id, but a run goes on
with the finding it was given: it writes the incoming id into its event and hands the incoming
finding to the rules. The ids it writes resolve exactly as far as no finding comes back under an
id that its tenant does not know.
-/

namespace SharedIntegration

open Transition Relational

/-- Some finding of the tenant is stored under this id. -/
def Database.Stored (db : Database) (tenantId findingId : String) : Prop :=
  ∃ row ∈ db.findings.rows, row.tenantId = tenantId ∧ row.findingId = findingId

instance (db : Database) (tenantId findingId : String) : Decidable (db.Stored tenantId findingId) :=
  inferInstanceAs (Decidable (∃ row ∈ db.findings.rows, row.tenantId = tenantId ∧
    row.findingId = findingId))

/-- The rule only returns ids of the findings it was given. -/
def CorrelationRule.Local (rule : CorrelationRule) : Prop :=
  ∀ finding existing correlations, rule finding existing = .ok correlations →
    ∀ correlation ∈ correlations, ∀ id ∈ correlation.findings,
      id = finding.id ∨ ∃ other ∈ existing, other.id = id

/-- The findings a run works with and has stored or found stored. -/
def Stage.known : Stage → List Finding
  | .adding loop => loop.existing
  | .recording loop | .correlating loop _ _ | .recordingCorrelation loop _ _ _ =>
    loop.finding :: loop.existing
  | _ => []

/-- The correlations a run has computed and not yet stored. -/
def Stage.pending : Stage → List Correlation
  | .correlating _ _ pending => pending
  | .recordingCorrelation _ _ _ pending => pending
  | _ => []

/-- The rules a run has still to evaluate for the finding at hand. -/
def Stage.rules : Stage → List CorrelationRule
  | .correlating _ rules _ | .recordingCorrelation _ rules _ _ => rules
  | _ => []

/-- The stage of a position inside an attempt. -/
def Pc.stage? : Pc → Option Stage
  | .trying _ stage => some stage
  | _ => none

/-- The finding that the next step adds. -/
def Pc.adding? : Pc → Option Finding
  | .trying _ (.adding loop) => some loop.finding
  | _ => none

/-- Every id that the run may still write resolves. -/
structure Stage.Resolves (db : Database) (tenantId : String) (stage : Stage) : Prop where
  known : ∀ finding ∈ stage.known, db.Stored tenantId finding.id
  pending : ∀ correlation ∈ stage.pending, ∀ id ∈ correlation.findings, db.Stored tenantId id
  rules : ∀ rule ∈ stage.rules, rule.Local

/-- A run whose rules are local and whose position resolves. -/
structure Run.Resolves (db : Database) (run : Run) : Prop where
  rules : ∀ rule ∈ run.executor.correlations, rule.Local
  stage : ∀ stage ∈ run.pc.stage?, stage.Resolves db run.key.tenantId

/-- Payloads carry the id of their row, and links and finding events carry ids of rows. -/
structure Database.Resolves (core : CoreLibrary) (db : Database) : Prop where
  rows : ∀ row ∈ db.findings.rows, (row.finding core).id = row.findingId
  links : ∀ link ∈ db.correlationFindings.rows, db.Stored link.tenantId link.findingId
  events : ∀ key, ∀ event ∈ findingLog db key, db.Stored key.tenantId (core.fromDict event.payload).id

section Steps

variable {core : CoreLibrary} {text : TextLibrary}

/-- A stage that writes nothing more resolves. -/
theorem Stage.resolves_of_phase {db : Database} {tenantId : String} {stage : Stage}
    (h : stage.phase ≠ .storing) : stage.Resolves db tenantId := by
  cases stage with
  | storing | adding | recording | correlating | recordingCorrelation | succeeding => exact absurd rfl h
  | _ => constructor <;> simp [known, pending, rules]

/-- What was stored stays stored when the registry is the same. -/
theorem SameRegistry.stored_iff {db db' : Database} (h : SameRegistry db db') {tenantId findingId : String} :
    db'.Stored tenantId findingId ↔ db.Stored tenantId findingId := by
  rw [Database.Stored, Database.Stored, h.findings]

/-- Resolution only reads the registry. -/
theorem SameRegistry.resolves {db db' : Database} (h : SameRegistry db db') (hs : db.Resolves core) :
    db'.Resolves core where
  rows := by
    rw [h.findings]
    exact hs.rows
  links := by
    intro link hlink
    rw [h.links] at hlink
    exact h.stored_iff.mpr (hs.links link hlink)
  events := by
    intro key event hevent
    rw [h.log] at hevent
    exact h.stored_iff.mpr (hs.events key event hevent)

/-- A run keeps resolving as long as no finding disappears. -/
theorem Run.Resolves.mono {db db' : Database} {run : Run} (hrun : run.Resolves db)
    (h : ∀ tenantId findingId, db.Stored tenantId findingId → db'.Stored tenantId findingId) :
    run.Resolves db' where
  rules := hrun.rules
  stage := by
    intro stage hstage
    have hresolves := hrun.stage stage hstage
    exact ⟨fun finding hfinding => h _ _ (hresolves.known finding hfinding),
      fun correlation hcorrelation id hid => h _ _ (hresolves.pending correlation hcorrelation id hid),
      hresolves.rules⟩

/-- Merging keeps the id of the row and of its payload. -/
theorem FindingRow.merged_id {incoming : Finding} {jobId : Option String} {now : Instant}
    {change : FindingRow → FindingRow}
    (hchange : change = .merge core incoming jobId now ∨ change = .mergeLost core incoming now)
    (row : FindingRow) : (change row).tenantId = row.tenantId ∧ (change row).findingId = row.findingId ∧
      ((change row).finding core).id = (row.finding core).id := by
  rcases hchange with rfl | rfl
  · have hfinding : (row.merge core incoming jobId now).finding core =
        mergeFindings (row.finding core) incoming := core.fromDict_toDict _
    exact ⟨rfl, rfl, by rw [hfinding]; rfl⟩
  · have hfinding : (row.mergeLost core incoming now).finding core =
        mergeFindings (row.finding core) incoming := core.fromDict_toDict _
    exact ⟨rfl, rfl, by rw [hfinding]; rfl⟩

/-- Storing a finding keeps what is stored, and payloads keep the id of their row. -/
theorem FindingLifecycle.storeFinding_ids {db db' : Database} {m : Moment} {tenantId : String}
    {finding : Finding} {jobId : Option String}
    (h : storeFinding core text db m tenantId finding jobId = some db') :
    (∀ tenantId findingId, db.Stored tenantId findingId → db'.Stored tenantId findingId) ∧
    ((∀ row ∈ db.findings.rows, (row.finding core).id = row.findingId) →
      ∀ row ∈ db'.findings.rows, (row.finding core).id = row.findingId) ∧
    (findFingerprint db.findings tenantId (findingFingerprint core text finding) = none →
      db'.Stored tenantId finding.id) := by
  rcases storeFinding_cases h with ⟨-, hinsert⟩ | ⟨row, change, hchange, hrow, hfindings, hmerge⟩
  · have hrows := (Table.insert_eq_some hinsert).1
    refine ⟨?_, ?_, fun _ => ?_⟩
    · rintro tenant id ⟨old, hold, hkey⟩
      exact ⟨old, by rw [hrows]; exact List.mem_append_left _ hold, hkey⟩
    · intro hids new hnew
      rw [hrows] at hnew
      rcases List.mem_append.mp hnew with hold | hnew
      · exact hids new hold
      · rw [List.mem_singleton.mp hnew]
        change (core.fromDict (core.toDict finding)).id = finding.id
        rw [core.fromDict_toDict]
    · refine ⟨.created core text db.findingSequence tenantId finding jobId m.now, ?_, rfl, rfl⟩
      rw [hrows]
      exact List.mem_append_right _ (List.mem_singleton.mpr rfl)
  · have hids := FindingRow.merged_id hmerge
    refine ⟨?_, ?_, fun hnone => ?_⟩
    · rintro tenant id ⟨old, hold, htenant, hid⟩
      refine ⟨_, by rw [hfindings]; exact List.mem_map.mpr ⟨old, hold, rfl⟩, ?_⟩
      dsimp only
      split
      · exact ⟨(hids old).1.trans htenant, (hids old).2.1.trans hid⟩
      · exact ⟨htenant, hid⟩
    · intro hold new hnew
      rw [hfindings] at hnew
      rcases mem_updateFingerprint hchange hrow hnew with rfl | ⟨hmem, -⟩
      · rw [(hids row).2.2, (hids row).2.1]
        exact hold row (Table.find_eq_some hrow).1
      · exact hold new hmem
    · rw [hnone] at hrow
      cases hrow

/-- What a step of a run does to the set of stored ids. -/
theorem Run.Storing.stored {run run' : Run} {m : Moment} {db db' : Database}
    (h : run.Storing core text m db db' run') {tenantId findingId : String}
    (hstored : db.Stored tenantId findingId) : db'.Stored tenantId findingId := by
  cases h with
  | outside _ _ hsame | leave _ hsame | recordCorrelation _ _ hsame => exact hsame.stored_iff.mpr hstored
  | load _ _ hdb | evaluate _ _ _ hdb | next _ _ hdb => rw [hdb]; exact hstored
  | add _ _ hstore => exact (FindingLifecycle.storeFinding_ids hstore).1 _ _ hstored
  | record _ _ happend =>
    rw [Database.Stored, (SqlJobs.appendEvent_registry happend).1]
    exact hstored
  | correlate _ _ hinsert =>
    rw [Database.Stored, (FindingLifecycle.insertCorrelation_same hinsert).2]
    exact hstored

/-- A stage behind the head of the store loop resolves when its snapshot does. -/
theorem storeNext_resolves {db : Database} {tenantId : String} {existing : List Finding}
    (hexisting : ∀ finding ∈ existing, db.Stored tenantId finding.id) (count : ℕ) (rest : List Finding) :
    (storeNext existing count rest).Resolves db tenantId := by
  cases rest with
  | nil => constructor <;> simp [storeNext, Stage.known, Stage.pending, Stage.rules]
  | cons finding rest =>
    refine ⟨hexisting, ?_, ?_⟩
    · simp [storeNext, Stage.pending]
    · simp [storeNext, Stage.rules]

/-- The snapshot of the registry resolves. -/
theorem Database.Resolves.findings {db : Database} (hs : db.Resolves core) {tenantId : String}
    {finding : Finding} (h : finding ∈ FindingLifecycle.findings core db tenantId) :
    db.Stored tenantId finding.id := by
  obtain ⟨row, hrow, rfl⟩ := List.mem_map.mp h
  rw [orderBy, List.mem_insertionSort] at hrow
  obtain ⟨hmem, htenant⟩ := List.mem_filter.mp hrow
  exact ⟨row, hmem, of_decide_eq_true htenant, (hs.rows row hmem).symm⟩

/-- A run resolves at a position outside the store loop. -/
theorem Run.resolves_of_phase {db : Database} {run : Run}
    (hrules : ∀ rule ∈ run.executor.correlations, rule.Local) (h : run.pc.phase ≠ .storing) :
    run.Resolves db := by
  refine ⟨hrules, fun stage hstage => Stage.resolves_of_phase ?_⟩
  cases hpc : run.pc with
  | trying attempt stage' =>
    rw [hpc] at h hstage
    cases hstage
    exact h
  | _ =>
    rw [hpc] at hstage
    cases hstage

/-- A run resolves when its stage does. -/
theorem Run.resolves_of_stage {db : Database} {run : Run} {attempt : ℕ} {stage : Stage}
    (hrules : ∀ rule ∈ run.executor.correlations, rule.Local) (hpc : run.pc = .trying attempt stage)
    (h : stage.Resolves db run.key.tenantId) : run.Resolves db := by
  refine ⟨hrules, fun stage' hstage' => ?_⟩
  rw [hpc] at hstage'
  cases hstage'
  exact h

/-- The condition on the finding a run adds next: it is new, or its id is known. -/
def Run.AddsKnown (core : CoreLibrary) (text : TextLibrary) (db : Database) (run : Run) : Prop :=
  ∀ finding ∈ run.pc.adding?, FindingLifecycle.findFingerprint db.findings run.key.tenantId
    (findingFingerprint core text finding) = none ∨ db.Stored run.key.tenantId finding.id

/-- After such a finding has been added its id is known. -/
theorem Run.AddsKnown.stored {db db' : Database} {m : Moment} {run : Run} {attempt : ℕ} {loop : StoreLoop}
    (h : run.AddsKnown core text db) (hpc : run.pc = .trying attempt (.adding loop))
    (hstore : FindingLifecycle.storeFinding core text db m run.key.tenantId loop.finding
      (some run.key.jobId) = some db') : db'.Stored run.key.tenantId loop.finding.id := by
  obtain ⟨hmono, -, hnew⟩ := FindingLifecycle.storeFinding_ids hstore
  rcases h loop.finding (by rw [hpc]; rfl) with hnone | hknown
  · exact hnew hnone
  · exact hmono _ _ hknown

/-- The finding events of a job are those of the job tables. -/
theorem findingLog_of_jobTables {db db' : Database} {key : JobKey} (h : db'.jobTables = db.jobTables) :
    findingLog db' key = findingLog db key := by
  rw [findingLog, findingLog, SqlJobs.view, SqlJobs.view, h]

/-- A step of a run that resolves keeps the database so. -/
theorem Run.Storing.database_resolves {run run' : Run} {m : Moment} {db db' : Database}
    (hs : db.Resolves core) (hrun : run.Resolves db) (h : run.Storing core text m db db' run') :
    db'.Resolves core := by
  have hmono : ∀ {tenantId findingId}, db.Stored tenantId findingId → db'.Stored tenantId findingId :=
    h.stored
  cases h with
  | outside _ _ hsame | leave _ hsame | recordCorrelation _ _ hsame => exact hsame.resolves hs
  | load _ _ hdb | evaluate _ _ _ hdb | next _ _ hdb => rw [hdb]; exact hs
  | add hpc hpc' hstore =>
    obtain ⟨hjobs, -, hlinks⟩ := FindingLifecycle.storeFinding_same core text hstore
    refine ⟨(FindingLifecycle.storeFinding_ids hstore).2.1 hs.rows, ?_, ?_⟩
    · intro link hlink
      rw [hlinks] at hlink
      exact hmono (hs.links link hlink)
    · intro key event hevent
      rw [findingLog_of_jobTables hjobs] at hevent
      exact hmono (hs.events key event hevent)
  | record hpc hpc' happend =>
    obtain ⟨hfindings, -, hlinks⟩ := SqlJobs.appendEvent_registry happend
    refine ⟨by rw [hfindings]; exact hs.rows, ?_, ?_⟩
    · intro link hlink
      rw [hlinks] at hlink
      exact hmono (hs.links link hlink)
    · intro key event hevent
      rcases SqlJobs.mem_findingLog_appendEvent happend hevent with hold | ⟨rfl, hpayload⟩
      · exact hmono (hs.events key event hold)
      · rw [hpayload, core.fromDict_toDict]
        have hknown := (hrun.stage _ (by rw [hpc]; rfl)).known
        exact hmono (hknown _ List.mem_cons_self)
  | correlate hpc hpc' hinsert =>
    obtain ⟨hjobs, hfindings⟩ := FindingLifecycle.insertCorrelation_same hinsert
    refine ⟨by rw [hfindings]; exact hs.rows, ?_, ?_⟩
    · intro link hlink
      rcases (FindingLifecycle.mem_insertCorrelation hinsert).mp hlink with hold | ⟨htenant, -, hid⟩
      · exact hmono (hs.links link hold)
      · rw [htenant]
        have hpending := (hrun.stage _ (by rw [hpc]; rfl)).pending
        exact hmono (hpending _ List.mem_cons_self _ hid)
    · intro key event hevent
      rw [findingLog_of_jobTables hjobs] at hevent
      exact hmono (hs.events key event hevent)

/-- A step of a run whose incoming ids are known keeps it resolving. -/
theorem Run.Storing.run_resolves {run run' : Run} {m : Moment} {db db' : Database}
    (hs : db.Resolves core) (hrun : run.Resolves db) (h : run.Storing core text m db db' run')
    (hkey : run'.key = run.key) (hexecutor : run'.executor = run.executor)
    (hknown : run.AddsKnown core text db) : run'.Resolves db' := by
  have hmono := hrun.mono fun _ _ => h.stored
  have hrules : ∀ rule ∈ run'.executor.correlations, rule.Local := hexecutor ▸ hrun.rules
  have hstage : ∀ {attempt stage}, run'.pc = .trying attempt stage →
      stage.Resolves db' run.key.tenantId → run'.Resolves db' := by
    intro attempt stage hpc' hresolves
    exact Run.resolves_of_stage hrules hpc' (hkey ▸ hresolves)
  cases h with
  | outside hbefore hafter hsame =>
    rcases hafter with hafter | ⟨attempt, found, hpc'⟩
    · exact Run.resolves_of_phase hrules (by rw [hafter]; decide)
    · refine hstage hpc' ?_
      constructor <;> simp [Stage.known, Stage.pending, Stage.rules]
  | leave hover hsame => exact Run.resolves_of_phase hrules (by rw [hover]; decide)
  | load hpc hpc' hdb =>
    rw [hdb] at hstage
    rw [hdb]
    exact hstage hpc' (storeNext_resolves (fun finding hfinding => hs.findings hfinding) _ _)
  | @add attempt loop hpc hpc' hstore =>
    have hold := hmono.stage _ (by rw [hpc]; rfl)
    refine hstage hpc' ⟨?_, by simp [Stage.pending], by simp [Stage.rules]⟩
    intro finding hfinding
    rcases List.mem_cons.mp hfinding with rfl | hexisting
    · exact hknown.stored hpc hstore
    · exact hold.known finding hexisting
  | record hpc hpc' happend =>
    have hold := hmono.stage _ (by rw [hpc]; rfl)
    exact hstage hpc' ⟨hold.known, by simp [Stage.pending], hrun.rules⟩
  | @evaluate attempt loop rule rules pending hpc hpc' hrule hdb =>
    have hold := hmono.stage _ (by rw [hpc]; rfl)
    refine hstage hpc' ⟨hold.known, ?_, fun other hother => hold.rules other (List.mem_cons_of_mem _ hother)⟩
    intro correlation hcorrelation id hid
    have hlocal := hold.rules rule List.mem_cons_self
    rcases hlocal _ _ _ hrule correlation hcorrelation id hid with rfl | ⟨other, hother, rfl⟩
    · exact hold.known _ List.mem_cons_self
    · exact hold.known other (List.mem_cons_of_mem _ hother)
  | correlate hpc hpc' hinsert =>
    have hold := hmono.stage _ (by rw [hpc]; rfl)
    exact hstage hpc' ⟨hold.known,
      fun other hother => hold.pending other (List.mem_cons_of_mem _ hother), hold.rules⟩
  | recordCorrelation hpc hpc' hsame =>
    have hold := hmono.stage _ (by rw [hpc]; rfl)
    exact hstage hpc' ⟨hold.known, hold.pending, hold.rules⟩
  | @next attempt loop hpc hpc' hdb =>
    have hold := hmono.stage _ (by rw [hpc]; rfl)
    refine hstage hpc' (storeNext_resolves (fun finding hfinding => ?_) _ _)
    rcases List.mem_append.mp hfinding with hexisting | hlast
    · exact hold.known finding (List.mem_cons_of_mem _ hexisting)
    · rw [List.mem_singleton.mp hlast]
      exact hold.known _ List.mem_cons_self

namespace System

/-- Every finding id that the system has written, or that a run may still write, resolves. -/
structure Resolves (core : CoreLibrary) (s : System Database) : Prop where
  world : s.world.Resolves core
  runs : ∀ run ∈ s.runs, run.Resolves s.world

/-- The condition on a step of the system. -/
def AddsKnown (core : CoreLibrary) (text : TextLibrary) (s : System Database) (label : Label) : Prop :=
  match label.action with
  | .run index _ => ∀ run ∈ s.runs[index]?, run.AddsKnown core text s.world
  | _ => True

instance (s : System Database) : ∀ label, Decidable (AddsKnown core text s label)
  | ⟨.run index _, _⟩ => inferInstanceAs (Decidable (∀ run ∈ s.runs[index]?,
      ∀ finding ∈ run.pc.adding?, FindingLifecycle.findFingerprint s.world.findings run.key.tenantId
        (findingFingerprint core text finding) = none ∨ s.world.Stored run.key.tenantId finding.id))
  | ⟨.scanRequest .., _⟩ | ⟨.scan .., _⟩ | ⟨.deliver .., _⟩ | ⟨.requestCancel _, _⟩
  | ⟨.cancelRead _, _⟩ | ⟨.cancelWrite _, _⟩ => isTrue trivial

/-- A delivered message meets an executor whose rules are local. -/
def DeliversLocal (label : Label) : Prop :=
  ∀ executor key, label.action = .deliver executor key → ∀ rule ∈ executor.correlations, rule.Local

/-- A step that adds no finding under an unknown id keeps everything resolved. -/
theorem Resolves.step {products : List FindingSource} {s s' : System Database} {label : Label}
    (hs : s.Resolves core) (hknown : AddsKnown core text s label) (hlocal : DeliversLocal label)
    (h : s.step (relationalBackend core text) products label = some s') : s'.Resolves core := by
  rcases step_storing h with ⟨index, event, run, run', before, after, haction, hruns, hindex, hruns', hstep⟩ |
    ⟨hsame, hruns'⟩
  · have hmem : run ∈ s.runs := by simp [hruns]
    have hrun := hs.runs run hmem
    have hstoring := Run.storing_of_step hstep
    obtain ⟨hkey, hexecutor⟩ := Run.step_arguments hstep
    rw [AddsKnown, haction] at hknown
    have hadds := hknown run (getElem?_of_split hruns hindex)
    refine ⟨hstoring.database_resolves hs.world hrun, fun other hother => ?_⟩
    have hold : ∀ other ∈ s.runs, other.Resolves s'.world := fun other hother =>
      (hs.runs other hother).mono fun _ _ => hstoring.stored
    rw [hruns'] at hother
    rcases List.mem_append.mp hother with hbefore | hother
    · exact hold other (by simp [hruns, hbefore])
    · rcases List.mem_cons.mp hother with rfl | hafter
      · exact hstoring.run_resolves hs.world hrun hkey hexecutor hadds
      · exact hold other (by simp [hruns, hafter])
  · have hold : ∀ other ∈ s.runs, other.Resolves s'.world := fun other hother =>
      (hs.runs other hother).mono fun _ _ hstored => hsame.stored_iff.mpr hstored
    refine ⟨hsame.resolves hs.world, ?_⟩
    rcases hruns' with hruns' | ⟨executor, key, haction, hruns'⟩
    · rw [hruns']
      exact hold
    · intro other hother
      rw [hruns'] at hother
      rcases List.mem_append.mp hother with hmem | hnew
      · exact hold other hmem
      · rw [List.mem_singleton.mp hnew]
        exact Run.resolves_of_phase (hlocal executor key haction) (fun hphase => nomatch hphase)

end System

/-- The id is a finding of the tenant that listing and triage find. -/
structure Database.Shows (core : CoreLibrary) (db : Database) (tenantId findingId : String) : Prop where
  stored : db.Stored tenantId findingId
  listed : ∀ limit, db.findings.rows.length ≤ limit →
    ∃ record ∈ (FindingLifecycle.listPage core db tenantId none limit none none none).1,
      record.finding.id = findingId
  triaged : ∀ m status assignedTo actor,
    (FindingLifecycle.updateLifecycle core db m tenantId findingId status assignedTo actor).2 ≠ none

/-- Without filters a page that is long enough lists every row of the tenant. -/
theorem FindingLifecycle.mem_listPage {db : Database} {tenantId : String} {limit : ℕ} {row : FindingRow}
    (hlimit : db.findings.rows.length ≤ limit) (hrow : row ∈ db.findings.rows)
    (htenant : row.tenantId = tenantId) :
    recordFromRow core row ∈ (listPage core db tenantId none limit none none none).1 := by
  unfold listPage
  dsimp only
  generalize hselected : (db.findings.select fun row => row.tenantId = tenantId &&
    (Option.all (fun before => row.rowId < before) none) &&
    RowFilter.selects ⟨none, none, none, none, none, none⟩ row) = selected
  have hmem : row ∈ selected := by
    rw [← hselected]
    exact List.mem_filter.mpr ⟨hrow, by simp [htenant, RowFilter.selects, wants]⟩
  have hlength : (orderBy FindingRow.rowId selected).reverse.length ≤ limit := by
    have hle : selected.length ≤ db.findings.rows.length := by
      rw [← hselected]
      exact List.length_filter_le _ _
    rw [List.length_reverse, orderBy, List.length_insertionSort]
    omega
  rw [List.take_of_length_le (by omega : _ ≤ limit + 1), List.take_of_length_le hlength]
  refine List.mem_map.mpr ⟨row, ?_, rfl⟩
  rw [List.mem_reverse, orderBy, List.mem_insertionSort]
  exact hmem

/-- A stored id is listed and can be triaged. -/
theorem Database.Resolves.shows {db : Database} (hs : db.Resolves core) {tenantId findingId : String}
    (h : db.Stored tenantId findingId) : db.Shows core tenantId findingId := by
  obtain ⟨row, hrow, htenant, hid⟩ := h
  refine ⟨⟨row, hrow, htenant, hid⟩, fun limit hlimit => ?_, ?_⟩
  · exact ⟨_, FindingLifecycle.mem_listPage hlimit hrow htenant, (hs.rows row hrow).trans hid⟩
  · intro m status assignedTo actor
    unfold FindingLifecycle.updateLifecycle
    split
    · next hnone =>
      have hmissed := (Table.find_eq_none_iff _ _).mp hnone row hrow
      rw [decide_eq_false_iff_not] at hmissed
      exact absurd ⟨htenant, hid⟩ hmissed
    · exact Option.some_ne_none _

end Steps

/-- In every run of the system in which no finding comes back under an id its tenant does not know,
every id in a correlation link and every id of a finding event is a finding of the tenant. -/
theorem references_resolve (core : CoreLibrary) (text : TextLibrary) (products : List FindingSource)
    {schedule : List Label} {s : System Database}
    (hlocal : ∀ label ∈ schedule, System.DeliversLocal label)
    (hknown : GuardedAlong (System.step (relationalBackend core text) products)
      (System.AddsKnown core text) (System.initial (relationalBackend core text)) schedule)
    (hrun : runSteps (System.step (relationalBackend core text) products)
      (System.initial (relationalBackend core text)) schedule = some s) :
    (∀ link ∈ s.world.correlationFindings.rows, s.world.Shows core link.tenantId link.findingId) ∧
    ∀ key, ∀ event ∈ findingLog s.world key,
      s.world.Shows core key.tenantId (core.fromDict event.payload).id := by
  have hinitial : (System.initial (relationalBackend core text)).Resolves core := by
    refine ⟨⟨?_, ?_, ?_⟩, ?_⟩
    · exact fun row hrow => nomatch hrow
    · exact fun link hlink => nomatch hlink
    · exact fun key event hevent => nomatch hevent
    · exact fun run hmem => nomatch hmem
  have hs := runSteps_guarded_invariant (System.Resolves core)
    (fun t label t' ht hguard hstep => ht.step hguard.1 hguard.2 hstep) hinitial
    (hknown.and (GuardedAlong.of_labels hlocal _)) hrun
  exact ⟨fun link hlink => hs.world.shows (hs.world.links link hlink),
    fun key event hevent => hs.world.shows (hs.world.events key event hevent)⟩

/-- A rule that relates a new finding to all it was given. -/
def relateAll : CorrelationRule := fun finding existing =>
  .ok [⟨"all", finding.id :: existing.map Finding.id, finding.severity, ""⟩]

/-- It returns no other ids. -/
theorem relateAll_local : relateAll.Local := by
  intro finding existing correlations h correlation hcorrelation id hid
  cases h
  rw [List.mem_singleton.mp hcorrelation] at hid
  rcases List.mem_cons.mp hid with rfl | hother
  · exact .inl rfl
  · obtain ⟨other, hmem, rfl⟩ := List.mem_map.mp hother
    exact .inr ⟨other, hmem, rfl⟩

/-- An executor with that rule. -/
def relating : JobExecutor := ⟨[.soc], [relateAll], 1, JobExecutor.once⟩

/-- A job is created and executed, and its scan finds one finding. -/
def scanOne (index : ℕ) (uuid : String) (finding : Finding) : List Label :=
  let m : Moment := ⟨0, uuid⟩
  publishScan index "tenant-a" .soc (.obj []) m ++
    [⟨.deliver relating ⟨"tenant-a", "job_" ++ uuid⟩, m⟩] ++
    runLabels index m ([.advance, .advance, .advance, .scanSettles (.findings [finding])] ++
      List.replicate 9 .advance)

/-- Two jobs find two different problems. -/
def differentProblems : List Label :=
  scanOne 0 "1" (hostFinding "f1" "web-1" .low) ++ scanOne 1 "2" (hostFinding "f2" "web-2" .low)

/-- Two jobs find the same problem, which the product names anew. -/
def sameProblem : List Label :=
  scanOne 0 "1" (hostFinding "f1" "web-1" .low) ++ scanOne 1 "2" (hostFinding "f2" "web-1" .low)

/-- Every message is delivered to that executor. -/
theorem scanOne_local {index : ℕ} {uuid : String} {finding : Finding} :
    ∀ label ∈ scanOne index uuid finding, System.DeliversLocal label := by
  intro label hlabel executor key haction rule hrule
  have hexecutor : executor = relating := by
    rcases List.mem_append.mp hlabel with hlabel | hlabel
    · rcases List.mem_append.mp hlabel with hpublish | hdeliver
      · simp only [publishScan, List.mem_cons, List.not_mem_nil, or_false] at hpublish
        rcases hpublish with rfl | rfl | rfl <;> cases haction
      · rw [List.mem_singleton.mp hdeliver] at haction
        cases haction
        rfl
    · obtain ⟨event, -, rfl⟩ := List.mem_map.mp hlabel
      cases haction
  subst hexecutor
  rw [List.mem_singleton.mp hrule]
  exact relateAll_local

set_option maxRecDepth 8000 in
/-- The theorem applies to two different problems, which end up correlated. -/
theorem references_resolve_differentProblems :
    ∃ s ∈ runSteps (System.step FindingDict.backend [.soc]) (System.initial FindingDict.backend)
        differentProblems,
      s.world.correlationFindings.rows.map CorrelationFindingRow.findingId = ["f1", "f2", "f1"] ∧
      ∀ link ∈ s.world.correlationFindings.rows,
        s.world.Shows FindingDict.core link.tenantId link.findingId := by
  have hreach : ∃ s ∈ runSteps (System.step FindingDict.backend [.soc])
      (System.initial FindingDict.backend) differentProblems,
      s.world.correlationFindings.rows.map CorrelationFindingRow.findingId = ["f1", "f2", "f1"] := by
    decide +kernel
  have hknown : GuardedAlong (System.step FindingDict.backend [.soc])
      (System.AddsKnown FindingDict.core FindingDict.text) (System.initial FindingDict.backend)
      differentProblems := by decide +kernel
  obtain ⟨s, hs, hlinks⟩ := hreach
  refine ⟨s, hs, hlinks, (references_resolve FindingDict.core FindingDict.text [.soc] ?_ hknown hs).1⟩
  intro label hlabel
  rcases List.mem_append.mp hlabel with hfirst | hsecond
  · exact scanOne_local label hfirst
  · exact scanOne_local label hsecond

set_option maxRecDepth 8000 in
/-- A problem that comes back under a new id leaves that id in an event and in a link, although no
finding has it. -/
theorem references_dangle :
    ∃ s ∈ runSteps (System.step FindingDict.backend [.soc]) (System.initial FindingDict.backend)
        sameProblem,
      (∃ link ∈ s.world.correlationFindings.rows,
        ¬ s.world.Stored link.tenantId link.findingId) ∧
      ∃ event ∈ findingLog s.world ⟨"tenant-a", "job_2"⟩,
        ¬ s.world.Stored "tenant-a" (FindingDict.core.fromDict event.payload).id := by
  decide +kernel

end SharedIntegration

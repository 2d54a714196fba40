import SharedIntegration.FindingDict
import SharedIntegration.Library.Transition

/-!
# When columns and payload agree

A finding row repeats fields of its payload in columns that filters read. Either merge path
writes the whole merged finding into the payload and only some of the columns, so they stay in
agreement exactly as long as every further occurrence of a finding is spelled like the row, and
the fallback path meets nothing it would have to raise.
-/

namespace SharedIntegration

open Transition Relational

namespace FindingRow

/-- Every column that repeats a field equals that field of the decoded payload, and the
fingerprint is that of the decoded finding. -/
structure InSync (core : CoreLibrary) (text : TextLibrary) (row : FindingRow) : Prop where
  source : row.source = (row.finding core).source
  severity : row.severity = (row.finding core).severity
  confidence : row.confidence = (row.finding core).confidence
  asset : row.asset = (row.finding core).host
  cve : row.cve = (row.finding core).cve
  title : row.title = (row.finding core).title
  description : row.description = (row.finding core).description
  fingerprint : row.fingerprint = findingFingerprint core text (row.finding core)

/-- The occurrence names source, host, CVE and title exactly as the columns do. -/
structure SameSpelling (incoming : Finding) (row : FindingRow) : Prop where
  source : row.source = incoming.source
  host : row.asset = incoming.host
  cve : row.cve = incoming.cve
  title : row.title = incoming.title

/-- Merging the occurrence changes neither severity nor confidence nor description. -/
structure SameGrade (core : CoreLibrary) (incoming : Finding) (row : FindingRow) : Prop where
  severity : row.severity = (mergeFindings (row.finding core) incoming).severity
  confidence : row.confidence = (mergeFindings (row.finding core) incoming).confidence
  description : row.description = (mergeFindings (row.finding core) incoming).description

instance (incoming : Finding) (row : FindingRow) : Decidable (SameSpelling incoming row) :=
  decidable_of_iff (row.source = incoming.source ∧ row.asset = incoming.host ∧
    row.cve = incoming.cve ∧ row.title = incoming.title)
    ⟨fun ⟨hsource, hhost, hcve, htitle⟩ => ⟨hsource, hhost, hcve, htitle⟩,
      fun h => ⟨h.source, h.host, h.cve, h.title⟩⟩

instance (core : CoreLibrary) (incoming : Finding) (row : FindingRow) :
    Decidable (SameGrade core incoming row) :=
  decidable_of_iff (row.severity = (mergeFindings (row.finding core) incoming).severity ∧
    row.confidence = (mergeFindings (row.finding core) incoming).confidence ∧
    row.description = (mergeFindings (row.finding core) incoming).description)
    ⟨fun ⟨hseverity, hconfidence, hdescription⟩ => ⟨hseverity, hconfidence, hdescription⟩,
      fun h => ⟨h.severity, h.confidence, h.description⟩⟩

variable {core : CoreLibrary} {text : TextLibrary}

/-- A new row repeats the fields of its finding. -/
theorem inSync_created (rowId : ℕ) (tenantId : String) (finding : Finding) (jobId : Option String)
    (now : Instant) : InSync core text (created core text rowId tenantId finding jobId now) := by
  have hfinding : (created core text rowId tenantId finding jobId now).finding core = finding :=
    core.fromDict_toDict finding
  constructor <;> rw [hfinding] <;> rfl

/-- The fingerprint of a merged finding is that of the occurrence. -/
theorem fingerprint_mergeFindings (existing incoming : Finding) :
    findingFingerprint core text (mergeFindings existing incoming) =
      findingFingerprint core text incoming := rfl

/-- The locked merge refreshes every column except source, host, CVE and title. -/
theorem merge_inSync_iff {incoming : Finding} {jobId : Option String} {now : Instant} {row : FindingRow}
    (hfingerprint : row.fingerprint = findingFingerprint core text incoming) :
    InSync core text (row.merge core incoming jobId now) ↔ SameSpelling incoming row := by
  have hfinding : (row.merge core incoming jobId now).finding core =
      mergeFindings (row.finding core) incoming := core.fromDict_toDict _
  constructor
  · intro h
    have hsource := h.source
    have hasset := h.asset
    have hcve := h.cve
    have htitle := h.title
    rw [hfinding] at hsource hasset hcve htitle
    exact ⟨hsource, hasset, hcve, htitle⟩
  · intro h
    constructor <;> rw [hfinding]
    · exact h.source
    · rfl
    · rfl
    · exact h.host
    · exact h.cve
    · exact h.title
    · rfl
    · rw [fingerprint_mergeFindings]
      exact hfingerprint

/-- The fallback merge refreshes no column at all. -/
theorem mergeLost_inSync_iff {incoming : Finding} {now : Instant} {row : FindingRow}
    (hfingerprint : row.fingerprint = findingFingerprint core text incoming) :
    InSync core text (row.mergeLost core incoming now) ↔
      SameSpelling incoming row ∧ SameGrade core incoming row := by
  have hfinding : (row.mergeLost core incoming now).finding core =
      mergeFindings (row.finding core) incoming := core.fromDict_toDict _
  constructor
  · intro h
    obtain ⟨hsource, hseverity, hconfidence, hasset, hcve, htitle, hdescription, -⟩ := h
    rw [hfinding] at hsource hseverity hconfidence hasset hcve htitle hdescription
    exact ⟨⟨hsource, hasset, hcve, htitle⟩, ⟨hseverity, hconfidence, hdescription⟩⟩
  · rintro ⟨hspelling, hgrade⟩
    constructor <;> rw [hfinding]
    · exact hspelling.source
    · exact hgrade.severity
    · exact hgrade.confidence
    · exact hspelling.host
    · exact hspelling.cve
    · exact hspelling.title
    · exact hgrade.description
    · rw [fingerprint_mergeFindings]
      exact hfingerprint

/-- Triage changes neither payload nor repeated columns. -/
theorem triage_inSync {status : Option FindingStatus} {assignedTo : Option (Option String)}
    {now : Instant} {row : FindingRow} (h : InSync core text row) :
    InSync core text (row.triage status assignedTo now) :=
  ⟨h.source, h.severity, h.confidence, h.asset, h.cve, h.title, h.description, h.fingerprint⟩

end FindingRow

/-- A transaction of the finding store: either merge path of `_store_finding`, and
`update_lifecycle`. -/
inductive FindingAction
  | add (tenantId : String) (finding : Finding) (jobId : Option String)
  | addLost (tenantId : String) (finding : Finding)
  | triage (tenantId findingId : String) (status : Option FindingStatus)
      (assignedTo : Option (Option String)) (actor : String)

namespace FindingLifecycle

variable (core : CoreLibrary) (text : TextLibrary)

/-- A committed transaction; one that raises leaves the database alone and is no step. -/
def step (db : Database) (label : FindingAction × Moment) : Option Database :=
  match label.1 with
  | .add tenantId finding jobId => storeLocked core text db label.2 tenantId finding jobId
  | .addLost tenantId finding => storeLost core text db label.2 tenantId finding
  | .triage tenantId findingId status assignedTo actor =>
    some (updateLifecycle core db label.2 tenantId findingId status assignedTo actor).1

/-- Every row is in sync. -/
def InSync (db : Database) : Prop := ∀ row ∈ db.findings.rows, row.InSync core text

/-- The condition on a step: a finding that is merged is spelled like the row, and on the
fallback path it changes neither severity nor confidence nor description either. -/
def Agrees (db : Database) (label : FindingAction × Moment) : Prop :=
  match label.1 with
  | .add tenantId finding _ =>
    ∀ row ∈ findFingerprint db.findings tenantId (findingFingerprint core text finding),
      row.SameSpelling finding
  | .addLost tenantId finding =>
    ∀ row ∈ findFingerprint db.findings tenantId (findingFingerprint core text finding),
      row.SameSpelling finding ∧ row.SameGrade core finding
  | .triage .. => True

variable {core text}

/-- An update by fingerprint keeps every row in sync exactly if it keeps the row it finds so. -/
theorem inSync_update_iff {findings : Table FindingRow FindingRow.Conflict}
    {tenantId fingerprint : String} {change : FindingRow → FindingRow}
    (hchange : KeepsKeys FindingRow.Conflict change) {row : FindingRow}
    (hrow : findFingerprint findings tenantId fingerprint = some row)
    (hs : ∀ row ∈ findings.rows, row.InSync core text) :
    (∀ row ∈ (updateFingerprint findings tenantId fingerprint change hchange).rows,
      row.InSync core text) ↔ (change row).InSync core text := by
  constructor
  · exact fun h => h (change row) (change_mem_updateFingerprint hchange hrow)
  · intro h row' hmem
    rcases mem_updateFingerprint hchange hrow hmem with rfl | ⟨hold, -⟩
    · exact h
    · exact hs row' hold

/-- A step keeps every row in sync exactly if it agrees with the row it merges into. -/
theorem step_inSync_iff {db db' : Database} {label : FindingAction × Moment} (hs : InSync core text db)
    (h : step core text db label = some db') : InSync core text db' ↔ Agrees core text db label := by
  obtain ⟨action, m⟩ := label
  cases action with
  | add tenantId finding jobId =>
    obtain ⟨tenants, -, ⟨hnone, findings, hinsert, rfl⟩ | ⟨row, hrow, rfl⟩⟩ := storeLocked_cases h
    · have hrows := (Table.insert_eq_some hinsert).1
      refine ⟨fun _ row hrow => ?_, fun _ row hmem => ?_⟩
      · rw [hnone] at hrow
        cases hrow
      · change row ∈ findings.rows at hmem
        rw [hrows] at hmem
        rcases List.mem_append.mp hmem with hold | hnew
        · exact hs row hold
        · rw [List.mem_singleton.mp hnew]
          exact FindingRow.inSync_created _ _ _ _ _
    · have hagrees : Agrees core text db (.add tenantId finding jobId, m) ↔ row.SameSpelling finding := by
        simp [Agrees, hrow]
      rw [InSync, inSync_update_iff _ hrow hs, hagrees]
      exact FindingRow.merge_inSync_iff (fingerprint_of_find hrow).2.2
  | addLost tenantId finding =>
    obtain ⟨row, hrow, rfl⟩ := storeLost_cases h
    have hagrees : Agrees core text db (.addLost tenantId finding, m) ↔
        row.SameSpelling finding ∧ row.SameGrade core finding := by
      simp [Agrees, hrow]
    rw [InSync, inSync_update_iff _ hrow hs, hagrees]
    exact FindingRow.mergeLost_inSync_iff (fingerprint_of_find hrow).2.2
  | triage tenantId findingId status assignedTo actor =>
    cases h
    refine ⟨fun _ => trivial, fun _ => ?_⟩
    unfold updateLifecycle
    split
    · exact hs
    · intro row hmem
      obtain ⟨old, hold, rfl⟩ := List.mem_map.mp hmem
      dsimp only
      split
      · exact FindingRow.triage_inSync (hs old hold)
      · exact hs old hold

variable (core)

/-- The filters, read on the fields of the finding instead of on the columns that repeat them. -/
def RowFilter.matches (filter : RowFilter) (row : FindingRow) : Bool :=
  let finding := row.finding core
  wants filter.source (some finding.source) && wants filter.severity (some finding.severity) &&
    wants filter.host finding.host && wants filter.cve finding.cve &&
    wants filter.status (some row.status) && filter.since.all fun since => since ≤ row.lastSeen

/-- What `query` should return: the newest findings of the tenant whose own fields match. -/
def queryOwn (db : Database) (tenantId : String) (source : Option FindingSource)
    (severity : Option FindingSeverity) (host cve : Option String) (since : Option Instant)
    (limit : ℕ) : List Finding :=
  let rows := db.findings.select fun row => row.tenantId = tenantId &&
    RowFilter.matches core ⟨source, severity, host, cve, none, since⟩ row
  ((rows.insertionSort fun a b => b.lastSeen ≤ a.lastSeen).take limit).map (FindingRow.finding core)

/-- What `list_page` should return. -/
def listPageOwn (db : Database) (tenantId : String) (cursor : Option ℕ) (limit : ℕ)
    (source : Option FindingSource) (severity : Option FindingSeverity)
    (status : Option FindingStatus) : List FindingLifecycleRecord × Option ℕ :=
  let selected := db.findings.select fun row => row.tenantId = tenantId &&
    (cursor.all fun before => row.rowId < before) &&
    RowFilter.matches core ⟨source, severity, none, none, status, none⟩ row
  let rows := (orderBy FindingRow.rowId selected).reverse.take (limit + 1)
  let page := rows.take limit
  (page.map (recordFromRow core),
    if limit < rows.length then page.getLast?.map FindingRow.rowId else none)

variable (text)

/-- Columns and payloads agree, and the filters of `query` and `list_page` select exactly the
findings whose own fields match. -/
structure Faithful (db : Database) : Prop where
  inSync : InSync core text db
  query_eq : ∀ tenantId source severity host cve since limit,
    query core db tenantId source severity host cve since limit =
      queryOwn core db tenantId source severity host cve since limit
  listPage_eq : ∀ tenantId cursor limit source severity status,
    listPage core db tenantId cursor limit source severity status =
      listPageOwn core db tenantId cursor limit source severity status

variable {core text}

/-- On rows in sync a filter selects by the fields of the findings. -/
theorem select_eq_of_inSync {db : Database} (hs : InSync core text db) (wanted : FindingRow → Bool)
    (filter : RowFilter) : (db.findings.select fun row => wanted row && filter.selects row) =
      db.findings.select fun row => wanted row && filter.matches core row := by
  apply List.filter_congr
  intro row hrow
  have hsync := hs row hrow
  rw [RowFilter.selects, RowFilter.matches, hsync.source, hsync.severity, hsync.asset, hsync.cve]

/-- Rows in sync are all that faithful filters need. -/
theorem faithful_iff_inSync {db : Database} : Faithful core text db ↔ InSync core text db := by
  refine ⟨fun h => h.inSync, fun h => ⟨h, ?_, ?_⟩⟩
  · intro tenantId source severity host cve since limit
    unfold query queryOwn
    rw [select_eq_of_inSync h (fun row => row.tenantId = tenantId)]
  · intro tenantId cursor limit source severity status
    unfold listPage listPageOwn
    rw [select_eq_of_inSync h fun row => row.tenantId = tenantId &&
      cursor.all fun before => row.rowId < before]

instance (db : Database) : ∀ label, Decidable (Agrees core text db label)
  | (.add tenantId finding _, _) => inferInstanceAs (Decidable (∀ row ∈ findFingerprint db.findings
      tenantId (findingFingerprint core text finding), row.SameSpelling finding))
  | (.addLost tenantId finding, _) => inferInstanceAs (Decidable (∀ row ∈ findFingerprint db.findings
      tenantId (findingFingerprint core text finding),
        row.SameSpelling finding ∧ row.SameGrade core finding))
  | (.triage .., _) => isTrue trivial

end FindingLifecycle

/-- Along every run of the finding store, columns and payloads agree in every state exactly if
every merge is spelled like its row, and every fallback merge also leaves severity, confidence and
description as they are. -/
theorem columns_faithful_iff (core : CoreLibrary) (text : TextLibrary)
    {schedule : List (FindingAction × Moment)} {db : Database}
    (hrun : runSteps (FindingLifecycle.step core text) Database.empty schedule = some db) :
    AlwaysAlong (FindingLifecycle.step core text) (FindingLifecycle.Faithful core text) Database.empty
        schedule ↔
      GuardedAlong (FindingLifecycle.step core text) (FindingLifecycle.Agrees core text) Database.empty
        schedule := by
  refine alwaysAlong_iff_guardedAlong ?_ ?_ hrun
  · intro s label s' hs hstep
    rw [FindingLifecycle.faithful_iff_inSync] at hs ⊢
    exact FindingLifecycle.step_inSync_iff hs hstep
  · rw [FindingLifecycle.faithful_iff_inSync]
    intro row hrow
    cases hrow

/-- A finding of the SOC product on a host. -/
def hostFinding (id host : String) (severity : FindingSeverity) : Finding :=
  ⟨id, .soc, severity, 1 / 2, "Open port", "", some host, none, none, [], [], ∅, .obj []⟩

/-- Two occurrences with one spelling, and a third that a concurrent insert has beaten. -/
def sameSpelling : List (FindingAction × Moment) :=
  [(.add "tenant-a" (hostFinding "f1" "web-1" .low) none, ⟨0, "1"⟩),
    (.add "tenant-a" (hostFinding "f2" "web-1" .high) (some "job_1"), ⟨1, "2"⟩),
    (.addLost "tenant-a" (hostFinding "f3" "web-1" .medium), ⟨2, "3"⟩)]

set_option maxRecDepth 8000 in
/-- The theorem applies to these occurrences. -/
theorem columns_faithful_iff_sameSpelling :
    AlwaysAlong (FindingLifecycle.step FindingDict.core FindingDict.text)
      (FindingLifecycle.Faithful FindingDict.core FindingDict.text) Database.empty sameSpelling := by
  have hreach : (runSteps (FindingLifecycle.step FindingDict.core FindingDict.text) Database.empty
      sameSpelling).isSome = true := by decide
  have hguard : GuardedAlong (FindingLifecycle.step FindingDict.core FindingDict.text)
      (FindingLifecycle.Agrees FindingDict.core FindingDict.text) Database.empty sameSpelling := by
    decide +kernel
  obtain ⟨db, hrun⟩ := Option.isSome_iff_exists.mp hreach
  exact (columns_faithful_iff FindingDict.core FindingDict.text hrun).mpr hguard

set_option maxRecDepth 8000 in
/-- Another spelling of the host is merged into the row, whose column keeps the first one; and a
fallback merge raises the severity of the payload only. -/
theorem columns_drift :
    (∃ db ∈ runSteps (FindingLifecycle.step FindingDict.core FindingDict.text) Database.empty
        [(.add "tenant-a" (hostFinding "f1" "Web-1" .low) none, ⟨0, "1"⟩),
          (.add "tenant-a" (hostFinding "f2" "web-1" .low) none, ⟨1, "2"⟩)],
      (FindingLifecycle.query FindingDict.core db "tenant-a" none none (some "Web-1") none none 100).map
        Finding.host = [some "web-1"] ∧
      FindingLifecycle.query FindingDict.core db "tenant-a" none none (some "web-1") none none 100 = []) ∧
    ∃ db ∈ runSteps (FindingLifecycle.step FindingDict.core FindingDict.text) Database.empty
        [(.add "tenant-a" (hostFinding "f1" "web-1" .low) none, ⟨0, "1"⟩),
          (.addLost "tenant-a" (hostFinding "f2" "web-1" .high), ⟨1, "2"⟩)],
      db.findings.rows.map (fun row => (row.severity, (row.finding FindingDict.core).severity)) =
        [(.low, .high)] := by
  refine ⟨?_, by decide⟩
  have hreach : ∃ db ∈ runSteps (FindingLifecycle.step FindingDict.core FindingDict.text) Database.empty
      [(.add "tenant-a" (hostFinding "f1" "Web-1" .low) none, ⟨0, "1"⟩),
        (.add "tenant-a" (hostFinding "f2" "web-1" .low) none, ⟨1, "2"⟩)],
      (FindingLifecycle.query FindingDict.core db "tenant-a" none none (some "Web-1") none none 100).map
        Finding.host = [some "web-1"] ∧
      (FindingLifecycle.query FindingDict.core db "tenant-a" none none (some "web-1") none none
        100).length = 0 := by decide
  obtain ⟨db, hdb, hfound, hmissed⟩ := hreach
  exact ⟨db, hdb, hfound, List.length_eq_zero_iff.mp hmissed⟩

end SharedIntegration

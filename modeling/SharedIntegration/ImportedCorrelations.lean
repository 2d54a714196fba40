import SharedIntegration.MigrationReruns
import SharedIntegration.StoredCorrelations
import SharedIntegration.Library.History

/-!
# The links of imported correlations

Findings of a source may share a fingerprint with each other and with rows that are in the target already. While
they are imported, a map is kept from their ids to the id of the row that has their fingerprint, and every id that
a correlation lists is looked up in it.
-/

namespace SharedIntegration

open Relational Rerun FindingLifecycle

namespace Migration

variable {core : CoreLibrary} {lib : MigrationLibrary core} {text : TextLibrary} {now : Instant} {db db' : Database}

/-- A finding is in the source, under a tenant. -/
def SourceFinding (lib : MigrationLibrary core) (rows : List LegacyFinding) (tenantId : String) (finding : Finding) :
    Prop :=
  ∃ row ∈ rows, row.tenantId = tenantId ∧ legacyFinding lib row = .ok finding

/-- The findings of a source with their column `finding_id`, which is unique in a tenant and the id in the payload. -/
structure IdColumn (lib : MigrationLibrary core) (rows : List LegacyFinding) (keyed : List (String × LegacyFinding)) :
    Prop where
  rows : keyed.map Prod.snd = rows
  unique : keyed.Pairwise fun a b => a.2.tenantId = b.2.tenantId → a.1 ≠ b.1
  payload : ∀ entry ∈ keyed, ∀ finding, legacyFinding lib entry.2 = .ok finding → finding.id = entry.1

/-- Each link belongs to a correlation, as the foreign key requires. -/
def Linked (db : Database) : Prop :=
  ∀ link ∈ db.correlationFindings.rows, ∃ row ∈ db.correlations.rows, row.id = link.correlationId

/-- A correlation of the source that an import into a target adds: neither the target nor an earlier row has its id. -/
structure NewlyImported (lib : MigrationLibrary core) (source : LegacySource) (db : Database) (row : LegacyCorrelation)
    (payload : Document) : Prop where
  decodes : jsonObject "correlation payload" row.payload = .ok payload
  fresh : ∀ old ∈ db.correlations.rows, old.id ≠ legacyCorrelationId lib row.tenantId row.seq payload
  first : ∃ before after, source.correlationRows = before ++ row :: after ∧
    ∀ other ∈ before, ∀ document, jsonObject "correlation payload" other.payload = .ok document →
      legacyCorrelationId lib other.tenantId other.seq document ≠ legacyCorrelationId lib row.tenantId row.seq payload

/-- The links of a correlation. -/
def linksOf (db : Database) (correlationId : String) : List CorrelationFindingRow :=
  db.correlationFindings.select fun link => link.correlationId = correlationId

/-- A row of a tenant has the fingerprint of a finding, and this finding id. -/
def StoredAs (core : CoreLibrary) (text : TextLibrary) (db : Database) (tenantId : String) (finding : Finding) (findingId : String) : Prop :=
  ∃ stored ∈ db.findings.rows, stored.tenantId = tenantId ∧
    stored.fingerprint = findingFingerprint core text finding ∧ stored.findingId = findingId

/-- The links of a correlation point at the right findings: without repetition, at the row with the fingerprint of
each listed finding that the source has, and otherwise only at listed ids that the source does not have. -/
structure PointsRight (lib : MigrationLibrary core) (text : TextLibrary) (source : LegacySource) (db : Database)
    (tenantId : String) (listed : List String) (links : List CorrelationFindingRow) : Prop where
  tenant : ∀ link ∈ links, link.tenantId = tenantId
  distinct : (links.map CorrelationFindingRow.findingId).Nodup
  found : ∀ finding, SourceFinding lib source.findingRows tenantId finding → finding.id ∈ listed →
    ∃ findingId ∈ links.map CorrelationFindingRow.findingId, StoredAs core text db tenantId finding findingId
  only : ∀ findingId ∈ links.map CorrelationFindingRow.findingId,
    (∃ finding, SourceFinding lib source.findingRows tenantId finding ∧ finding.id ∈ listed ∧
      StoredAs core text db tenantId finding findingId) ∨
    findingId ∈ listed ∧ ∀ finding, SourceFinding lib source.findingRows tenantId finding → finding.id ≠ findingId

/-! ### The map of finding ids -/

/-- The map knows each finding that was imported or skipped, under the id of the row with its fingerprint. -/
structure Mapped (lib : MigrationLibrary core) (text : TextLibrary) (done : List LegacyFinding)
    (state : Database × FindingIds) : Prop where
  known : ∀ row ∈ done, ∀ finding, legacyFinding lib row = .ok finding →
    ∃ findingId, Json.getEntry state.2 (row.tenantId, finding.id) = some findingId ∧
      StoredAs core text state.1 row.tenantId finding findingId
  missing : ∀ tenantId findingId, (∀ finding, SourceFinding lib done tenantId finding → finding.id ≠ findingId) →
    Json.getEntry state.2 (tenantId, findingId) = none

/-- Before the import the map is empty. -/
theorem mapped_nil (db : Database) : Mapped lib text [] (db, []) :=
  ⟨fun _ hrow => absurd hrow List.not_mem_nil, fun _ _ _ => rfl⟩

/-- Ids of the payloads of one tenant differ. -/
theorem IdColumn.distinct {rows : List LegacyFinding} {keyed : List (String × LegacyFinding)}
    (h : IdColumn lib rows keyed) : rows.Pairwise fun a b => a.tenantId = b.tenantId →
      ∀ finding other, legacyFinding lib a = .ok finding → legacyFinding lib b = .ok other → finding.id ≠ other.id := by
  rw [← h.rows, List.pairwise_map]
  refine h.unique.imp_of_mem fun {a b} ha hb hne htenant finding other hfinding hother => ?_
  rw [h.payload a ha finding hfinding, h.payload b hb other hother]
  exact hne htenant

/-- One row keeps the map right, as long as its id is new to its tenant. -/
theorem Mapped.step {done : List LegacyFinding} {state state' : Database × FindingIds} {row : LegacyFinding}
    {isNew : Bool} (h : Mapped lib text done state)
    (hdistinct : ∀ old ∈ done, old.tenantId = row.tenantId → ∀ finding other, legacyFinding lib old = .ok finding →
      legacyFinding lib row = .ok other → finding.id ≠ other.id)
    (hstep : importFinding lib text now state row = .ok (state', isNew)) : Mapped lib text (done ++ [row]) state' := by
  obtain ⟨finding, hfinding, hcases⟩ := importFinding_cases hstep
  have hwrites : ∃ findingId, state'.2 = Json.setEntry state.2 (row.tenantId, finding.id) findingId ∧
      StoredAs core text state'.1 row.tenantId finding findingId ∧
      ∀ stored ∈ state.1.findings.rows, stored ∈ state'.1.findings.rows := by
    rcases hcases with ⟨existing, -, hfind, rfl⟩ | ⟨findings, -, hinsert, rfl⟩
    · obtain ⟨hmem, htenant, hfingerprint⟩ := fingerprint_of_find hfind
      exact ⟨existing.findingId, rfl, ⟨existing, hmem, htenant, hfingerprint, rfl⟩, fun _ hstored => hstored⟩
    · have hrows := (Table.insert_eq_some hinsert).1
      refine ⟨finding.id, rfl, ⟨_, mem_of_insert hinsert, rfl, rfl, rfl⟩, fun stored hstored => ?_⟩
      rw [hrows]
      exact List.mem_append_left _ hstored
  obtain ⟨findingId, hids, hself, hkept⟩ := hwrites
  constructor
  · intro old hold other hother
    rw [hids, Json.getEntry_setEntry]
    rcases List.mem_append.mp hold with hbefore | hlast
    · have hne : (old.tenantId, other.id) ≠ (row.tenantId, finding.id) := fun heq =>
        hdistinct old hbefore (Prod.mk.inj heq).1 other finding hother hfinding (Prod.mk.inj heq).2
      obtain ⟨known, hknown, stored, hstored, hrest⟩ := h.known old hbefore other hother
      rw [if_neg hne]
      exact ⟨known, hknown, stored, hkept stored hstored, hrest⟩
    · obtain rfl := List.mem_singleton.mp hlast
      obtain rfl := Except.ok.inj (hfinding.symm.trans hother)
      exact ⟨findingId, if_pos rfl, hself⟩
  · intro tenantId wanted habsent
    have hne : (tenantId, wanted) ≠ (row.tenantId, finding.id) := fun heq =>
      habsent finding ⟨row, List.mem_append_right _ (List.mem_singleton_self row), (Prod.mk.inj heq).1.symm, hfinding⟩
        (Prod.mk.inj heq).2.symm
    rw [hids, Json.getEntry_setEntry, if_neg hne]
    apply h.missing
    rintro other ⟨old, hold, hrest⟩
    exact habsent other ⟨old, List.mem_append_left _ hold, hrest⟩

/-- After the import of all findings the map is right. -/
theorem mapped_importAll {rows : List LegacyFinding} {keyed : List (String × LegacyFinding)}
    (hkeyed : IdColumn lib rows keyed) {state : Database × FindingIds} {tally : Tally}
    (h : importAll (importFinding lib text now) (db, []) rows = .ok (state, tally)) : Mapped lib text rows state := by
  refine importAll_history (Mapped lib text) (fun done row t t' isNew hprefix ht hstep => ?_) (mapped_nil db) h
  have hpairs := List.pairwise_append.mp (hkeyed.distinct.sublist hprefix.sublist)
  exact ht.step (fun old hold => hpairs.2.2 old hold row (List.mem_singleton_self row)) hstep

/-! ### The links that are written -/

/-- What the import of a correlation whose id is new adds. -/
theorem importCorrelation_new {ids : FindingIds} {row : LegacyCorrelation} {payload : Document} {isNew : Bool}
    (hpayload : jsonObject "correlation payload" row.payload = .ok payload)
    (hfresh : ∀ old ∈ db.correlations.rows, old.id ≠ legacyCorrelationId lib row.tenantId row.seq payload)
    (h : importCorrelation lib ids now db row = .ok (db', isNew)) :
    ∃ items new, legacyLinks payload = .ok items ∧ new.id = legacyCorrelationId lib row.tenantId row.seq payload ∧
      new.tenantId = row.tenantId ∧ insertLinked db new
        ((items.map fun findingId => mappedId ids row.tenantId (lib.str findingId)).eraseDups) = some db' := by
  obtain ⟨document, hdocument, ⟨-, -, old, hold, hid⟩ | ⟨new, items, -, hid, ⟨hitems, htenant⟩, hinsert⟩⟩ :=
    importCorrelation_cases h
  · obtain rfl := Except.ok.inj (hpayload.symm.trans hdocument)
    exact absurd hid (hfresh old hold)
  · obtain rfl := Except.ok.inj (hpayload.symm.trans hdocument)
    exact ⟨items, new, hitems, hid, htenant, hinsert⟩

/-- The rows that are inserted with a correlation. -/
theorem insertLinked_rows {row : CorrelationRow} {findingIds : List String}
    (h : insertLinked db row findingIds = some db') :
    db'.correlations.rows = db.correlations.rows ++ [row] ∧ (∀ old ∈ db.correlations.rows, old.id ≠ row.id) ∧
      db'.correlationFindings.rows =
        db.correlationFindings.rows ++ findingIds.map (fun findingId => ⟨row.tenantId, row.id, findingId⟩) ∧
      db'.findings = db.findings := by
  unfold insertLinked at h
  obtain ⟨correlations, hinsert, h⟩ := Option.bind_eq_some_iff.mp h
  obtain ⟨links, hlinks, h⟩ := Option.bind_eq_some_iff.mp h
  cases h
  obtain ⟨hrows, hfree⟩ := Table.insert_eq_some hinsert
  exact ⟨hrows, hfree, rows_insertLinks hlinks, rfl⟩

/-- What the insert of a correlation does to the links of one. -/
theorem linksOf_insertLinked {row : CorrelationRow} {findingIds : List String}
    (h : insertLinked db row findingIds = some db') (correlationId : String) :
    linksOf db' correlationId = linksOf db correlationId ++
      if row.id = correlationId then findingIds.map (fun findingId => ⟨row.tenantId, row.id, findingId⟩) else [] := by
  unfold linksOf Table.select
  rw [(insertLinked_rows h).2.2.1, List.filter_append, List.filter_map]
  split
  · next hid => simp [Function.comp_def, hid]
  · next hid => simp [Function.comp_def, hid]

/-- The insert of a correlation keeps its links to correlations. -/
theorem Linked.insertLinked {row : CorrelationRow} {findingIds : List String} (hlinked : Linked db)
    (h : Migration.insertLinked db row findingIds = some db') : Linked db' := by
  obtain ⟨hrows, -, hlinks, -⟩ := insertLinked_rows h
  intro link hlink
  rw [hlinks] at hlink
  rw [hrows]
  rcases List.mem_append.mp hlink with hold | hnew
  · obtain ⟨old, hmem, hid⟩ := hlinked link hold
    exact ⟨old, List.mem_append_left _ hmem, hid⟩
  · obtain ⟨findingId, -, rfl⟩ := List.mem_map.mp hnew
    exact ⟨row, List.mem_append_right _ (List.mem_singleton_self row), rfl⟩

/-- A correlation that is not stored has no links. -/
theorem Linked.linksOf_eq_nil (hlinked : Linked db) {correlationId : String}
    (hfresh : ∀ old ∈ db.correlations.rows, old.id ≠ correlationId) : linksOf db correlationId = [] := by
  refine List.filter_eq_nil_iff.mpr fun link hlink hid => ?_
  obtain ⟨old, hold, hsame⟩ := hlinked link hlink
  exact hfresh old hold (hsame.trans (of_decide_eq_true hid))

/-- Rows with other ids leave a correlation that is not stored so, and every link linked. -/
theorem fresh_importAll {ids : FindingIds} {rows : List LegacyCorrelation} {tally : Tally} {correlationId : String}
    (hother : ∀ row ∈ rows, ∀ payload, jsonObject "correlation payload" row.payload = .ok payload →
      legacyCorrelationId lib row.tenantId row.seq payload ≠ correlationId)
    (hlinked : Linked db) (hfresh : ∀ old ∈ db.correlations.rows, old.id ≠ correlationId)
    (h : importAll (importCorrelation lib ids now) db rows = .ok (db', tally)) :
    Linked db' ∧ ∀ old ∈ db'.correlations.rows, old.id ≠ correlationId := by
  refine importAll_invariant (fun db => Linked db ∧ ∀ old ∈ db.correlations.rows, old.id ≠ correlationId) ?_
    ⟨hlinked, hfresh⟩ h
  rintro db row db' isNew hrow ⟨hlinked, hfresh⟩ hstep
  obtain ⟨payload, hpayload, ⟨-, rfl, -⟩ | ⟨new, items, -, hid, -, hinsert⟩⟩ := importCorrelation_cases hstep
  · exact ⟨hlinked, hfresh⟩
  · refine ⟨hlinked.insertLinked hinsert, fun old hold => ?_⟩
    rw [(insertLinked_rows hinsert).1] at hold
    rcases List.mem_append.mp hold with hbefore | hlast
    · exact hfresh old hbefore
    · rw [List.mem_singleton.mp hlast, hid]
      exact hother row hrow payload hpayload

/-- Further rows leave the links of a stored correlation alone. -/
theorem linksOf_importAll {ids : FindingIds} {rows : List LegacyCorrelation} {tally : Tally} {correlationId : String}
    (hstored : ∃ old ∈ db.correlations.rows, old.id = correlationId)
    (h : importAll (importCorrelation lib ids now) db rows = .ok (db', tally)) :
    linksOf db' correlationId = linksOf db correlationId := by
  refine (importAll_invariant (fun t : Database => (∃ old ∈ t.correlations.rows, old.id = correlationId) ∧
    linksOf t correlationId = linksOf db correlationId) ?_ ⟨hstored, rfl⟩ h).2
  rintro t row t' isNew - ⟨⟨old, hold, hid⟩, hsame⟩ hstep
  obtain ⟨payload, -, ⟨-, rfl, -⟩ | ⟨new, items, -, -, -, hinsert⟩⟩ := importCorrelation_cases hstep
  · exact ⟨⟨old, hold, hid⟩, hsame⟩
  · obtain ⟨hrows, hfree, -, -⟩ := insertLinked_rows hinsert
    refine ⟨⟨old, ?_, hid⟩, ?_⟩
    · rw [hrows]
      exact List.mem_append_left _ hold
    · rw [linksOf_insertLinked hinsert, if_neg fun hnew => hfree old hold (hid.trans hnew.symm), List.append_nil, hsame]

/-- The import of correlations leaves the findings alone. -/
theorem findings_importAll {ids : FindingIds} {rows : List LegacyCorrelation} {tally : Tally}
    (h : importAll (importCorrelation lib ids now) db rows = .ok (db', tally)) : db'.findings = db.findings := by
  refine importAll_invariant (fun t : Database => t.findings = db.findings) ?_ rfl h
  intro t row t' isNew _ hsame hstep
  obtain ⟨payload, -, ⟨-, rfl, -⟩ | ⟨new, items, -, -, -, hinsert⟩⟩ := importCorrelation_cases hstep
  · exact hsame
  · exact (insertLinked_rows hinsert).2.2.2.trans hsame

/-- The other tables are imported without a change to correlations and their links. -/
theorem importTables_correlations {source : LegacySource} {result : Imported}
    (h : importTables lib text source now db = .ok result) :
    ∃ db₃ db₄ ids, importAll (importFinding lib text now) (db₃, []) source.findingRows = .ok ((db₄, ids), result.findings) ∧
      importAll (importCorrelation lib ids now) db₄ source.correlationRows = .ok (result.db, result.correlations) ∧
      db₄.correlations = db.correlations ∧ db₄.correlationFindings = db.correlationFindings := by
  obtain ⟨db₁, db₂, db₃, db₄, ids, htenants, hjobs, hevents, hfindings, hcorrelations⟩ := importTables_eq_ok h
  let Same (t t' : Database) : Prop := t'.correlations = t.correlations ∧ t'.correlationFindings = t.correlationFindings
  have h₁ : Same db db₁ := by
    refine importAll_invariant (Same db) (fun t row t' isNew _ hsame hstep => ?_) ⟨rfl, rfl⟩ htenants
    rcases importTenant_cases hstep with ⟨-, rfl, -⟩ | ⟨tenants, -, rfl, -⟩
    · exact hsame
    · exact hsame
  have h₂ : Same db db₂ := by
    refine importAll_invariant (Same db) (fun t row t' isNew _ hsame hstep => ?_) h₁ hjobs
    rcases importJob_cases hstep with ⟨-, rfl, -⟩ | ⟨_, _, _, _, jobTables, -, rfl, -⟩
    · exact hsame
    · exact hsame
  have h₃ : Same db db₃ := by
    refine importAll_invariant (Same db) (fun t row t' isNew _ hsame hstep => ?_) h₂ hevents
    rcases importJobEvent_cases hstep with ⟨-, rfl, -⟩ | ⟨_, _, jobTables, -, rfl, -⟩
    · exact hsame
    · exact hsame
  have h₄ : Same db db₄ := by
    refine importAll_invariant (fun state : Database × FindingIds => Same db state.1)
      (fun t row t' isNew _ hsame hstep => ?_) h₃ hfindings
    obtain ⟨finding, -, ⟨existing, -, -, rfl⟩ | ⟨findings, -, -, rfl⟩⟩ := importFinding_cases hstep
    · exact hsame
    · exact hsame
  exact ⟨db₃, db₄, ids, hfindings, hcorrelations, h₄.1, h₄.2⟩

/-- A right map sends each listed id to where its link should point. -/
theorem Mapped.mappedId {rows : List LegacyFinding} {state : Database × FindingIds} (h : Mapped lib text rows state)
    (tenantId listed : String) :
    (∀ finding, SourceFinding lib rows tenantId finding → finding.id = listed →
      StoredAs core text state.1 tenantId finding (mappedId state.2 tenantId listed)) ∧
    ((∀ finding, SourceFinding lib rows tenantId finding → finding.id ≠ listed) →
      Migration.mappedId state.2 tenantId listed = listed) := by
  constructor
  · rintro finding ⟨row, hrow, rfl, hfinding⟩ rfl
    obtain ⟨findingId, hknown, hstored⟩ := h.known row hrow finding hfinding
    rw [Migration.mappedId, hknown]
    exact hstored
  · intro habsent
    rw [Migration.mappedId, h.missing tenantId listed habsent]
    rfl

/-- What a run that succeeds leaves of a correlation that it has added: the ids that it lists, each sent through a
right map, without repetition. -/
theorem linksOf_run {source : LegacySource} {keyed : List (String × LegacyFinding)}
    (hkeyed : IdColumn lib source.findingRows keyed) {target target' : MigrationTarget} {report : MigrationReport}
    (hlinked : Linked target.toDatabase) (hrun : run lib text source true now target = (target', .ok report))
    {row : LegacyCorrelation} {payload : Document} (hnew : NewlyImported lib source target.toDatabase row payload) :
    ∃ items state, legacyLinks payload = .ok items ∧ Mapped lib text source.findingRows state ∧
      state.1.findings = target'.findings ∧
      linksOf target'.toDatabase (legacyCorrelationId lib row.tenantId row.seq payload) =
        ((items.map lib.str).map (Migration.mappedId state.2 row.tenantId)).eraseDups.map fun findingId =>
          ⟨row.tenantId, legacyCorrelationId lib row.tenantId row.seq payload, findingId⟩ := by
  obtain ⟨-, result, auditEvents, hresult, htables, -⟩ := run_imports hrun
  obtain ⟨db₃, db₄, ids, hfindings, hcorrelations, hsame, hsameLinks⟩ := importTables_correlations hresult
  have hstays : result.db.findings = db₄.findings := findings_importAll hcorrelations
  obtain ⟨before, after, hsplit, hfirst⟩ := hnew.first
  rw [hsplit] at hcorrelations
  obtain ⟨t, _, _, hbefore, hrest⟩ := importAll_append hcorrelations
  obtain ⟨t', isNew, _, hstep, hafter, -⟩ := importAll_cons_eq_ok hrest
  -- no correlation has this id when its row is reached
  obtain ⟨hlinkedAt, hfresh⟩ : Linked t ∧ ∀ old ∈ t.correlations.rows,
      old.id ≠ legacyCorrelationId lib row.tenantId row.seq payload := by
    apply fresh_importAll hfirst _ _ hbefore
    · unfold Linked
      rw [hsameLinks, hsame]
      exact hlinked
    · rw [hsame]
      exact hnew.fresh
  obtain ⟨items, new, hitems, hid, htenant, hinsert⟩ := importCorrelation_new hnew.decodes hfresh hstep
  have hstored : ∃ old ∈ t'.correlations.rows, old.id = legacyCorrelationId lib row.tenantId row.seq payload := by
    rw [(insertLinked_rows hinsert).1]
    exact ⟨new, List.mem_append_right _ (List.mem_singleton_self new), hid⟩
  refine ⟨items, (db₄, ids), hitems, mapped_importAll hkeyed hfindings, ?_, ?_⟩
  · have hafterwards := congrArg Database.findings htables
    exact (hafterwards.trans hstays).symm
  · rw [htables]
    change linksOf result.db _ = _
    rw [linksOf_importAll hstored hafter, linksOf_insertLinked hinsert, hlinkedAt.linksOf_eq_nil hfresh, if_pos hid,
      htenant, hid, List.map_map]
    rfl

/-- Links that are written through a right map point at the right findings. -/
theorem pointsRight_of_mapped {source : LegacySource} {state : Database × FindingIds}
    (h : Mapped lib text source.findingRows state) (hfindings : state.1.findings = db.findings)
    (tenantId correlationId : String) (listed : List String) :
    PointsRight lib text source db tenantId listed
      (((listed.map (Migration.mappedId state.2 tenantId)).eraseDups).map fun findingId =>
        ⟨tenantId, correlationId, findingId⟩) := by
  have hids : ((((listed.map (Migration.mappedId state.2 tenantId)).eraseDups).map fun findingId =>
      (⟨tenantId, correlationId, findingId⟩ : CorrelationFindingRow)).map CorrelationFindingRow.findingId) =
        (listed.map (Migration.mappedId state.2 tenantId)).eraseDups := by
    rw [List.map_map]
    exact List.map_id _
  have hstored : ∀ finding findingId, StoredAs core text state.1 tenantId finding findingId →
      StoredAs core text db tenantId finding findingId := by
    unfold StoredAs
    rw [hfindings]
    exact fun finding findingId hstored => hstored
  have hpoints : ∀ finding, SourceFinding lib source.findingRows tenantId finding →
      StoredAs core text db tenantId finding (Migration.mappedId state.2 tenantId finding.id) :=
    fun finding hfinding => hstored finding _ ((h.mappedId tenantId finding.id).1 finding hfinding rfl)
  constructor
  · intro link hlink
    obtain ⟨findingId, -, rfl⟩ := List.mem_map.mp hlink
    rfl
  · rw [hids]
    exact History.nodup_eraseDups _
  · intro finding hfinding hlisted
    rw [hids]
    exact ⟨_, List.mem_eraseDups.mpr (List.mem_map_of_mem hlisted), hpoints finding hfinding⟩
  · intro findingId hmem
    rw [hids] at hmem
    obtain ⟨id, hlisted, rfl⟩ := List.mem_map.mp (List.mem_eraseDups.mp hmem)
    by_cases hpresent : ∃ finding, SourceFinding lib source.findingRows tenantId finding ∧ finding.id = id
    · obtain ⟨finding, hfinding, rfl⟩ := hpresent
      exact .inl ⟨finding, hfinding, hlisted, hpoints finding hfinding⟩
    · have habsent : ∀ finding, SourceFinding lib source.findingRows tenantId finding → finding.id ≠ id :=
        fun finding hfinding hid => hpresent ⟨finding, hfinding, hid⟩
      rw [(h.mappedId tenantId id).2 habsent]
      exact .inr ⟨hlisted, habsent⟩

end Migration

/-- After an import that succeeds, the links of each correlation that it has added point at the right findings. -/
theorem imported_correlations_point_right {core : CoreLibrary} (lib : MigrationLibrary core) (text : TextLibrary)
    {source : LegacySource} {keyed : List (String × LegacyFinding)}
    (hkeyed : Migration.IdColumn lib source.findingRows keyed) (now : Instant) {target target' : MigrationTarget}
    {report : MigrationReport} (hlinked : Migration.Linked target.toDatabase)
    (hrun : Migration.run lib text source true now target = (target', .ok report)) {row : LegacyCorrelation}
    {payload : Document} (hnew : Migration.NewlyImported lib source target.toDatabase row payload) :
    ∃ items, Migration.legacyLinks payload = .ok items ∧
      Migration.PointsRight lib text source target'.toDatabase row.tenantId (items.map lib.str)
        (Migration.linksOf target'.toDatabase (Migration.legacyCorrelationId lib row.tenantId row.seq payload)) := by
  obtain ⟨items, state, hitems, hmapped, hfindings, hlinks⟩ := Migration.linksOf_run hkeyed hlinked hrun hnew
  refine ⟨items, hitems, ?_⟩
  rw [hlinks]
  exact Migration.pointsRight_of_mapped hmapped hfindings row.tenantId _ _

/-- Findings of which two share a fingerprint, with their ids. -/
def collidingFindings : List (String × LegacyFinding) :=
  [("f0", "web-1"), ("f1", "web-1"), ("f2", "web-2")].map fun (id, host) =>
    (id, ⟨"tenant-a", some (FindingDict.toDict (hostFinding id host .high))⟩)

/-- A correlation of them that also lists an unknown id. -/
def collidingPayload : Document :=
  .obj [("rule_id", .str "legacy-rule"), ("findings", FindingDict.texts ["f1", "f2", "ghost", "f0"]),
    ("severity", .str "high"), ("narrative", .str "Legacy correlation")]

/-- A source with that correlation. -/
def collidingSource : LegacySource :=
  ⟨"/data/legacy.sqlite3", none, none, some (collidingFindings.map Prod.snd), some [⟨1, "tenant-a", some collidingPayload⟩]⟩

/-- A target that knows the last of the findings under another id. -/
def occupiedTarget : MigrationTarget :=
  ⟨{ IdentityDatabase.empty with toDatabase := (FindingLifecycle.addForJob FindingDict.core FindingDict.text .empty
    ⟨0, "1"⟩ "tenant-a" (hostFinding "known" "web-2" .low) none).1 }, []⟩

set_option maxRecDepth 8000 in
/-- The ids of that source are those of its payloads. -/
theorem collidingFindings_idColumn :
    Migration.IdColumn sampleLibrary collidingSource.findingRows collidingFindings where
  rows := rfl
  unique := by decide +kernel
  payload entry hentry finding hfinding := by
    have hids : ∀ entry ∈ collidingFindings, (match Migration.legacyFinding sampleLibrary entry.2 with
        | .ok finding => decide (finding.id = entry.1)
        | .error _ => true) = true := by
      decide +kernel
    have hid := hids entry hentry
    rw [hfinding] at hid
    exact of_decide_eq_true hid

set_option maxRecDepth 8000 in
/-- The theorem applies to this import: the links are one to the shared row, one to the known row and one to the
unknown id. -/
theorem imported_correlations_point_right_colliding :
    let after := (Migration.run sampleLibrary FindingDict.text collidingSource true 5 occupiedTarget).1.toDatabase
    let links := Migration.linksOf after (Migration.legacyCorrelationId sampleLibrary "tenant-a" 1 collidingPayload)
    (∃ items, Migration.legacyLinks collidingPayload = .ok items ∧
      Migration.PointsRight sampleLibrary FindingDict.text collidingSource after "tenant-a"
        (items.map sampleLibrary.str) links) ∧
    links.map CorrelationFindingRow.findingId = ["f0", "known", "ghost"] := by
  have hreport : (Migration.run sampleLibrary FindingDict.text collidingSource true 5 occupiedTarget).2 =
      .ok ⟨false, ⟨1, 0, 0, 3, 1⟩, ⟨0, 0, 0, 1, 1⟩, ⟨1, 0, 0, 2, 0⟩⟩ := by
    decide +kernel
  have hnew : Migration.NewlyImported sampleLibrary collidingSource occupiedTarget.toDatabase
      ⟨1, "tenant-a", some collidingPayload⟩ collidingPayload :=
    ⟨rfl, fun _ hold => absurd hold List.not_mem_nil, [], [], rfl, fun _ hother => absurd hother List.not_mem_nil⟩
  refine ⟨imported_correlations_point_right sampleLibrary FindingDict.text collidingFindings_idColumn 5
    (fun _ hlink => absurd hlink List.not_mem_nil) (Prod.ext rfl hreport) hnew, ?_⟩
  decide +kernel

end SharedIntegration

import SharedIntegration.Storable
import SharedIntegration.RetainedFindings
import SharedIntegration.Library.OpenOrder

/-!
# How correlations are read back

The SQLite registry stores a correlation as one document and reads it as it was added. The relational registry
stores a row and one link for each finding; it reads the rows in the order of their creation times, and the
links in no order of their own. A row that was stored earlier comes first only if its time is smaller.
-/

namespace SharedIntegration

open Relational Transition

namespace FindingLifecycle

/-- The findings of a correlation, in the order in which its links were read. -/
def linked (links : List CorrelationFindingRow) (row : CorrelationRow) : List String :=
  (links.filter fun link => link.correlationId = row.id).map CorrelationFindingRow.findingId

/-- The correlation that a row and the links of its tenant are read as. -/
def correlationOf (links : List CorrelationFindingRow) (row : CorrelationRow) : Correlation :=
  ⟨row.ruleId, linked links row, row.severity, row.narrative⟩

/-- The rows of the correlations of a tenant. -/
def correlationRows (db : Database) (tenantId : String) : List CorrelationRow :=
  db.correlations.select fun row => row.tenantId = tenantId

/-- The links of the correlations of a tenant. -/
def correlationLinks (db : Database) (tenantId : String) : List CorrelationFindingRow :=
  db.correlationFindings.select fun link => link.tenantId = tenantId

/-- `correlations` may return this list: the rows come in the order of their creation times, the links in any. -/
def CorrelationsRead (db : Database) (tenantId : String) (read : List Correlation) : Prop :=
  ∃ rows links, OrderedBy CorrelationRow.createdAt (correlationRows db tenantId) rows ∧
    links.Perm (correlationLinks db tenantId) ∧ read = rows.map (correlationOf links)

/-- A list may be taken for a permutation of it, and all others for themselves. -/
theorem update_perm {Row : Type} [DecidableEq (List Row)] {rows rows' : List Row} (h : rows'.Perm rows)
    (stored : List Row) : (Function.update id rows rows' stored).Perm stored := by
  by_cases hstored : stored = rows
  · rw [hstored, Function.update_self]
    exact h
  · rw [Function.update_of_ne hstored]
    exact .refl _

/-- What may be returned is what the call returns in one order or another. -/
theorem correlationsRead_iff {db : Database} {tenantId : String} {read : List Correlation} :
    CorrelationsRead db tenantId read ↔ ∃ scan : ScanOrder, read = correlations scan db tenantId := by
  classical
  constructor
  · rintro ⟨rows, links, hrows, hlinks, rfl⟩
    let scan : ScanOrder :=
      ⟨Function.update id (correlationRows db tenantId) rows, Function.update id (correlationLinks db tenantId) links,
        update_perm hrows.perm, update_perm hlinks⟩
    refine ⟨scan, ?_⟩
    have hscanned : scan.rows (correlationRows db tenantId) = rows := Function.update_self ..
    have hscanned' : scan.links (correlationLinks db tenantId) = links := Function.update_self ..
    change _ = ((scan.rows (correlationRows db tenantId)).insertionSort _).map
      (correlationOf (scan.links (correlationLinks db tenantId)))
    rw [hscanned, hscanned', hrows.sorted.insertionSort_eq]
  · rintro ⟨scan, rfl⟩
    have htotal : Std.Total fun a b : CorrelationRow => a.createdAt ≤ b.createdAt := ⟨fun _ _ => Int.le_total _ _⟩
    have htrans : IsTrans CorrelationRow fun a b => a.createdAt ≤ b.createdAt := ⟨fun _ _ _ => Int.le_trans⟩
    exact ⟨_, _, ⟨(List.perm_insertionSort _ _).trans (scan.rows_perm _), List.pairwise_insertionSort _ _⟩,
      scan.links_perm _, rfl⟩

/-- The drawn id belongs to no correlation yet. -/
def FreshCorrelation (db : Database) (m : Moment) : Prop :=
  (∀ row ∈ db.correlations.rows, row.id ≠ "corr_" ++ m.uuid) ∧
    ∀ link ∈ db.correlationFindings.rows, link.correlationId ≠ "corr_" ++ m.uuid

instance (db : Database) (m : Moment) : Decidable (FreshCorrelation db m) :=
  inferInstanceAs (Decidable ((∀ row ∈ db.correlations.rows, row.id ≠ "corr_" ++ m.uuid) ∧
    ∀ link ∈ db.correlationFindings.rows, link.correlationId ≠ "corr_" ++ m.uuid))

/-- The database, the correlations that were added, and whether every call has returned. -/
structure Adding where
  db : Database
  added : List Correlation
  returned : Bool

/-- One call of `add_correlation` of a tenant, which draws a new id. -/
def addStep (tenantId : String) (s : Adding) (call : Correlation × Moment) : Option Adding :=
  if FreshCorrelation s.db call.2 then
    some ⟨(addCorrelation s.db call.2 tenantId call.1).1, s.added ++ [call.1],
      s.returned && (addCorrelation s.db call.2 tenantId call.1).2.isOk⟩
  else none

/-- Every call has returned, and the correlations are read as they were added, whatever the order of the rows
is as far as it is open. -/
def Survive (tenantId : String) (s : Adding) : Prop :=
  s.returned = true ∧ ∀ read, CorrelationsRead s.db tenantId read → read = s.added

/-- A stored row and its links tell the same correlation. -/
structure Tells (db : Database) (tenantId : String) (row : CorrelationRow) (correlation : Correlation) : Prop where
  ruleId : row.ruleId = correlation.ruleId
  severity : row.severity = correlation.severity
  narrative : row.narrative = correlation.narrative
  findings : ∀ id, ⟨tenantId, row.id, id⟩ ∈ db.correlationFindings.rows ↔ id ∈ correlation.findings

instance (db : Database) (tenantId : String) (row : CorrelationRow) (correlation : Correlation) :
    Decidable (Tells db tenantId row correlation) :=
  decidable_of_iff (row.ruleId = correlation.ruleId ∧ row.severity = correlation.severity ∧
      row.narrative = correlation.narrative ∧
      (∀ link ∈ db.correlationFindings.rows, link.tenantId = tenantId → link.correlationId = row.id →
        link.findingId ∈ correlation.findings) ∧
      ∀ id ∈ correlation.findings, ⟨tenantId, row.id, id⟩ ∈ db.correlationFindings.rows)
    ⟨fun ⟨hrule, hseverity, hnarrative, hlinked, hnamed⟩ =>
      ⟨hrule, hseverity, hnarrative, fun id => ⟨fun hlink => hlinked _ hlink rfl rfl, hnamed id⟩⟩,
    fun ⟨hrule, hseverity, hnarrative, hfindings⟩ => ⟨hrule, hseverity, hnarrative,
      fun _ hlink htenant hcorrelation => (hfindings _).mp (htenant ▸ hcorrelation ▸ hlink),
      fun id => (hfindings id).mpr⟩⟩

/-- The condition on a call: it names at most one finding, its tenant is stored or can be, and each stored
correlation of the tenant is older or the same. -/
structure Kept (tenantId : String) (s : Adding) (call : Correlation × Moment) : Prop where
  single : call.1.findings.length ≤ 1
  tenant : Isolation.Stored s.db tenantId ∨ ∀ row ∈ s.db.tenants.rows, row.slug ≠ tenantId
  earlier : ∀ row ∈ correlationRows s.db tenantId, row.createdAt < call.2.now ∨ Tells s.db tenantId row call.1

instance (tenantId : String) (s : Adding) (call : Correlation × Moment) : Decidable (Kept tenantId s call) :=
  decidable_of_iff (call.1.findings.length ≤ 1 ∧
      ((∃ row ∈ s.db.tenants.rows, row.id = tenantId) ∨ ∀ row ∈ s.db.tenants.rows, row.slug ≠ tenantId) ∧
      ∀ row ∈ correlationRows s.db tenantId, row.createdAt < call.2.now ∨ Tells s.db tenantId row call.1)
    ⟨fun ⟨hsingle, htenant, hearlier⟩ => ⟨hsingle, htenant, hearlier⟩,
      fun ⟨hsingle, htenant, hearlier⟩ => ⟨hsingle, htenant, hearlier⟩⟩

variable {db db' : Database} {m : Moment} {tenantId : String} {correlation : Correlation}

/-- The row of a new correlation. -/
def newCorrelation (m : Moment) (tenantId : String) (correlation : Correlation) : CorrelationRow :=
  ⟨"corr_" ++ m.uuid, tenantId, correlation.ruleId, "1", correlation.severity, correlation.narrative, m.now⟩

/-- The links of a new correlation. -/
def newLinks (m : Moment) (tenantId : String) (correlation : Correlation) : List CorrelationFindingRow :=
  correlation.findings.map fun findingId => ⟨tenantId, "corr_" ++ m.uuid, findingId⟩

/-- Links that are inserted one after another are stored in that order. -/
theorem rows_insertLinks {table table' : Table CorrelationFindingRow CorrelationFindingRow.Conflict}
    {link : String → CorrelationFindingRow} {ids : List String}
    (h : ids.foldlM (fun links id => links.insert (link id)) table = some table') :
    table'.rows = table.rows ++ ids.map link := by
  induction ids generalizing table with
  | nil =>
    cases h
    exact (List.append_nil _).symm
  | cons id ids ih =>
    rw [List.foldlM_cons] at h
    obtain ⟨next, hnext, hrest⟩ := Option.bind_eq_some_iff.mp h
    rw [ih hrest, (Table.insert_eq_some hnext).1, List.append_assoc]
    rfl

/-- What a call that stores its correlation adds to the rows and to the links. -/
theorem insertCorrelation_rows (h : insertCorrelation db m tenantId correlation = some db') :
    db'.correlations.rows = db.correlations.rows ++ [newCorrelation m tenantId correlation] ∧
      db'.correlationFindings.rows = db.correlationFindings.rows ++ newLinks m tenantId correlation ∧
      ∃ tenants, SqlJobs.ensureTenant db.tenants tenantId m.now = some tenants := by
  obtain ⟨tenants, correlations, links, htenants, hcorrelations, hlinks, rfl⟩ := insertCorrelation_eq_some h
  exact ⟨(Table.insert_eq_some hcorrelations).1, rows_insertLinks hlinks, tenants, htenants⟩

/-- A call that names at most one finding stores its correlation if its tenant can be stored. -/
theorem exists_insertCorrelation (hfresh : FreshCorrelation db m) (hsingle : correlation.findings.length ≤ 1)
    (htenant : ∃ tenants, SqlJobs.ensureTenant db.tenants tenantId m.now = some tenants) :
    ∃ db', insertCorrelation db m tenantId correlation = some db' := by
  obtain ⟨tenants, htenants⟩ := htenant
  obtain ⟨correlations, hcorrelations⟩ : ∃ correlations,
      db.correlations.insert (newCorrelation m tenantId correlation) = some correlations := by
    apply Option.ne_none_iff_exists'.mp
    intro hnone
    obtain ⟨row, hrow, hconflict⟩ := (Table.insert_eq_none_iff _ _).mp hnone
    exact hfresh.1 row hrow hconflict
  obtain ⟨links, hlinks⟩ : ∃ links, correlation.findings.foldlM
      (fun links findingId => links.insert ⟨tenantId, "corr_" ++ m.uuid, findingId⟩) db.correlationFindings =
        some links := by
    cases hids : correlation.findings with
    | nil => exact ⟨_, rfl⟩
    | cons id rest =>
      have hrest : rest = [] := by
        rw [hids, List.length_cons] at hsingle
        exact List.length_eq_zero_iff.mp (by omega)
      rw [hrest, List.foldlM_cons]
      cases hinsert : db.correlationFindings.insert ⟨tenantId, "corr_" ++ m.uuid, id⟩ with
      | some links => exact ⟨links, rfl⟩
      | none =>
        obtain ⟨link, hlink, hconflict⟩ := (Table.insert_eq_none_iff _ _).mp hinsert
        exact absurd (congrArg CorrelationFindingRow.correlationId hconflict) (hfresh.2 link hlink)
  refine ⟨{ db with tenants, correlations, correlationFindings := links }, ?_⟩
  exact Option.bind_eq_some_iff.mpr ⟨tenants, htenants, Option.bind_eq_some_iff.mpr ⟨correlations, hcorrelations,
    Option.bind_eq_some_iff.mpr ⟨links, hlinks, rfl⟩⟩⟩

/-- The rows of the tenant, with the new one last. -/
theorem correlationRows_insert (h : insertCorrelation db m tenantId correlation = some db') :
    correlationRows db' tenantId = correlationRows db tenantId ++ [newCorrelation m tenantId correlation] := by
  rw [correlationRows, Table.select, (insertCorrelation_rows h).1, List.filter_append]
  simp [correlationRows, Table.select, newCorrelation]

/-- The links of the tenant, with the new ones last. -/
theorem correlationLinks_insert (h : insertCorrelation db m tenantId correlation = some db') :
    correlationLinks db' tenantId = correlationLinks db tenantId ++ newLinks m tenantId correlation := by
  have hnew : (newLinks m tenantId correlation).filter (fun link => decide (link.tenantId = tenantId)) =
      newLinks m tenantId correlation := by
    rw [List.filter_eq_self]
    intro link hlink
    obtain ⟨id, -, rfl⟩ := List.mem_map.mp hlink
    exact decide_eq_true rfl
  rw [correlationLinks, Table.select, (insertCorrelation_rows h).2.1, List.filter_append, hnew]
  rfl

/-- The links without those of the new correlation are the old ones. -/
theorem filter_newLinks (hfresh : FreshCorrelation db m) :
    (correlationLinks db tenantId ++ newLinks m tenantId correlation).filter
      (fun link => decide (link.correlationId ≠ "corr_" ++ m.uuid)) = correlationLinks db tenantId := by
  rw [List.filter_append]
  have hold : (correlationLinks db tenantId).filter
      (fun link => decide (link.correlationId ≠ "corr_" ++ m.uuid)) = correlationLinks db tenantId := by
    rw [List.filter_eq_self]
    exact fun link hlink => decide_eq_true (hfresh.2 link (List.mem_filter.mp hlink).1)
  have hnew : (newLinks m tenantId correlation).filter
      (fun link => decide (link.correlationId ≠ "corr_" ++ m.uuid)) = [] := by
    rw [List.filter_eq_nil_iff]
    intro link hlink hne
    obtain ⟨id, -, rfl⟩ := List.mem_map.mp hlink
    exact of_decide_eq_true hne rfl
  rw [hold, hnew, List.append_nil]

/-- Links of another correlation do not matter to a row. -/
theorem correlationOf_filter (links : List CorrelationFindingRow) {row : CorrelationRow} {correlationId : String}
    (h : row.id ≠ correlationId) :
    correlationOf (links.filter fun link => decide (link.correlationId ≠ correlationId)) row =
      correlationOf links row := by
  have hlinked : linked (links.filter fun link => decide (link.correlationId ≠ correlationId)) row =
      linked links row := by
    rw [linked, linked, List.filter_filter]
    refine congrArg _ (List.filter_congr fun link _ => ?_)
    by_cases hsame : link.correlationId = row.id
    · simp [hsame, h]
    · simp [hsame]
  rw [correlationOf, correlationOf, hlinked]

/-- The links of the new correlation are those that were stored with it, in some order. -/
theorem linked_new (hfresh : FreshCorrelation db m) {links : List CorrelationFindingRow}
    (hlinks : links.Perm (correlationLinks db tenantId ++ newLinks m tenantId correlation)) :
    (linked links (newCorrelation m tenantId correlation)).Perm correlation.findings := by
  have hold : (correlationLinks db tenantId).filter
      (fun link => decide (link.correlationId = "corr_" ++ m.uuid)) = [] := by
    rw [List.filter_eq_nil_iff]
    exact fun link hlink heq => hfresh.2 link (List.mem_filter.mp hlink).1 (of_decide_eq_true heq)
  have hnew : (newLinks m tenantId correlation).filter
      (fun link => decide (link.correlationId = "corr_" ++ m.uuid)) = newLinks m tenantId correlation := by
    rw [List.filter_eq_self]
    intro link hlink
    obtain ⟨id, -, rfl⟩ := List.mem_map.mp hlink
    exact decide_eq_true rfl
  have hperm := (hlinks.filter fun link => decide (link.correlationId = "corr_" ++ m.uuid)).map
    CorrelationFindingRow.findingId
  rw [List.filter_append, hold, hnew, List.nil_append, newLinks, List.map_map] at hperm
  have hids : correlation.findings.map (CorrelationFindingRow.findingId ∘ fun findingId =>
      ⟨tenantId, "corr_" ++ m.uuid, findingId⟩) = correlation.findings := List.map_id _
  rw [hids] at hperm
  exact hperm

/-- A short list has one order. -/
theorem eq_of_perm_of_length_le_one {l l' : List String} (h : l.Perm l') (hlength : l'.length ≤ 1) : l = l' := by
  cases l' with
  | nil => exact h.eq_nil
  | cons a rest =>
    have hrest : rest = [] := by
      rw [List.length_cons] at hlength
      exact List.length_eq_zero_iff.mp (by omega)
    subst hrest
    exact List.perm_singleton.mp h

/-- A link is stored once, so a correlation has each finding once. -/
theorem nodup_linked {links : List CorrelationFindingRow} (hlinks : links.Perm (correlationLinks db tenantId))
    (row : CorrelationRow) : (linked links row).Nodup := by
  have hstored : (correlationLinks db tenantId).Nodup := db.correlationFindings.consistent.filter _
  refine List.Nodup.map_on ?_ ((hlinks.nodup_iff.mpr hstored).filter _)
  intro a ha b hb hid
  obtain ⟨hamem, ha⟩ := List.mem_filter.mp ha
  obtain ⟨hbmem, hb⟩ := List.mem_filter.mp hb
  have hatenant : a.tenantId = tenantId := of_decide_eq_true (List.mem_filter.mp (hlinks.mem_iff.mp hamem)).2
  have hbtenant : b.tenantId = tenantId := of_decide_eq_true (List.mem_filter.mp (hlinks.mem_iff.mp hbmem)).2
  have hcorrelation : a.correlationId = b.correlationId :=
    (of_decide_eq_true ha).trans (of_decide_eq_true hb).symm
  cases a
  cases b
  simp_all

/-- A finding is linked to a row exactly if the link is stored. -/
theorem mem_linked {links : List CorrelationFindingRow} (hlinks : links.Perm (correlationLinks db tenantId))
    {row : CorrelationRow} {id : String} :
    id ∈ linked links row ↔ ⟨tenantId, row.id, id⟩ ∈ db.correlationFindings.rows := by
  rw [linked, List.mem_map]
  constructor
  · rintro ⟨link, hlink, rfl⟩
    obtain ⟨hmem, hrow⟩ := List.mem_filter.mp hlink
    obtain ⟨hstored, htenant⟩ := List.mem_filter.mp (hlinks.mem_iff.mp hmem)
    have hlinkEq : link = ⟨tenantId, row.id, link.findingId⟩ := by
      rw [← of_decide_eq_true hrow, ← of_decide_eq_true htenant]
    exact hlinkEq ▸ hstored
  · intro hstored
    refine ⟨_, List.mem_filter.mpr ⟨hlinks.mem_iff.mpr (List.mem_filter.mpr ⟨hstored, ?_⟩), ?_⟩, rfl⟩
    · exact decide_eq_true rfl
    · exact decide_eq_true rfl

/-- A row tells a correlation with at most one finding exactly if it is read as that correlation. -/
theorem tells_iff {links : List CorrelationFindingRow} (hlinks : links.Perm (correlationLinks db tenantId))
    {row : CorrelationRow} (hsingle : correlation.findings.length ≤ 1) :
    Tells db tenantId row correlation ↔ correlationOf links row = correlation := by
  constructor
  · rintro ⟨hrule, hseverity, hnarrative, hfindings⟩
    have hnodup : correlation.findings.Nodup := by
      cases hids : correlation.findings with
      | nil => exact List.nodup_nil
      | cons id rest =>
        rw [hids, List.length_cons] at hsingle
        rw [List.length_eq_zero_iff.mp (show rest.length = 0 by omega)]
        exact List.nodup_singleton id
    have hperm : (linked links row).Perm correlation.findings :=
      (List.perm_ext_iff_of_nodup (nodup_linked hlinks row) hnodup).mpr fun id =>
        (mem_linked hlinks).trans (hfindings id)
    rw [correlationOf, hrule, hseverity, hnarrative, eq_of_perm_of_length_le_one hperm hsingle]
  · rintro rfl
    exact ⟨rfl, rfl, rfl, fun id => (mem_linked hlinks).symm⟩

/-- Whatever the order of the links is, those of other correlations are the old ones. -/
theorem perm_oldLinks (hfresh : FreshCorrelation db m) {links : List CorrelationFindingRow}
    (hlinks : links.Perm (correlationLinks db tenantId ++ newLinks m tenantId correlation)) :
    (links.filter fun link => decide (link.correlationId ≠ "corr_" ++ m.uuid)).Perm (correlationLinks db tenantId) := by
  have hfilter := hlinks.filter fun link => decide (link.correlationId ≠ "corr_" ++ m.uuid)
  rw [filter_newLinks hfresh] at hfilter
  exact hfilter

/-- The old rows are read with the new links as they are read with the old ones. -/
theorem correlationOf_old (hfresh : FreshCorrelation db m) (links : List CorrelationFindingRow)
    {row : CorrelationRow} (hrow : row ∈ correlationRows db tenantId) :
    correlationOf (links.filter fun link => decide (link.correlationId ≠ "corr_" ++ m.uuid)) row =
      correlationOf links row :=
  correlationOf_filter links (hfresh.1 row (List.mem_filter.mp hrow).1)

/-- Whatever the order of the links is, the old rows are read as before. -/
theorem map_correlationOf_old (hfresh : FreshCorrelation db m) {links : List CorrelationFindingRow}
    {added : List Correlation} (hread : ∀ read, CorrelationsRead db tenantId read → read = added)
    (hlinks : links.Perm (correlationLinks db tenantId ++ newLinks m tenantId correlation))
    {rows : List CorrelationRow} (hrows : OrderedBy CorrelationRow.createdAt (correlationRows db tenantId) rows) :
    rows.map (correlationOf links) = added := by
  have hsame : rows.map (correlationOf links) =
      rows.map (correlationOf (links.filter fun link => decide (link.correlationId ≠ "corr_" ++ m.uuid))) :=
    List.map_congr_left fun row hrow => (correlationOf_old hfresh links (hrows.perm.mem_iff.mp hrow)).symm
  rw [hsame]
  exact hread _ ⟨rows, _, hrows, perm_oldLinks hfresh hlinks, rfl⟩

/-- Links in the other direction give the findings in the other direction. -/
theorem linked_reverse (links : List CorrelationFindingRow) (row : CorrelationRow) :
    linked links.reverse row = (linked links row).reverse := by
  unfold linked
  rw [List.filter_reverse, List.map_reverse]

/-- If two orders of its links are read the same, the correlation has at most one finding. -/
theorem length_le_one_of_read (hfresh : FreshCorrelation db m)
    (hinsert : insertCorrelation db m tenantId correlation = some db') {read : List Correlation}
    (hread : ∀ read', CorrelationsRead db' tenantId read' → read' = read) : correlation.findings.length ≤ 1 := by
  by_contra hlong
  obtain ⟨rows, hrows⟩ := exists_orderedBy CorrelationRow.createdAt (correlationRows db' tenantId)
  have hnew : newCorrelation m tenantId correlation ∈ rows := by
    rw [hrows.perm.mem_iff, correlationRows_insert hinsert]
    exact List.mem_append_right _ (List.mem_singleton_self _)
  have hlinks := correlationLinks_insert hinsert
  have hforward := hread _ ⟨rows, _, hrows, List.Perm.refl _, rfl⟩
  have hbackward := hread _ ⟨rows, (correlationLinks db' tenantId).reverse, hrows, List.reverse_perm _, rfl⟩
  have hsame := List.map_inj_left.mp (hforward.trans hbackward.symm) _ hnew
  have hids : linked (correlationLinks db' tenantId) (newCorrelation m tenantId correlation) =
      (linked (correlationLinks db' tenantId) (newCorrelation m tenantId correlation)).reverse :=
    (congrArg Correlation.findings hsame).trans (linked_reverse _ _)
  have hperm : (linked (correlationLinks db' tenantId) (newCorrelation m tenantId correlation)).Perm
      correlation.findings := linked_new hfresh (List.Perm.of_eq hlinks)
  have hshort := length_le_one_of_eq_reverse (nodup_linked (List.Perm.refl _) _) hids
  rw [hperm.length_eq] at hshort
  exact hlong hshort

/-- The new row is read as its correlation, whatever the order of the links is. -/
theorem correlationOf_new (hfresh : FreshCorrelation db m) (hsingle : correlation.findings.length ≤ 1)
    {links : List CorrelationFindingRow}
    (hlinks : links.Perm (correlationLinks db tenantId ++ newLinks m tenantId correlation)) :
    correlationOf links (newCorrelation m tenantId correlation) = correlation := by
  rw [correlationOf, eq_of_perm_of_length_le_one (linked_new hfresh hlinks) hsingle]
  rfl

/-- Whatever the order of the links is, an old row is read as the new correlation exactly if it tells it. -/
theorem correlationOf_old_eq_iff (hfresh : FreshCorrelation db m) (hsingle : correlation.findings.length ≤ 1)
    {links : List CorrelationFindingRow}
    (hlinks : links.Perm (correlationLinks db tenantId ++ newLinks m tenantId correlation)) {row : CorrelationRow}
    (hrow : row ∈ correlationRows db tenantId) :
    correlationOf links row = correlation ↔ Tells db tenantId row correlation := by
  rw [← correlationOf_old hfresh links hrow]
  exact (tells_iff (perm_oldLinks hfresh hlinks) hsingle).symm

/-- Whatever the order of the links is, the new correlation is read last exactly if the stored ones are older or
the same. -/
theorem read_last_iff (hfresh : FreshCorrelation db m) (hsingle : correlation.findings.length ≤ 1)
    {added : List Correlation} (hread : ∀ read, CorrelationsRead db tenantId read → read = added)
    {links : List CorrelationFindingRow}
    (hlinks : links.Perm (correlationLinks db tenantId ++ newLinks m tenantId correlation)) :
    (∀ rows, OrderedBy CorrelationRow.createdAt
        (correlationRows db tenantId ++ [newCorrelation m tenantId correlation]) rows →
      rows.map (correlationOf links) = added ++ [correlation]) ↔
    ∀ row ∈ correlationRows db tenantId, row.createdAt < m.now ∨ Tells db tenantId row correlation := by
  have hnew := correlationOf_new hfresh hsingle hlinks
  have hlast := @read_append_iff _ _ _ _ CorrelationRow.createdAt (correlationOf links) _
    (newCorrelation m tenantId correlation) added fun rows hrows => map_correlationOf_old hfresh hread hlinks hrows
  rw [hnew] at hlast
  rw [hlast]
  refine forall_congr' fun row => forall_congr' fun hrow => or_congr_right ?_
  exact correlationOf_old_eq_iff hfresh hsingle hlinks hrow

/-- A call leaves the correlations readable exactly if it keeps the condition. -/
theorem survive_step_iff {s s' : Adding} {call : Correlation × Moment} (hs : Survive tenantId s)
    (hstep : addStep tenantId s call = some s') : Survive tenantId s' ↔ Kept tenantId s call := by
  obtain ⟨correlation, m⟩ := call
  obtain ⟨hreturned, hread⟩ := hs
  unfold addStep addCorrelation at hstep
  split at hstep
  · next hfresh =>
    cases hinsert : insertCorrelation s.db m tenantId correlation with
    | none =>
      simp only [hinsert] at hstep
      cases hstep
      refine iff_of_false (fun h => absurd h.1 (by simp [Except.isOk, Except.toBool])) fun hkept => ?_
      obtain ⟨db', hstored⟩ := exists_insertCorrelation hfresh hkept.single
        (SqlJobs.exists_ensureTenant_iff.mpr hkept.tenant)
      rw [hinsert] at hstored
      cases hstored
    | some db' =>
      simp only [hinsert] at hstep
      cases hstep
      have hlinks := correlationLinks_insert hinsert
      have hrows := correlationRows_insert hinsert
      constructor
      · rintro ⟨-, hreads⟩
        have hsingle : correlation.findings.length ≤ 1 := length_le_one_of_read hfresh hinsert hreads
        refine ⟨hsingle, SqlJobs.exists_ensureTenant_iff.mp (insertCorrelation_rows hinsert).2.2, ?_⟩
        refine (read_last_iff hfresh hsingle hread (List.Perm.of_eq hlinks)).mp fun rows hordered => ?_
        exact hreads _ ⟨rows, _, hrows ▸ hordered, List.Perm.refl _, rfl⟩
      · rintro ⟨hsingle, -, hearlier⟩
        refine ⟨by rw [hreturned]; rfl, ?_⟩
        rintro read ⟨rows, links, hordered, hperm, rfl⟩
        change OrderedBy _ (correlationRows db' tenantId) rows at hordered
        change links.Perm (correlationLinks db' tenantId) at hperm
        rw [hrows] at hordered
        rw [hlinks] at hperm
        exact (read_last_iff hfresh hsingle hread hperm).mpr hearlier rows hordered
  · cases hstep

end FindingLifecycle

/-- A queue that never becomes too long keeps everything. -/
theorem SqliteRegistry.queued_of_length_le {maxSize : ℕ} {correlations : List Correlation}
    (h : correlations.length ≤ maxSize) : queued maxSize correlations = correlations := by
  induction correlations using List.reverseRecOn with
  | nil => rfl
  | append_singleton correlations correlation ih =>
    have hshort : correlations.length ≤ maxSize := by
      rw [List.length_append] at h
      omega
    rw [queued_append, ih hshort, Retention.push, if_neg (by omega)]

/-- Three correlations of one finding each, two of which are the same and stored at one time. -/
def singleCorrelations : List (Correlation × Moment) :=
  [(⟨"rule", ["f1"], .high, "first"⟩, ⟨0, "1"⟩), (⟨"rule", ["f2"], .low, "second"⟩, ⟨1, "2"⟩),
    (⟨"rule", ["f2"], .low, "second"⟩, ⟨1, "3"⟩)]

end SharedIntegration

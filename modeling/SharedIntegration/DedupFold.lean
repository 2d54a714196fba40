import SharedIntegration.Library.History
import SharedIntegration.FindingColumns

/-!
# Deduplication as a fold over the history

A finding row is written by the first add of its fingerprint and merged with every further one.
What it holds after any number of adds is told by the list of those adds alone: some fields are
those of the first or of the last, the others are a count, a minimum, a maximum or a union.
-/

namespace SharedIntegration

open Relational History

/-- One call of `add_for_job`, with the tenant it is bound to. -/
structure FindingAdd where
  tenantId : String
  finding : Finding
  jobId : Option String
  moment : Moment

/-- The time an add was seen, as columns hold it that keep its offset. -/
def FindingAdd.seenAt (add : FindingAdd) : Instant := SharedIntegration.seenAt add.finding add.moment.now

namespace FindingLifecycle

variable (core : CoreLibrary) (text : TextLibrary)

/-- Adds one after another; one that raises leaves the store alone. -/
def addAll (db : Database) : List FindingAdd → Database
  | [] => db
  | add :: rest =>
    addAll (addForJob core text db add.moment add.tenantId add.finding add.jobId).1 rest

/-- The adds that return. -/
def performed (db : Database) : List FindingAdd → List FindingAdd
  | [] => []
  | add :: rest =>
    match storeFinding core text db add.moment add.tenantId add.finding add.jobId with
    | some db' => add :: performed db' rest
    | none => performed db rest

/-- The adds of one tenant with one fingerprint. -/
def history (done : List FindingAdd) (tenantId fingerprint : String) : List FindingAdd :=
  done.filter fun add => add.tenantId = tenantId ∧ findingFingerprint core text add.finding = fingerprint

end FindingLifecycle

/-- The last job id of a history that is not empty. -/
def lastJob (history : List FindingAdd) : Option String :=
  (history.filterMap fun add => nonEmpty add.jobId).getLast?

/-- The duplicate-free concatenation of the texts that a history brings; those of a single add are
kept as they come. -/
def mergedTexts (texts : Finding → List String) : List FindingAdd → List String
  | [add] => texts add.finding
  | history => (history.flatMap fun add => texts add.finding).eraseDups

/-- The fields of a payload that the last add decides. -/
structure SameRest (payload incoming : Finding) : Prop where
  source : payload.source = incoming.source
  title : payload.title = incoming.title
  description : payload.description = incoming.description
  host : payload.host = incoming.host
  cve : payload.cve = incoming.cve
  ts : payload.ts = incoming.ts
  metadata : payload.metadata = incoming.metadata

/-- The row holds what its history says. -/
structure Summarizes (core : CoreLibrary) (history : List FindingAdd) (row : FindingRow) : Prop where
  findingId : history.head?.map (fun add => add.finding.id) = some row.findingId
  payloadId : (row.finding core).id = row.findingId
  occurrences : row.occurrences = history.length
  firstSeen : (history.map FindingAdd.seenAt).min? = some row.firstSeen
  lastSeen : (history.map FindingAdd.seenAt).max? = some row.lastSeen
  severity : (history.map fun add => add.finding.severity.rank).max? = some row.severity.rank
  payloadSeverity : (row.finding core).severity = row.severity
  confidence : (history.map fun add => add.finding.confidence).max? = some row.confidence
  payloadConfidence : (row.finding core).confidence = row.confidence
  evidence : (row.finding core).evidence = mergedTexts Finding.evidence history
  related : (row.finding core).related = mergedTexts Finding.related history
  tags : ∀ tag, tag ∈ (row.finding core).tags ↔ ∃ add ∈ history, tag ∈ add.finding.tags
  jobId : row.jobId = (lastJob history).or (history.head?.bind FindingAdd.jobId)
  rest : ∃ add, history.getLast? = some add ∧ SameRest (row.finding core) add.finding ∧
    row.description = add.finding.description

section Fold

variable {core : CoreLibrary} {text : TextLibrary}

/-- The row of a first occurrence. -/
theorem summarizes_created (rowId : ℕ) (add : FindingAdd) :
    Summarizes core [add] (.created core text rowId add.tenantId add.finding add.jobId add.moment.now) := by
  have hfinding : (FindingRow.created core text rowId add.tenantId add.finding add.jobId
      add.moment.now).finding core = add.finding := core.fromDict_toDict add.finding
  refine ⟨rfl, by rw [hfinding]; rfl, rfl, rfl, rfl, rfl, by rw [hfinding]; rfl, rfl, by rw [hfinding]; rfl,
    by rw [hfinding]; rfl, by rw [hfinding]; rfl, ?_, ?_, add, rfl, ?_, rfl⟩
  · intro tag
    rw [hfinding]
    simp
  · change add.jobId = _
    cases hjob : add.jobId with
    | none => simp [lastJob, nonEmpty, hjob]
    | some jobId =>
      by_cases hempty : jobId = "" <;> simp [lastJob, nonEmpty, hjob, hempty, Option.filter]
  · rw [hfinding]
    exact ⟨rfl, rfl, rfl, rfl, rfl, rfl, rfl⟩

/-- The rank of a merged severity is the larger one. -/
theorem rank_mergeFindings (existing incoming : Finding) :
    (mergeFindings existing incoming).severity.rank =
      max existing.severity.rank incoming.severity.rank := by
  unfold mergeFindings
  dsimp only
  split <;> omega

/-- The texts of a history with a further add. -/
theorem mergedTexts_concat (texts : Finding → List String) {history : List FindingAdd}
    (hhistory : history ≠ []) (add : FindingAdd) :
    mergedTexts texts (history ++ [add]) =
      (mergedTexts texts history ++ texts add.finding).eraseDups := by
  have hmany : mergedTexts texts (history ++ [add]) =
      ((history ++ [add]).flatMap fun add => texts add.finding).eraseDups := by
    cases history with
    | nil => exact absurd rfl hhistory
    | cons first rest => cases rest <;> rfl
  rw [hmany, List.flatMap_append, List.flatMap_singleton]
  cases history with
  | nil => exact absurd rfl hhistory
  | cons first rest =>
    cases rest with
    | nil => simp [mergedTexts]
    | cons second rest => exact (eraseDups_eraseDups_append _ _).symm

/-- The last job id of a history with a further add. -/
theorem lastJob_concat (history : List FindingAdd) (add : FindingAdd) :
    lastJob (history ++ [add]) = (nonEmpty add.jobId).or (lastJob history) := by
  unfold lastJob
  rw [List.filterMap_append]
  cases hjob : nonEmpty add.jobId with
  | none => simp [hjob]
  | some jobId => simp [hjob]

/-- `job_id or row.job_id` keeps the stored id for an empty one. -/
theorem jobOr_eq (jobId stored : Option String) : jobOr jobId stored = (nonEmpty jobId).or stored := by
  cases jobId with
  | none => rfl
  | some jobId => by_cases hempty : jobId = "" <;> simp [jobOr, nonEmpty, hempty, Option.filter]

/-- A history that a row summarizes is not empty. -/
theorem Summarizes.ne_nil {history : List FindingAdd} {row : FindingRow} (h : Summarizes core history row) :
    history ≠ [] := by
  rintro rfl
  cases h.findingId

/-- A merge is a further add of the history. -/
theorem Summarizes.merge {history : List FindingAdd} {row : FindingRow} (h : Summarizes core history row)
    (add : FindingAdd) :
    Summarizes core (history ++ [add]) (row.merge core add.finding add.jobId add.moment.now) := by
  have hfinding : (row.merge core add.finding add.jobId add.moment.now).finding core =
      mergeFindings (row.finding core) add.finding := core.fromDict_toDict _
  have hne := h.ne_nil
  have hhead := head?_concat hne add
  have hrank : (mergeFindings (row.finding core) add.finding).severity.rank =
      max row.severity.rank add.finding.severity.rank := by
    rw [rank_mergeFindings, h.payloadSeverity]
  refine ⟨by rw [hhead]; exact h.findingId, by rw [hfinding]; exact h.payloadId, ?_, ?_, ?_, ?_,
    by rw [hfinding]; rfl, ?_, by rw [hfinding]; rfl, ?_, ?_, ?_, ?_, add, ?_, ?_, rfl⟩
  · rw [List.length_append, List.length_singleton, ← h.occurrences]
    rfl
  · rw [List.map_append, List.map_singleton, min?_concat h.firstSeen]
    rfl
  · rw [List.map_append, List.map_singleton, max?_concat h.lastSeen]
    rfl
  · rw [List.map_append, List.map_singleton, max?_concat h.severity, ← hrank]
    rfl
  · rw [List.map_append, List.map_singleton, max?_concat h.confidence, ← h.payloadConfidence]
    rfl
  · rw [hfinding, mergedTexts_concat Finding.evidence hne, ← h.evidence]
    rfl
  · rw [hfinding, mergedTexts_concat Finding.related hne, ← h.related]
    rfl
  · intro tag
    rw [hfinding]
    change tag ∈ (row.finding core).tags ∪ add.finding.tags ↔ _
    rw [Finset.mem_union, h.tags]
    simp [or_and_right, exists_or]
  · rw [hhead, lastJob_concat, Option.or_assoc, ← h.jobId]
    exact jobOr_eq _ _
  · exact List.getLast?_concat
  · rw [hfinding]
    exact ⟨rfl, rfl, rfl, rfl, rfl, rfl, rfl⟩

namespace FindingLifecycle

/-- The store after some performed adds. -/
structure Folded (core : CoreLibrary) (text : TextLibrary) (db : Database) (done : List FindingAdd) :
    Prop where
  tenants : ∀ row ∈ db.tenants.rows, row.slug = row.id
  rows : ∀ row ∈ db.findings.rows,
    Summarizes core (history core text done row.tenantId row.fingerprint) row
  stored : ∀ add ∈ done,
    findFingerprint db.findings add.tenantId (findingFingerprint core text add.finding) ≠ none

/-- One further add concerns one history. -/
theorem history_concat (done : List FindingAdd) (add : FindingAdd) (tenantId fingerprint : String) :
    history core text (done ++ [add]) tenantId fingerprint =
      history core text done tenantId fingerprint ++
        if add.tenantId = tenantId ∧ findingFingerprint core text add.finding = fingerprint then [add]
        else [] := by
  rw [history, List.filter_append, List.filter_singleton, history]
  by_cases hsame : add.tenantId = tenantId ∧ findingFingerprint core text add.finding = fingerprint
  · rw [if_pos hsame, decide_eq_true hsame, cond_true]
  · rw [if_neg hsame, decide_eq_false hsame, cond_false]

/-- While tenants keep their ids as slugs, an add that returns has been stored by the first
transaction. -/
theorem storeFinding_locked {db db' : Database} {m : Moment} {tenantId : String} {finding : Finding}
    {jobId : Option String} (htenants : ∀ row ∈ db.tenants.rows, row.slug = row.id)
    (h : storeFinding core text db m tenantId finding jobId = some db') :
    storeLocked core text db m tenantId finding jobId = some db' := by
  rcases storeFinding_eq_some h with hlocked | ⟨hfailed, hlost⟩
  · exact hlocked
  · obtain ⟨row, hrow, -⟩ := storeLost_cases hlost
    obtain ⟨tenants, hensure, -⟩ := SqlJobs.ensureTenant_ok htenants tenantId m.now
    unfold storeLocked at hfailed
    rw [hensure] at hfailed
    simp only [Option.bind_eq_bind, Option.bind_some, hrow, reduceCtorEq] at hfailed

/-- A store where nothing was performed. -/
theorem folded_empty : Folded core text Database.empty [] := by
  refine ⟨?_, ?_, ?_⟩
  · exact fun row hrow => absurd hrow List.not_mem_nil
  · exact fun row hrow => absurd hrow List.not_mem_nil
  · exact fun add hadd => absurd hadd List.not_mem_nil

/-- The tenants after an add. -/
theorem storeLocked_tenants {db db' : Database} {m : Moment} {tenantId : String} {finding : Finding}
    {jobId : Option String} (htenants : ∀ row ∈ db.tenants.rows, row.slug = row.id)
    (h : storeLocked core text db m tenantId finding jobId = some db') :
    ∀ row ∈ db'.tenants.rows, row.slug = row.id := by
  obtain ⟨tenants, hensure, hslugs⟩ := SqlJobs.ensureTenant_ok htenants tenantId m.now
  obtain ⟨tenants', hensure', ⟨-, findings, -, rfl⟩ | ⟨row, -, rfl⟩⟩ := storeLocked_cases h
  · cases hensure.symm.trans hensure'
    exact hslugs
  · cases hensure.symm.trans hensure'
    exact hslugs

/-- A performed add extends the history. -/
theorem Folded.add {db db' : Database} {done : List FindingAdd} (h : Folded core text db done)
    {add : FindingAdd}
    (hstore : storeFinding core text db add.moment add.tenantId add.finding add.jobId = some db') :
    Folded core text db' (done ++ [add]) := by
  have hlocked := storeFinding_locked h.tenants hstore
  have hother : ∀ row : FindingRow, ¬ (row.tenantId = add.tenantId ∧
      row.fingerprint = findingFingerprint core text add.finding) →
      history core text (done ++ [add]) row.tenantId row.fingerprint =
        history core text done row.tenantId row.fingerprint := by
    intro row hrow
    rw [history_concat, if_neg, List.append_nil]
    exact fun hsame => hrow ⟨hsame.1.symm, hsame.2.symm⟩
  obtain ⟨tenants, -, ⟨hnone, findings, hinsert, hdb⟩ | ⟨found, hfound, hdb⟩⟩ := storeLocked_cases hlocked
  · have hrows := (Table.insert_eq_some hinsert).1
    have hfindings : db'.findings = findings := congrArg Database.findings hdb
    rw [← hfindings] at hrows
    have hnew := (Table.find_eq_none_iff _ _).mp hnone
    have hempty : history core text done add.tenantId (findingFingerprint core text add.finding) = [] := by
      rw [history, List.filter_eq_nil_iff]
      intro old hold hsame
      rw [decide_eq_true_eq] at hsame
      have hstored := h.stored old hold
      rw [hsame.1, hsame.2] at hstored
      exact hstored hnone
    refine ⟨storeLocked_tenants h.tenants hlocked, ?_, ?_⟩
    · intro row hrow
      rw [hrows] at hrow
      rcases List.mem_append.mp hrow with hold | hlast
      · rw [hother row (of_decide_eq_false (hnew row hold))]
        exact h.rows row hold
      · rw [List.mem_singleton.mp hlast]
        have hsingle : history core text (done ++ [add]) add.tenantId
            (findingFingerprint core text add.finding) = [add] := by
          rw [history_concat, if_pos ⟨rfl, rfl⟩, hempty, List.nil_append]
        have hcreated := @summarizes_created core text db.findingSequence add
        rw [← hsingle] at hcreated
        exact hcreated
    · intro old hold hmissing
      have hmissed := (Table.find_eq_none_iff _ _).mp hmissing
      rw [hrows] at hmissed
      rcases List.mem_append.mp hold with hbefore | hlast
      · refine h.stored old hbefore ((Table.find_eq_none_iff _ _).mpr fun row hrow => ?_)
        exact hmissed row (List.mem_append_left _ hrow)
      · rw [List.mem_singleton.mp hlast] at hmissed
        have hself := hmissed _ (List.mem_append_right _ (List.mem_singleton.mpr rfl))
        exact absurd ⟨rfl, rfl⟩ (of_decide_eq_false hself)
  · obtain ⟨hmem, htenant, hfingerprint⟩ := fingerprint_of_find hfound
    have hfindings : db'.findings = updateFingerprint db.findings add.tenantId
        (findingFingerprint core text add.finding) (.merge core add.finding add.jobId add.moment.now)
        (FindingRow.merge_keeps core add.finding add.jobId add.moment.now) := congrArg Database.findings hdb
    refine ⟨storeLocked_tenants h.tenants hlocked, ?_, ?_⟩
    · intro row hrow
      rw [hfindings] at hrow
      rcases mem_updateFingerprint (FindingRow.merge_keeps core add.finding add.jobId add.moment.now) hfound hrow with
        rfl | ⟨hold, hdifferent⟩
      · have hmerged := (h.rows found hmem).merge add
        change Summarizes core (history core text (done ++ [add]) found.tenantId found.fingerprint) _
        rw [history_concat, if_pos ⟨htenant.symm, hfingerprint.symm⟩]
        exact hmerged
      · rw [hother row hdifferent]
        exact h.rows row hold
    · have hkept : ∀ tenantId fingerprint, findFingerprint db.findings tenantId fingerprint ≠ none →
          findFingerprint db'.findings tenantId fingerprint ≠ none := by
        intro tenantId fingerprint hsome
        rw [hfindings, findFingerprint, updateFingerprint, Table.find_update]
        · rwa [Option.map_eq_none_iff.ne]
        · exact fun row => rfl
      intro old hold
      rcases List.mem_append.mp hold with hbefore | hlast
      · exact hkept _ _ (h.stored old hbefore)
      · rw [List.mem_singleton.mp hlast]
        exact hkept _ _ (by rw [hfound]; exact Option.some_ne_none _)

/-- A store after adds is folded over what was performed before and in them. -/
theorem Folded.addAll {db : Database} {done : List FindingAdd} (h : Folded core text db done)
    (adds : List FindingAdd) :
    Folded core text (addAll core text db adds) (done ++ performed core text db adds) := by
  induction adds generalizing db done with
  | nil =>
    rw [performed, List.append_nil]
    exact h
  | cons add rest ih =>
    unfold FindingLifecycle.addAll performed addForJob
    cases hstore : storeFinding core text db add.moment add.tenantId add.finding add.jobId with
    | none => exact ih h
    | some db' =>
      have hrest := ih (h.add hstore)
      rw [List.append_assoc] at hrest
      exact hrest

/-- The adds that return are among those made, in their order. -/
theorem performed_sublist (db : Database) (adds : List FindingAdd) :
    (performed core text db adds).Sublist adds := by
  induction adds generalizing db with
  | nil => exact List.Sublist.slnil
  | cons first rest ih =>
    unfold performed
    split
    · exact (ih _).cons_cons first
    · exact (ih db).cons first

/-- A row keeps its place under every further add. -/
theorem addAll_keeps {db : Database} (adds : List FindingAdd) {row : FindingRow}
    (hrow : row ∈ db.findings.rows) : ∃ row' ∈ (addAll core text db adds).findings.rows,
      row'.tenantId = row.tenantId ∧ row'.fingerprint = row.fingerprint ∧ row'.rowId = row.rowId ∧
        row'.findingId = row.findingId := by
  induction adds generalizing db row with
  | nil => exact ⟨row, hrow, rfl, rfl, rfl, rfl⟩
  | cons add rest ih =>
    unfold FindingLifecycle.addAll addForJob
    cases hstore : storeFinding core text db add.moment add.tenantId add.finding add.jobId with
    | none => exact ih hrow
    | some db' =>
      have hone : ∃ row' ∈ db'.findings.rows, row'.tenantId = row.tenantId ∧
          row'.fingerprint = row.fingerprint ∧ row'.rowId = row.rowId ∧
            row'.findingId = row.findingId := by
        rcases storeFinding_cases hstore with ⟨-, hinsert⟩ | ⟨found, change, hchange, -, hfindings, hmerge⟩
        · rw [(Table.insert_eq_some hinsert).1]
          exact ⟨row, List.mem_append_left _ hrow, rfl, rfl, rfl, rfl⟩
        · refine ⟨_, by rw [hfindings]; exact List.mem_map.mpr ⟨row, hrow, rfl⟩, ?_⟩
          dsimp only
          split
          · rcases hmerge with rfl | rfl <;> exact ⟨rfl, rfl, rfl, rfl⟩
          · exact ⟨rfl, rfl, rfl, rfl⟩
      obtain ⟨row', hrow', htenant, hfingerprint, hid, hfinding⟩ := hone
      obtain ⟨row'', hrow'', htenant', hfingerprint', hid', hfinding'⟩ := ih hrow'
      exact ⟨row'', hrow'', htenant'.trans htenant, hfingerprint'.trans hfingerprint, hid'.trans hid,
        hfinding'.trans hfinding⟩

/-- Adds in two parts. -/
theorem addAll_append (db : Database) (first rest : List FindingAdd) :
    addAll core text db (first ++ rest) = addAll core text (addAll core text db first) rest := by
  induction first generalizing db with
  | nil => rfl
  | cons add first ih => exact ih _

end FindingLifecycle

/-- The fields of a row that no order of its adds can change. -/
structure OrderFree (core : CoreLibrary) (row row' : FindingRow) : Prop where
  occurrences : row.occurrences = row'.occurrences
  firstSeen : row.firstSeen = row'.firstSeen
  lastSeen : row.lastSeen = row'.lastSeen
  severity : row.severity = row'.severity
  payloadSeverity : (row.finding core).severity = (row'.finding core).severity
  confidence : row.confidence = row'.confidence
  payloadConfidence : (row.finding core).confidence = (row'.finding core).confidence
  tags : (row.finding core).tags = (row'.finding core).tags
  evidence : ∀ item, item ∈ (row.finding core).evidence ↔ item ∈ (row'.finding core).evidence
  related : ∀ item, item ∈ (row.finding core).related ↔ item ∈ (row'.finding core).related

/-- The merged texts are those of the adds. -/
theorem mem_mergedTexts {texts : Finding → List String} {history : List FindingAdd} {item : String} :
    item ∈ mergedTexts texts history ↔ ∃ add ∈ history, item ∈ texts add.finding := by
  cases history with
  | nil => simp [mergedTexts]
  | cons first rest =>
    cases rest with
    | nil => simp [mergedTexts]
    | cons second rest => simp [mergedTexts, List.mem_eraseDups]

/-- Severities are told apart by their rank. -/
theorem rank_injective {a b : FindingSeverity} (h : a.rank = b.rank) : a = b := by
  cases a <;> cases b <;> first | rfl | cases h

/-- Histories with the same adds in different orders agree on those fields. -/
theorem Summarizes.orderFree {history history' : List FindingAdd} {row row' : FindingRow}
    (h : Summarizes core history row) (h' : Summarizes core history' row') (hperm : history.Perm history') :
    OrderFree core row row' := by
  have hfirst := min?_perm (hperm.map FindingAdd.seenAt)
  have hlast := max?_perm (hperm.map FindingAdd.seenAt)
  have hrank := max?_perm (hperm.map fun add => add.finding.severity.rank)
  have hconfidence := max?_perm (hperm.map fun add => add.finding.confidence)
  rw [h.firstSeen, h'.firstSeen, Option.some.injEq] at hfirst
  rw [h.lastSeen, h'.lastSeen, Option.some.injEq] at hlast
  rw [h.severity, h'.severity, Option.some.injEq] at hrank
  rw [h.confidence, h'.confidence, Option.some.injEq] at hconfidence
  have hseverity := rank_injective hrank
  refine ⟨?_, hfirst, hlast, hseverity, ?_, hconfidence, ?_, ?_, ?_, ?_⟩
  · rw [h.occurrences, h'.occurrences, hperm.length_eq]
  · rw [h.payloadSeverity, h'.payloadSeverity, hseverity]
  · rw [h.payloadConfidence, h'.payloadConfidence, hconfidence]
  · ext tag
    rw [h.tags, h'.tags]
    simp only [hperm.mem_iff]
  · intro item
    rw [h.evidence, h'.evidence, mem_mergedTexts, mem_mergedTexts]
    simp only [hperm.mem_iff]
  · intro item
    rw [h.related, h'.related, mem_mergedTexts, mem_mergedTexts]
    simp only [hperm.mem_iff]

end Fold

/-! ### Times in columns -/

/-- What `_as_utc` makes of an aware datetime that a `DateTime(timezone=True)` column gives back, by its instant and
by how far its wall time is ahead of UTC. -/
structure TimeColumn where
  readBack : (instant : Instant) → (offset : ℤ) → Instant

/-- PostgreSQL keeps the instant. -/
def TimeColumn.postgresql : TimeColumn := ⟨fun instant _ => instant⟩

/-- SQLite keeps the wall time, which is then read as UTC. -/
def TimeColumn.sqlite : TimeColumn := ⟨fun instant offset => instant + offset⟩

/-- The one keeps every time, the other exactly the times in UTC. -/
theorem TimeColumn.readBack_eq_iff (instant : Instant) (offset : ℤ) :
    postgresql.readBack instant offset = instant ∧ (sqlite.readBack instant offset = instant ↔ offset = 0) :=
  ⟨rfl, add_eq_left⟩

/-- The columns `first_seen` and `last_seen`, as they are read. -/
structure SeenColumns where
  firstSeen : Instant
  lastSeen : Instant
deriving DecidableEq

namespace SeenColumns

variable (column : TimeColumn) (offset : FindingAdd → ℤ)

/-- The columns of a first occurrence. -/
def created (add : FindingAdd) : SeenColumns where
  firstSeen := column.readBack add.seenAt (offset add)
  lastSeen := column.readBack add.seenAt (offset add)

/-- The columns after a further occurrence: `min` and `max` compare instants and prefer the stored time. -/
def merge (add : FindingAdd) (row : SeenColumns) : SeenColumns where
  firstSeen := if add.seenAt < row.firstSeen then column.readBack add.seenAt (offset add) else row.firstSeen
  lastSeen := if row.lastSeen < add.seenAt then column.readBack add.seenAt (offset add) else row.lastSeen

/-- The columns after the adds of a history. -/
def after : List FindingAdd → Option SeenColumns
  | [] => none
  | first :: rest => some (rest.foldl (fun row add => row.merge column offset add) (created column offset first))

variable {column offset}

/-- Columns that keep the times of a history hold the earliest and the latest of them. -/
theorem after_of_kept {history : List FindingAdd}
    (hkept : ∀ add ∈ history, column.readBack add.seenAt (offset add) = add.seenAt) {firstSeen lastSeen : Instant}
    (hfirst : (history.map FindingAdd.seenAt).min? = some firstSeen)
    (hlast : (history.map FindingAdd.seenAt).max? = some lastSeen) :
    after column offset history = some ⟨firstSeen, lastSeen⟩ := by
  cases history with
  | nil => cases hfirst
  | cons first rest =>
    rw [List.map_cons, List.min?_cons', Option.some.injEq] at hfirst
    rw [List.map_cons, List.max?_cons', Option.some.injEq] at hlast
    have hfold : ∀ row : SeenColumns, rest.foldl (fun row add => row.merge column offset add) row =
        ⟨(rest.map FindingAdd.seenAt).foldl min row.firstSeen, (rest.map FindingAdd.seenAt).foldl max row.lastSeen⟩ := by
      have hrest : ∀ add ∈ rest, column.readBack add.seenAt (offset add) = add.seenAt := fun add hadd =>
        hkept add (List.mem_cons_of_mem first hadd)
      clear hkept hfirst hlast
      induction rest with
      | nil => exact fun _ => rfl
      | cons add rest ih =>
        intro row
        rw [List.foldl_cons, ih fun other hother => hrest other (List.mem_cons_of_mem add hother)]
        simp only [merge, hrest add List.mem_cons_self, List.map_cons, List.foldl_cons, ← min_def_lt, ← max_def_lt]
        rw [min_comm add.seenAt]
    rw [after, hfold, created]
    simp only [hkept first List.mem_cons_self, hfirst, hlast]

/-- A wall time eight hours ahead of UTC passes for a later time on SQLite, and the order of the adds shows. -/
example :
    let early : FindingAdd := ⟨"tenant-a", hostFinding "f1" "web-1" .low, none, ⟨0, "1"⟩⟩
    let late : FindingAdd := ⟨"tenant-a", hostFinding "f2" "web-1" .low, none, ⟨30, "2"⟩⟩
    let offset (add : FindingAdd) : ℤ := if add.seenAt = 0 then 480 else 0
    after .sqlite offset [early, late] = some ⟨30, 480⟩ ∧ after .sqlite offset [late, early] = some ⟨480, 30⟩ := by
  decide

end SeenColumns

/-- What a store holds after adds, told by the adds that returned. Its times are those in the columns, as long as
these keep the times of all adds. -/
structure FindingLifecycle.FoldOf (core : CoreLibrary) (text : TextLibrary) (adds : List FindingAdd) :
    Prop where
  exists_iff : ∀ tenantId fingerprint,
    (∃ row ∈ (addAll core text Database.empty adds).findings.rows,
      row.tenantId = tenantId ∧ row.fingerprint = fingerprint) ↔
    history core text (performed core text Database.empty adds) tenantId fingerprint ≠ []
  unique : ∀ row ∈ (addAll core text Database.empty adds).findings.rows,
    ∀ row' ∈ (addAll core text Database.empty adds).findings.rows,
      row.tenantId = row'.tenantId → row.fingerprint = row'.fingerprint → row = row'
  summarizes : ∀ row ∈ (addAll core text Database.empty adds).findings.rows,
    Summarizes core (history core text (performed core text Database.empty adds) row.tenantId
      row.fingerprint) row
  times : ∀ (column : TimeColumn) (offset : FindingAdd → ℤ),
    (∀ add ∈ adds, column.readBack add.seenAt (offset add) = add.seenAt) →
    ∀ row ∈ (addAll core text Database.empty adds).findings.rows,
      SeenColumns.after column offset (history core text (performed core text Database.empty adds) row.tenantId
        row.fingerprint) = some ⟨row.firstSeen, row.lastSeen⟩
  first : ∀ initial, initial <+: adds →
    ∀ row₀ ∈ (addAll core text Database.empty initial).findings.rows,
      ∀ row ∈ (addAll core text Database.empty adds).findings.rows, row.tenantId = row₀.tenantId →
        row.fingerprint = row₀.fingerprint → row.rowId = row₀.rowId ∧ row.findingId = row₀.findingId
  orderFree : ∀ adds', (performed core text Database.empty adds).Perm
      (performed core text Database.empty adds') →
    ∀ row ∈ (addAll core text Database.empty adds).findings.rows,
      ∀ row' ∈ (addAll core text Database.empty adds').findings.rows, row.tenantId = row'.tenantId →
        row.fingerprint = row'.fingerprint → OrderFree core row row'

/-- After every list of adds, under any tenants and job ids, the rows are the fold of the adds that
returned. -/
theorem dedup_is_fold (core : CoreLibrary) (text : TextLibrary) (adds : List FindingAdd) :
    FindingLifecycle.FoldOf core text adds := by
  have hfolded : ∀ adds, FindingLifecycle.Folded core text
      (FindingLifecycle.addAll core text Database.empty adds)
      (FindingLifecycle.performed core text Database.empty adds) :=
    fun adds => FindingLifecycle.folded_empty.addAll adds
  refine ⟨?_, ?_, (hfolded adds).rows, ?_, ?_, ?_⟩
  · intro tenantId fingerprint
    constructor
    · rintro ⟨row, hrow, rfl, rfl⟩
      exact ((hfolded adds).rows row hrow).ne_nil
    · intro hne
      obtain ⟨add, hadd⟩ := List.exists_mem_of_ne_nil _ hne
      obtain ⟨hdone, hkey⟩ := List.mem_filter.mp hadd
      rw [decide_eq_true_eq] at hkey
      obtain ⟨row, hrow⟩ := Option.ne_none_iff_exists'.mp ((hfolded adds).stored add hdone)
      obtain ⟨hmem, htenant, hfingerprint⟩ := FindingLifecycle.fingerprint_of_find hrow
      exact ⟨row, hmem, htenant.trans hkey.1, hfingerprint.trans hkey.2⟩
  · exact fun row hrow row' hrow' htenant hfingerprint =>
      FindingLifecycle.row_unique _ hrow hrow' htenant hfingerprint
  · intro column offset hkept row hrow
    have hsummarizes := (hfolded adds).rows row hrow
    refine SeenColumns.after_of_kept (fun add hadd => hkept add ?_) hsummarizes.firstSeen hsummarizes.lastSeen
    exact (FindingLifecycle.performed_sublist _ _).subset (List.mem_of_mem_filter hadd)
  · rintro initial ⟨rest, rfl⟩ row₀ hrow₀ row hrow htenant hfingerprint
    rw [FindingLifecycle.addAll_append] at hrow
    obtain ⟨row', hrow', htenant', hfingerprint', hid, hfinding⟩ :=
      @FindingLifecycle.addAll_keeps core text _ rest _ hrow₀
    have hsame := FindingLifecycle.row_unique _ hrow hrow' (htenant.trans htenant'.symm)
      (hfingerprint.trans hfingerprint'.symm)
    exact ⟨hsame ▸ hid, hsame ▸ hfinding⟩
  · intro adds' hperm row hrow row' hrow' htenant hfingerprint
    have hhistory := (hfolded adds').rows row' hrow'
    rw [← htenant, ← hfingerprint] at hhistory
    exact ((hfolded adds).rows row hrow).orderFree hhistory (hperm.filter _)

set_option maxRecDepth 8000 in
/-- A single add stores its evidence with the duplicates it brings. -/
theorem dedup_keeps_duplicates :
    ∃ row ∈ (FindingLifecycle.addAll FindingDict.core FindingDict.text Database.empty
        [⟨"tenant-a", { hostFinding "f1" "web-1" .low with evidence := ["log", "log"] }, none, ⟨0, "1"⟩⟩]
          ).findings.rows,
      (row.finding FindingDict.core).evidence = ["log", "log"] ∧
        ["log", "log"].eraseDups = ["log"] := by
  decide +kernel

end SharedIntegration

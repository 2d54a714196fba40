import SharedIntegration.SqliteRegistry
import SharedIntegration.FindingDict

/-!
# What the SQLite registry retains

After any calls of any tenants, the findings of a tenant are a bounded map in insertion order, and its
correlations a bounded queue, of its own calls alone. A query returns the newest matches, unless it comes to
compare datetimes of different awareness.
-/

namespace SharedIntegration

open Retention

namespace SqliteRegistry

/-- A call that stores something; `add_sync` stores as `add` does. -/
inductive Call
  | add (finding : Finding)
  | addCorrelation (correlation : Correlation)

variable {core : CoreLibrary} {maxSize : ℕ}

/-- Perform the call of a tenant. -/
def perform (core : CoreLibrary) (maxSize : ℕ) (db : State) : String × Call → State
  | (tenantId, .add finding) => storeFinding core maxSize db tenantId finding
  | (tenantId, .addCorrelation correlation) => addCorrelation core maxSize db tenantId correlation

/-- Perform calls one after another on a new database file. -/
def run (core : CoreLibrary) (maxSize : ℕ) (calls : List (String × Call)) : State :=
  calls.foldl (perform core maxSize) .empty

/-- The findings that a tenant adds. -/
def added (tenantId : String) (calls : List (String × Call)) : List Finding :=
  calls.filterMap fun made =>
    match made.2 with
    | .add finding => if made.1 = tenantId then some finding else none
    | .addCorrelation _ => none

/-- The correlations that a tenant adds. -/
def related (tenantId : String) (calls : List (String × Call)) : List Correlation :=
  calls.filterMap fun made =>
    match made.2 with
    | .add _ => none
    | .addCorrelation correlation => if made.1 = tenantId then some correlation else none

/-- The bounded map of the findings that were added. -/
def retained (maxSize : ℕ) (findings : List Finding) : List Finding := findings.foldl (put Finding.id maxSize) []

/-- The bounded queue of the correlations that were added. -/
def queued (maxSize : ℕ) (correlations : List Correlation) : List Correlation :=
  correlations.foldl (push maxSize) []

/-- The columns that a finding is stored in. -/
def columnsOf (core : CoreLibrary) (finding : Finding) : SqliteFinding := ⟨finding.id, core.toDict finding⟩

/-- One more add replaces or pushes. -/
theorem retained_append (findings : List Finding) (finding : Finding) :
    retained maxSize (findings ++ [finding]) = put Finding.id maxSize (retained maxSize findings) finding := by
  rw [retained, List.foldl_append]
  rfl

/-- One more correlation is pushed. -/
theorem queued_append (correlations : List Correlation) (correlation : Correlation) :
    queued maxSize (correlations ++ [correlation]) = push maxSize (queued maxSize correlations) correlation := by
  rw [queued, List.foldl_append]
  rfl

/-- A tenant retains no more findings than the registry has room for. -/
theorem length_retained_le (findings : List Finding) : (retained maxSize findings).length ≤ maxSize := by
  induction findings using List.reverseRecOn with
  | nil => exact Nat.zero_le maxSize
  | append_singleton findings finding ih =>
    rw [retained_append]
    exact length_put_le ih finding

/-- A tenant retains no more correlations than the registry has room for. -/
theorem length_queued_le (correlations : List Correlation) :
    (queued maxSize correlations).length ≤ maxSize := by
  induction correlations using List.reverseRecOn with
  | nil => exact Nat.zero_le maxSize
  | append_singleton correlations correlation ih =>
    rw [queued_append]
    exact length_push_le ih correlation

/-- The newest entries of a mapped list are those of the list, mapped. -/
theorem rtake_map {α β : Type} (f : α → β) (l : List α) (n : ℕ) : (l.map f).rtake n = (l.rtake n).map f := by
  rw [List.rtake, List.rtake, List.length_map, List.map_drop]

/-- A tenant has a row of an id exactly if it reads one. -/
theorem any_isRowOf (db : State) (tenantId findingId : String) :
    db.findings.rows.any (isRowOf tenantId findingId) =
      (db.findings.oldestFirst tenantId).any fun row => row.findingId = findingId := by
  rw [NumberedTable.oldestFirst, NumberedTable.ascending_eq, List.any_map, List.any_filter]
  rfl

/-- What an insert with its conflict clause does to the table. -/
theorem findings_upsert (db : State) (tenantId findingId : String) (payload : Document) :
    (upsert db tenantId findingId payload).findings = if db.findings.rows.any (isRowOf tenantId findingId) then
        db.findings.update (isRowOf tenantId findingId) ⟨findingId, payload⟩
      else db.findings.append tenantId ⟨findingId, payload⟩ := by
  unfold upsert
  split
  · rfl
  · rfl

/-- An insert of a finding leaves the correlations alone. -/
theorem correlations_upsert (db : State) (tenantId findingId : String) (payload : Document) :
    (upsert db tenantId findingId payload).correlations = db.correlations := by
  unfold upsert
  split
  · rfl
  · rfl

/-- An update of the rows of an id replaces what their tenant reads of it, and nothing else. -/
theorem oldestFirst_isRowOf (db : State) (tenantId other findingId : String) (columns : SqliteFinding) :
    (db.findings.update (isRowOf tenantId findingId) columns).oldestFirst other = if tenantId = other then
        (db.findings.oldestFirst other).map fun old => if old.findingId = findingId then columns else old
      else db.findings.oldestFirst other := by
  have hupdate := @NumberedTable.oldestFirst_update _ _ _ db.findings tenantId other columns
    fun row => row.findingId = findingId
  simp only [decide_eq_true_eq] at hupdate
  exact hupdate

/-- An add is read as a replacement or as a push by its tenant, and by no other. -/
theorem oldestFirst_storeFinding {db : State} {entries : List Finding} (tenantId other : String)
    (finding : Finding) (hentries : db.findings.oldestFirst other = entries.map (columnsOf core))
    (hlength : entries.length ≤ maxSize) :
    (storeFinding core maxSize db tenantId finding).findings.oldestFirst other =
      (if tenantId = other then put Finding.id maxSize entries finding else entries).map (columnsOf core) := by
  change ((upsert db tenantId finding.id (core.toDict finding)).findings.prune tenantId maxSize).oldestFirst
    other = _
  rw [NumberedTable.oldestFirst_prune, findings_upsert]
  by_cases htenant : tenantId = other
  · subst htenant
    have hany : db.findings.rows.any (isRowOf tenantId finding.id) =
        entries.any fun entry => entry.id = finding.id := by
      rw [any_isRowOf, hentries, List.any_map]
      rfl
    rw [if_pos rfl, if_pos rfl, hany]
    unfold put
    split
    · have hreplaced : (entries.map (columnsOf core)).map (fun old =>
          if old.findingId = finding.id then columnsOf core finding else old) =
          (entries.map fun entry => if entry.id = finding.id then finding else entry).map (columnsOf core) := by
        rw [List.map_map, List.map_map]
        refine List.map_congr_left fun entry _ => ?_
        by_cases hid : entry.id = finding.id
        · simp [columnsOf, hid]
        · simp [columnsOf, hid]
      rw [oldestFirst_isRowOf, if_pos rfl, hentries]
      exact (rtake_of_length_le (by simpa using hlength)).trans hreplaced
    · rw [NumberedTable.oldestFirst_append, if_pos rfl, hentries, push_eq_rtake hlength, ← rtake_map,
        List.map_append]
      rfl
  · rw [if_neg htenant, if_neg htenant, ← hentries]
    split
    · exact (oldestFirst_isRowOf db tenantId other _ _).trans (if_neg htenant)
    · exact (db.findings.oldestFirst_append tenantId other _).trans (if_neg htenant)

/-- A correlation is pushed for its tenant, and for no other. -/
theorem oldestFirst_addCorrelation {db : State} {entries : List Correlation} (tenantId other : String)
    (correlation : Correlation)
    (hentries : db.correlations.oldestFirst other = entries.map (correlationToJson core))
    (hlength : entries.length ≤ maxSize) :
    (addCorrelation core maxSize db tenantId correlation).correlations.oldestFirst other =
      (if tenantId = other then push maxSize entries correlation else entries).map (correlationToJson core) := by
  change ((db.correlations.append tenantId (correlationToJson core correlation)).prune tenantId
    maxSize).oldestFirst other = _
  rw [NumberedTable.oldestFirst_prune, NumberedTable.oldestFirst_append]
  by_cases htenant : tenantId = other
  · rw [if_pos htenant, if_pos htenant, if_pos htenant, hentries, push_eq_rtake hlength, ← rtake_map,
      List.map_append]
    rfl
  · rw [if_neg htenant, if_neg htenant, if_neg htenant, hentries]

/-- What every tenant reads is what its own calls have left. -/
theorem run_oldestFirst (calls : List (String × Call)) (tenantId : String) :
    (run core maxSize calls).findings.oldestFirst tenantId =
      (retained maxSize (added tenantId calls)).map (columnsOf core) ∧
    (run core maxSize calls).correlations.oldestFirst tenantId =
      (queued maxSize (related tenantId calls)).map (correlationToJson core) := by
  induction calls using List.reverseRecOn with
  | nil => exact ⟨rfl, rfl⟩
  | append_singleton calls made ih =>
    obtain ⟨hfindings, hcorrelations⟩ := ih
    obtain ⟨other, call⟩ := made
    have hrun : run core maxSize (calls ++ [(other, call)]) =
        perform core maxSize (run core maxSize calls) (other, call) := by
      rw [run, List.foldl_append]
      rfl
    rw [hrun, added, related, List.filterMap_append, List.filterMap_append]
    cases call with
    | add finding =>
      refine ⟨(oldestFirst_storeFinding other tenantId finding hfindings (length_retained_le _)).trans ?_, ?_⟩
      · by_cases htenant : other = tenantId
        · have hone := @retained_append maxSize (added tenantId calls) finding
          simpa [htenant, added] using congrArg (List.map (columnsOf core)) hone.symm
        · simp [htenant, added]
      · rw [List.filterMap_cons_none rfl, List.filterMap_nil, List.append_nil]
        exact (congrArg (NumberedTable.oldestFirst · tenantId) (correlations_upsert _ _ _ _)).trans hcorrelations
    | addCorrelation correlation =>
      refine ⟨?_, (oldestFirst_addCorrelation other tenantId correlation hcorrelations
        (length_queued_le _)).trans ?_⟩
      · rw [List.filterMap_cons_none rfl, List.filterMap_nil, List.append_nil]
        exact hfindings
      · by_cases htenant : other = tenantId
        · have hone := @queued_append maxSize (related tenantId calls) correlation
          simpa [htenant, related] using congrArg (List.map (correlationToJson core)) hone.symm
        · simp [htenant, related]

/-- Whether a finding matches; a naive datetime is read as UTC. -/
def Query.matches (query : Query) (finding : Finding) : Bool :=
  query.selects finding &&
    query.since.all fun since => finding.ts.all fun ts => decide (asUtc since ≤ asUtc ts)

/-- The query and a finding that it would select have datetimes of one awareness, or no datetimes. -/
def Query.Comparable (query : Query) (finding : Finding) : Prop :=
  query.selects finding = true → ∀ since ∈ query.since, ∀ ts ∈ finding.ts, ts.aware = since.aware

/-- A finding that is comparable is admitted exactly if it matches. -/
theorem admits_of_comparable {query : Query} {finding : Finding} (h : query.Comparable finding) :
    query.admits finding = .ok (query.matches finding) := by
  unfold Query.admits Query.matches
  split
  · next hselects =>
    cases hsince : query.since with
    | none => simp [hselects]
    | some since =>
      cases hts : finding.ts with
      | none => simp [hselects]
      | some ts =>
        have haware := h hselects since hsince ts hts
        have hnotLess : decide (since.micros ≤ ts.micros) = !decide (ts.micros < since.micros) := by
          rw [← decide_not]
          exact decide_eq_decide.mpr not_lt.symm
        dsimp only
        rw [earlier, if_pos haware, hselects, Bool.true_and, Option.all_some, Option.all_some, asUtc, asUtc,
          hnotLess]
        rfl
  · next hselects => simp [hselects]

/-- A finding that is not comparable is never admitted. -/
theorem admits_of_not_comparable {query : Query} {finding : Finding} (h : ¬ query.Comparable finding) :
    ∃ message, query.admits finding = .error message := by
  unfold Query.Comparable at h
  push Not at h
  obtain ⟨hselects, since, hsince, ts, hts, haware⟩ := h
  rw [Option.mem_def] at hsince hts
  refine ⟨"can't compare offset-naive and offset-aware datetimes", ?_⟩
  rw [Query.admits, if_pos hselects, hsince, hts]
  dsimp only
  rw [earlier, if_neg haware]
  rfl

/-- The scan is comparable with every finding that it comes to before it has found enough. -/
def Query.ComparableUntil (query : Query) (wanted : ℕ) (findings : List Finding) : Prop :=
  ∀ newer finding older, findings = newer ++ finding :: older →
    (newer.filter query.matches).length < wanted → query.Comparable finding

/-- A scan that looks for more comes to the first finding, and then to the others. -/
theorem comparableUntil_cons {query : Query} {wanted : ℕ} {finding : Finding} {rest : List Finding} :
    query.ComparableUntil (wanted + 1) (finding :: rest) ↔ query.Comparable finding ∧
      query.ComparableUntil (if query.matches finding then wanted else wanted + 1) rest := by
  constructor
  · intro h
    refine ⟨h [] finding rest rfl (Nat.succ_pos wanted), fun newer other older hrest hlength => ?_⟩
    refine h (finding :: newer) other older (by rw [hrest]; rfl) ?_
    rw [List.filter_cons]
    split
    · next hmatches =>
      rw [if_pos hmatches] at hlength
      rw [List.length_cons]
      omega
    · next hmatches =>
      rw [if_neg hmatches] at hlength
      exact hlength
  · rintro ⟨hfirst, hrest⟩ newer other older hsplit hlength
    cases newer with
    | nil =>
      cases hsplit
      exact hfirst
    | cons head newer =>
      rw [List.cons_append, List.cons.injEq] at hsplit
      obtain ⟨rfl, hsplit⟩ := hsplit
      refine hrest newer other older hsplit ?_
      rw [List.filter_cons] at hlength
      split at hlength
      · next hmatches =>
        rw [if_pos hmatches]
        rw [List.length_cons] at hlength
        omega
      · next hmatches =>
        rw [if_neg hmatches]
        exact hlength

/-- A scan that has found enough comes to no further finding. -/
theorem comparableUntil_zero (query : Query) (findings : List Finding) : query.ComparableUntil 0 findings :=
  fun _ _ _ _ hlength => absurd hlength (Nat.not_lt_zero _)

/-- A scan that has not found enough yet returns the next matches exactly if it comes to no finding that it is
not comparable with. -/
theorem scan_eq_ok_iff (query : Query) (wanted : ℕ) (results findings : List Finding) :
    scan query (results.length + wanted + 1) results findings =
        .ok (results ++ (findings.filter query.matches).take (wanted + 1)) ↔
      query.ComparableUntil (wanted + 1) findings := by
  induction findings generalizing results wanted with
  | nil =>
    simp only [scan, List.filter_nil, List.take_nil, List.append_nil, true_iff]
    intro newer finding older hsplit
    exact absurd hsplit.symm (by simp)
  | cons finding rest ih =>
    rw [comparableUntil_cons]
    by_cases hcomparable : query.Comparable finding
    · rw [scan, admits_of_comparable hcomparable]
      change (if query.matches finding = true then _ else _) = _ ↔ _
      rw [List.filter_cons]
      split
      · next hmatches =>
        cases wanted with
        | zero =>
          rw [if_pos (by simp)]
          exact iff_of_true rfl ⟨hcomparable, comparableUntil_zero query rest⟩
        | succ wanted =>
          have hlength : results.length + (wanted + 1) + 1 = (results ++ [finding]).length + wanted + 1 := by
            rw [List.length_append, List.length_singleton]
            omega
          have happend : results ++ finding :: (rest.filter query.matches).take (wanted + 1) =
              results ++ [finding] ++ (rest.filter query.matches).take (wanted + 1) := List.append_cons _ _ _
          rw [hlength, if_neg (by omega), List.take_succ_cons, happend, ih]
          exact (and_iff_right hcomparable).symm
      · next hmatches =>
        rw [ih]
        exact (and_iff_right hcomparable).symm
    · obtain ⟨message, hraise⟩ := admits_of_not_comparable hcomparable
      rw [scan, hraise]
      exact iff_of_false nofun fun h => hcomparable h.1

/-- A stored finding is read as it was added. -/
theorem findings_run (calls : List (String × Call)) (tenantId : String) :
    findings core (run core maxSize calls) tenantId = retained maxSize (added tenantId calls) := by
  rw [findings, (run_oldestFirst calls tenantId).1, List.map_map]
  refine (List.map_congr_left fun finding _ => ?_).trans (List.map_id _)
  exact core.fromDict_toDict finding

/-- The text of a severity is read as that severity if no other one has it. -/
theorem severityOf_severityValue (hseverity : Function.Injective core.severityValue) (severity : FindingSeverity) :
    severityOf core (core.severityValue severity) = some severity := by
  have hsame : ∀ other, core.severityValue other = core.severityValue severity ↔ other = severity := fun other =>
    ⟨fun h => hseverity h, fun h => congrArg _ h⟩
  unfold severityOf
  simp only [hsame]
  cases severity <;> decide

/-- A stored correlation is read as it was added. -/
theorem correlationFromJson_correlationToJson (hseverity : Function.Injective core.severityValue)
    (correlation : Correlation) :
    correlationFromJson core (correlationToJson core correlation) = some correlation := by
  have hitems : ∀ ids : List String, (ids.map Json.str).mapM (Json.asStr? : Document → Option String) = some ids := by
    intro ids
    induction ids with
    | nil => rfl
    | cons id ids ih => simp [List.mapM_cons, ih, Json.asStr?]
  simp [correlationFromJson, correlationToJson, Json.get?, Json.getEntry, Json.asStr?, hitems,
    severityOf_severityValue hseverity]

/-- A list of stored correlations is read as they were added. -/
theorem correlations_run (hseverity : Function.Injective core.severityValue) (calls : List (String × Call))
    (tenantId : String) :
    correlations core (run core maxSize calls) tenantId = some (queued maxSize (related tenantId calls)) := by
  rw [correlations, (run_oldestFirst calls tenantId).2]
  induction queued maxSize (related tenantId calls) with
  | nil => rfl
  | cons correlation rest ih =>
    rw [List.map_cons, List.mapM_cons, correlationFromJson_correlationToJson hseverity, ih]
    rfl

/-- What a query returns if it returns: the newest matches. -/
def newestMatches (query : Query) (limit : ℕ) (findings : List Finding) : List Finding :=
  (findings.reverse.filter query.matches).take limit

/-- A query returns the newest matches exactly if it comes to no finding that it is not comparable with. -/
theorem query_eq_ok_iff (db : State) (tenantId : String) (filters : Query) {limit : ℕ} (hlimit : 0 < limit) :
    query core db tenantId filters limit = .ok (newestMatches filters limit (findings core db tenantId)) ↔
      filters.ComparableUntil limit (findings core db tenantId).reverse := by
  obtain ⟨wanted, rfl⟩ : ∃ wanted, limit = wanted + 1 := ⟨limit - 1, by omega⟩
  have hscan := scan_eq_ok_iff filters wanted [] (findings core db tenantId).reverse
  rw [List.length_nil, Nat.zero_add, List.nil_append] at hscan
  rw [query, NumberedTable.newestFirst_eq, List.map_reverse]
  exact hscan

/-- After any calls of any tenants: the findings of a tenant are the bounded map of those that it added, its
correlations the bounded queue of those, and a call of another tenant changes neither; and a query returns the
newest matches exactly if, before it has found enough, it comes to no finding that its other filters select
and whose datetime has not the awareness of its own. -/
theorem registry_retains (hseverity : Function.Injective core.severityValue) (maxSize : ℕ)
    (calls : List (String × Call)) (tenantId : String) :
    findings core (run core maxSize calls) tenantId = retained maxSize (added tenantId calls) ∧
    correlations core (run core maxSize calls) tenantId = some (queued maxSize (related tenantId calls)) ∧
    (∀ other call, other ≠ tenantId →
      findings core (perform core maxSize (run core maxSize calls) (other, call)) tenantId =
        findings core (run core maxSize calls) tenantId ∧
      correlations core (perform core maxSize (run core maxSize calls) (other, call)) tenantId =
        correlations core (run core maxSize calls) tenantId) ∧
    ∀ filters limit, 0 < limit →
      (query core (run core maxSize calls) tenantId filters limit =
          .ok (newestMatches filters limit (retained maxSize (added tenantId calls))) ↔
        filters.ComparableUntil limit (retained maxSize (added tenantId calls)).reverse) := by
  have hfindings := @findings_run core maxSize calls tenantId
  refine ⟨hfindings, correlations_run hseverity calls tenantId, fun other call hother => ?_,
    fun filters limit hlimit => ?_⟩
  · have hnext : perform core maxSize (run core maxSize calls) (other, call) =
        run core maxSize (calls ++ [(other, call)]) := by
      rw [run, run, List.foldl_append]
      rfl
    have hadded : added tenantId (calls ++ [(other, call)]) = added tenantId calls := by
      cases call with
      | add finding => simp [added, hother]
      | addCorrelation correlation => simp [added]
    have hrelated : related tenantId (calls ++ [(other, call)]) = related tenantId calls := by
      cases call with
      | add finding => simp [related]
      | addCorrelation correlation => simp [related, hother]
    rw [hnext, findings_run, findings_run, correlations_run hseverity, correlations_run hseverity, hadded, hrelated]
    exact ⟨rfl, rfl⟩
  · rw [← hfindings]
    exact query_eq_ok_iff _ tenantId filters hlimit

/-- A finding of the SOC product that was made at a time. -/
def datedFinding (id title : String) (ts : Option Timestamp) : Finding :=
  ⟨id, .soc, .low, 1 / 2, title, "", some "web-1", none, ts, [], [], ∅, .obj []⟩

/-- Two tenants that add to a file with room for two findings of each. -/
def evictingCalls : List (String × Call) :=
  [("tenant-a", .add (datedFinding "f1" "first" none)), ("tenant-b", .add (datedFinding "f1" "other" none)),
    ("tenant-a", .add (datedFinding "f2" "second" none)), ("tenant-a", .add (datedFinding "f3" "third" none)),
    ("tenant-a", .addCorrelation ⟨"rule", ["f2", "f2"], .high, "pair"⟩),
    ("tenant-a", .add (datedFinding "f1" "again" none)), ("tenant-a", .add (datedFinding "f3" "replaced" none))]

/-- The texts of the severities differ. -/
theorem severityValue_injective : Function.Injective FindingDict.core.severityValue :=
  Function.LeftInverse.injective FindingDict.severityOf_severityValue

/-- The theorem applies to them: a finding is replaced in its place, and one that was evicted comes back as
the newest. -/
theorem registry_retains_evictingCalls :
    (findings FindingDict.core (run FindingDict.core 2 evictingCalls) "tenant-a").map Finding.title =
      ["replaced", "again"] ∧
    correlations FindingDict.core (run FindingDict.core 2 evictingCalls) "tenant-a" =
      some [⟨"rule", ["f2", "f2"], .high, "pair"⟩] := by
  obtain ⟨hfindings, hcorrelations, -⟩ :=
    registry_retains severityValue_injective 2 evictingCalls "tenant-a"
  rw [hfindings, hcorrelations]
  exact ⟨by decide, by decide⟩

/-- A query with an aware datetime raises at a naive one, although the finding is of the same time. -/
theorem query_raises_at_naive_finding :
    query FindingDict.core (run FindingDict.core 2 [("tenant-a", .add (datedFinding "f1" "first" (some ⟨5, false⟩)))])
        "tenant-a" ⟨none, none, none, none, some ⟨5, true⟩⟩ 1 ≠
      .ok (newestMatches ⟨none, none, none, none, some ⟨5, true⟩⟩ 1
        (retained 2 (added "tenant-a" [("tenant-a", .add (datedFinding "f1" "first" (some ⟨5, false⟩)))]))) := by
  rw [← @findings_run FindingDict.core 2, Ne, query_eq_ok_iff _ _ _ Nat.one_pos, findings_run]
  intro huntil
  have hcomparable : (Query.mk none none none none (some ⟨5, true⟩)).Comparable
      (datedFinding "f1" "first" (some ⟨5, false⟩)) := huntil [] _ [] rfl Nat.one_pos
  exact absurd (hcomparable rfl _ rfl _ rfl) (by decide)

end SqliteRegistry

end SharedIntegration

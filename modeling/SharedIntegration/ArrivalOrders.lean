import SharedIntegration.Correlations
import SharedIntegration.FindingColumns
import Mathlib.Data.Sym.Sym2

/-!
# Correlations of findings in any order of arrival

Each finding is compared with those that arrived before it, so of two findings that belong together the later one
finds the earlier one. Which pairs are correlated does not depend on the order.
-/

namespace SharedIntegration

namespace SameHostMultiSourceRule

/-- Findings arrive one after another, and each is correlated with those before it. -/
def arrive (core : CoreLibrary) (window : ℕ) : (earlier : List Finding) → List Finding → Except String (List Correlation)
  | _, [] => .ok []
  | earlier, finding :: rest => do
    let correlations ← correlate core window finding earlier
    let later ← arrive core window (earlier ++ [finding]) rest
    return correlations ++ later

/-- The pairs of a correlation: its new finding with each related one. -/
def pairs (correlation : Correlation) : List (Sym2 String) :=
  match correlation.findings with
  | [] => []
  | new :: related => related.map fun id => s(new, id)

/-- The timestamps of the findings compare with each other. -/
def OneTimeLine (findings : List Finding) : Prop :=
  ∀ a ∈ findings, ∀ b ∈ findings, ∀ start ∈ a.ts, ∀ stop ∈ b.ts, start.aware = stop.aware

instance (findings : List Finding) : Decidable (OneTimeLine findings) :=
  inferInstanceAs (Decidable (∀ a ∈ findings, ∀ b ∈ findings, ∀ start ∈ a.ts, ∀ stop ∈ b.ts, start.aware = stop.aware))

/-- What one arrival gives: nothing, or one correlation that lists the new finding and then those related to it as they
are stored, without repetition and with their maximal severity. -/
structure Answers (window : ℕ) (newFinding : Finding) (earlier : List Finding) (correlations : List Correlation) :
    Prop where
  one : correlations = [] ∨ ∃ correlation, correlations = [correlation]
  lists : ∀ correlation ∈ correlations,
    correlation.findings = newFinding.id :: (earlier.filter fun finding => Matched window newFinding finding).map Finding.id
  nodup : ∀ correlation ∈ correlations, correlation.findings.Nodup
  severity : ∀ correlation ∈ correlations,
    ((newFinding :: earlier.filter fun finding => Matched window newFinding finding).map fun finding =>
      finding.severity.rank).max? = some correlation.severity.rank
  covers : (∃ finding ∈ earlier, Matched window newFinding finding) → correlations ≠ []

section Arrivals

variable {core : CoreLibrary} {window : ℕ} {newFinding : Finding} {earlier order findings : List Finding}

/-- The window check of findings on one time line does not raise. -/
theorem withinWindow_eq {a b : Finding} (haware : ∀ start ∈ a.ts, ∀ stop ∈ b.ts, start.aware = stop.aware) :
    withinWindow a b window =
      .ok (decide (∀ start ∈ a.ts, ∀ stop ∈ b.ts,
        totalSeconds (start.micros - stop.micros).natAbs ≤ totalSeconds window)) := by
  unfold withinWindow
  cases hstart : a.ts with
  | none => simp
  | some start =>
    cases hstop : b.ts with
    | none => simp
    | some stop =>
      have hsame : start.aware = stop.aware := haware start hstart stop hstop
      simp [hsame]

/-- The related findings of a finding with a host are those that share it across products. -/
theorem related_eq (hnamed : nonEmpty newFinding.host ≠ none)
    (haware : ∀ finding ∈ earlier, ∀ start ∈ newFinding.ts, ∀ stop ∈ finding.ts, start.aware = stop.aware)
    (hids : ∀ finding ∈ earlier, finding.id ≠ newFinding.id) :
    related window newFinding earlier = .ok (earlier.filter fun finding => Matched window newFinding finding) := by
  induction earlier with
  | nil => rfl
  | cons finding rest ih =>
    have hrest := ih (fun other hother => haware other (List.mem_cons_of_mem _ hother))
      fun other hother => hids other (List.mem_cons_of_mem _ hother)
    unfold related
    by_cases hshares : finding.id ≠ newFinding.id ∧ finding.host = newFinding.host ∧ finding.source ≠ newFinding.source
    · rw [if_pos hshares, withinWindow_eq (haware finding List.mem_cons_self)]
      by_cases hwithin : ∀ start ∈ newFinding.ts, ∀ stop ∈ finding.ts,
          totalSeconds (start.micros - stop.micros).natAbs ≤ totalSeconds window
      · have hmatched : Matched window newFinding finding :=
          ⟨hshares.2.1.symm, hnamed, hshares.2.2.symm, hwithin⟩
        rw [decide_eq_true hwithin, List.filter_cons_of_pos (by simpa using hmatched), hrest]
        rfl
      · rw [decide_eq_false hwithin, List.filter_cons_of_neg]
        · exact hrest
        · exact fun hmatched => hwithin (of_decide_eq_true hmatched).within
    · rw [if_neg hshares, List.filter_cons_of_neg, hrest]
      intro hmatched
      have hmatched := of_decide_eq_true hmatched
      exact hshares ⟨hids finding List.mem_cons_self, hmatched.host.symm, hmatched.source.symm⟩

/-- The severity of a correlation is the largest one of its findings. -/
theorem max?_maxSeverity (first : Finding) (rest : List Finding) :
    ((first :: rest).map fun finding => finding.severity.rank).max? = some (maxSeverity first rest).rank := by
  rw [List.map_cons, List.max?_cons', maxSeverity]
  generalize first.severity = best
  induction rest generalizing best with
  | nil => rfl
  | cons finding rest ih =>
    rw [List.map_cons, List.foldl_cons, List.foldl_cons]
    split
    · next hless =>
      rw [max_eq_right hless.le]
      exact ih finding.severity
    · next hmost =>
      rw [max_eq_left (not_lt.mp hmost)]
      exact ih best

/-- An arrival on one time line is answered. -/
theorem correlate_answers (haware : ∀ finding ∈ earlier, ∀ start ∈ newFinding.ts, ∀ stop ∈ finding.ts,
      start.aware = stop.aware) (hids : ((earlier ++ [newFinding]).map Finding.id).Nodup) :
    ∃ correlations, correlate core window newFinding earlier = .ok correlations ∧
      Answers window newFinding earlier correlations := by
  rw [List.map_append, List.map_singleton, List.nodup_append] at hids
  obtain ⟨hearlier, -, hnew⟩ := hids
  have hdifferent : ∀ finding ∈ earlier, finding.id ≠ newFinding.id := fun finding hfinding =>
    hnew finding.id (List.mem_map_of_mem hfinding) newFinding.id (List.mem_singleton.mpr rfl)
  have hnothing : (∀ finding ∈ earlier, ¬ Matched window newFinding finding) → Answers window newFinding earlier [] := by
    intro hnone
    refine ⟨Or.inl rfl, nofun, nofun, nofun, ?_⟩
    intro ⟨finding, hfinding, hmatched⟩
    exact absurd hmatched (hnone finding hfinding)
  unfold correlate
  cases hhost : nonEmpty newFinding.host with
  | none => exact ⟨[], rfl, hnothing fun finding _ hmatched => hmatched.named hhost⟩
  | some host =>
    have hnamed : nonEmpty newFinding.host ≠ none := by
      rw [hhost]
      exact Option.some_ne_none host
    dsimp only
    rw [related_eq hnamed haware hdifferent]
    cases hfound : earlier.filter fun finding => Matched window newFinding finding with
    | nil =>
      refine ⟨[], rfl, hnothing fun finding hfinding hmatched => ?_⟩
      have hmem : finding ∈ earlier.filter fun finding => Matched window newFinding finding :=
        List.mem_filter.mpr ⟨hfinding, decide_eq_true hmatched⟩
      rw [hfound] at hmem
      exact List.not_mem_nil hmem
    | cons first rest =>
      refine ⟨_, rfl, Or.inr ⟨_, rfl⟩, ?_, ?_, ?_, fun _ => List.cons_ne_nil _ _⟩
      · intro other hother
        rw [List.mem_singleton.mp hother, hfound]
        rfl
      · intro other hother
        rw [List.mem_singleton.mp hother]
        have hsublist : ((first :: rest).map Finding.id).Sublist (earlier.map Finding.id) := by
          rw [← hfound]
          exact List.filter_sublist.map _
        refine List.nodup_cons.mpr ⟨fun hmem => ?_, hearlier.sublist hsublist⟩
        exact hnew newFinding.id (hsublist.subset hmem) newFinding.id (List.mem_singleton.mpr rfl) rfl
      · intro other hother
        rw [List.mem_singleton.mp hother, hfound]
        exact max?_maxSeverity newFinding (first :: rest)

/-- The pairs of an arrival are the new finding with each related one. -/
theorem Answers.mem_pairs {correlations : List Correlation} (h : Answers window newFinding earlier correlations)
    (pair : Sym2 String) : pair ∈ correlations.flatMap pairs ↔
      ∃ finding ∈ earlier, Matched window newFinding finding ∧ pair = s(newFinding.id, finding.id) := by
  rw [List.mem_flatMap]
  constructor
  · intro ⟨correlation, hmem, hpair⟩
    rw [pairs, h.lists correlation hmem] at hpair
    obtain ⟨id, hid, rfl⟩ := List.mem_map.mp hpair
    obtain ⟨finding, hfinding, rfl⟩ := List.mem_map.mp hid
    obtain ⟨hearlier, hmatched⟩ := List.mem_filter.mp hfinding
    exact ⟨finding, hearlier, of_decide_eq_true hmatched, rfl⟩
  · intro ⟨finding, hfinding, hmatched, hpair⟩
    obtain ⟨correlation, hmem⟩ := List.exists_mem_of_ne_nil _ (h.covers ⟨finding, hfinding, hmatched⟩)
    refine ⟨correlation, hmem, ?_⟩
    rw [pairs, h.lists correlation hmem, hpair]
    have hselected : finding ∈ earlier.filter fun finding => Matched window newFinding finding :=
      List.mem_filter.mpr ⟨hfinding, decide_eq_true hmatched⟩
    exact List.mem_map.mpr ⟨finding.id, List.mem_map_of_mem hselected, rfl⟩

/-- Of the findings that arrive after some earlier ones, each is paired with those before it that it is related to. -/
theorem arrive_covers (hids : ((earlier ++ order).map Finding.id).Nodup) (htime : OneTimeLine (earlier ++ order)) :
    ∃ correlations, arrive core window earlier order = .ok correlations ∧ ∀ pair, pair ∈ correlations.flatMap pairs ↔
      ∃ before finding after, order = before ++ finding :: after ∧ ∃ other ∈ earlier ++ before,
        Matched window finding other ∧ pair = s(finding.id, other.id) := by
  induction order generalizing earlier with
  | nil =>
    refine ⟨[], rfl, fun pair => iff_of_false List.not_mem_nil ?_⟩
    intro ⟨before, finding, after, hsplit, _⟩
    exact absurd hsplit (by simp)
  | cons finding rest ih =>
    have hsplit : earlier ++ finding :: rest = (earlier ++ [finding]) ++ rest := by simp
    rw [hsplit] at hids htime
    obtain ⟨later, hlater, hcovers⟩ := ih hids htime
    have hfirst : ((earlier ++ [finding]).map Finding.id).Nodup := by
      rw [List.map_append] at hids
      exact (List.nodup_append.mp hids).1
    have haware : ∀ other ∈ earlier, ∀ start ∈ finding.ts, ∀ stop ∈ other.ts, start.aware = stop.aware := by
      intro other hother
      exact htime finding (by simp) other (by simp [hother])
    obtain ⟨correlations, hcorrelate, hanswers⟩ := @correlate_answers core window finding earlier haware hfirst
    refine ⟨correlations ++ later, ?_, fun pair => ?_⟩
    · unfold arrive
      rw [hcorrelate, hlater]
      rfl
    · rw [List.flatMap_append, List.mem_append, hanswers.mem_pairs, hcovers]
      constructor
      · rintro (⟨other, hother, hmatched⟩ | ⟨before, new, after, rfl, other, hother, hmatched⟩)
        · exact ⟨[], finding, rest, rfl, other, by simpa using hother, hmatched⟩
        · exact ⟨finding :: before, new, after, rfl, other, by simpa using hother, hmatched⟩
      · rintro ⟨before, new, after, hcons, other, hother, hmatched⟩
        cases before with
        | nil =>
          obtain ⟨rfl, rfl⟩ := List.cons.inj hcons
          exact Or.inl ⟨other, by simpa using hother, hmatched⟩
        | cons first before =>
          obtain ⟨rfl, rfl⟩ := List.cons.inj hcons
          exact Or.inr ⟨before, new, after, rfl, other, by simpa using hother, hmatched⟩

/-- Of two members of a list with different sources one comes before the other. -/
theorem exists_split_of_matched {a b : Finding} (ha : a ∈ order) (hb : b ∈ order) (hmatched : Matched window a b) :
    (∃ before after, order = before ++ a :: after ∧ b ∈ before) ∨
      ∃ before after, order = before ++ b :: after ∧ a ∈ before := by
  obtain ⟨before, after, rfl⟩ := List.append_of_mem ha
  rcases List.mem_append.mp hb with hbefore | hb
  · exact Or.inl ⟨before, after, rfl, hbefore⟩
  · rcases List.mem_cons.mp hb with rfl | hafter
    · exact absurd rfl hmatched.source
    · obtain ⟨between, rest, rfl⟩ := List.append_of_mem hafter
      exact Or.inr ⟨before ++ a :: between, rest, by simp, by simp⟩

end Arrivals

/-- In whatever order findings with different ids and comparable timestamps arrive, each is answered, and the pairs
that are correlated are those that match. For windows up to `2 ^ 33` seconds these are the related ones. -/
theorem arrival_orders (core : CoreLibrary) (window : ℕ) (findings order : List Finding)
    (hids : (findings.map Finding.id).Nodup) (htime : OneTimeLine findings) (horder : order.Perm findings) :
    (∃ correlations, arrive core window [] order = .ok correlations ∧
      {pair | pair ∈ correlations.flatMap pairs} =
        {pair | ∃ a ∈ findings, ∃ b ∈ findings, Matched window a b ∧ pair = s(a.id, b.id)}) ∧
    (∀ earlier newFinding later, order = earlier ++ newFinding :: later →
      ∃ correlations, correlate core window newFinding earlier = .ok correlations ∧
        Answers window newFinding earlier correlations) ∧
    (window ≤ 1000000 * 2 ^ 33 → ∀ a b, Matched window a b ↔ Related window a b) := by
  have hids' : (order.map Finding.id).Nodup := (horder.map Finding.id).nodup_iff.mpr hids
  have htime' : OneTimeLine order := fun a ha b hb => htime a (horder.mem_iff.mp ha) b (horder.mem_iff.mp hb)
  refine ⟨?_, ?_, fun hwindow a b => matched_iff hwindow⟩
  · obtain ⟨correlations, harrive, hcovers⟩ := @arrive_covers core window [] order hids' htime'
    refine ⟨correlations, harrive, ?_⟩
    ext pair
    rw [Set.mem_ofPred_eq, Set.mem_ofPred_eq, hcovers]
    constructor
    · intro ⟨before, finding, after, hsplit, other, hother, hmatched, hpair⟩
      refine ⟨finding, horder.mem_iff.mp ?_, other, horder.mem_iff.mp ?_, hmatched, hpair⟩
      · rw [hsplit]
        exact List.mem_append_right _ List.mem_cons_self
      · rw [hsplit]
        exact List.mem_append_left _ (by simpa using hother)
    · intro ⟨a, ha, b, hb, hmatched, hpair⟩
      rcases exists_split_of_matched (horder.mem_iff.mpr ha) (horder.mem_iff.mpr hb) hmatched with
        ⟨before, after, hsplit, hbefore⟩ | ⟨before, after, hsplit, hbefore⟩
      · exact ⟨before, a, after, hsplit, b, by simpa using hbefore, hmatched, hpair⟩
      · refine ⟨before, b, after, hsplit, a, by simpa using hbefore, hmatched.symm, ?_⟩
        rw [hpair, Sym2.eq_swap]
  · rintro earlier newFinding later rfl
    apply correlate_answers
    · exact fun finding hfinding => htime' newFinding (by simp) finding (by simp [hfinding])
    · rw [List.append_cons, List.map_append] at hids'
      exact (List.nodup_append.mp hids').1

/-- Three findings of one host, one of them with a time. -/
def oneHost : List Finding :=
  [hostFinding "f1" "web-1" .low, { hostFinding "f2" "web-1" .high with source := .vuln },
    { hostFinding "f3" "web-1" .info with source := .code, ts := some ⟨0, true⟩ }]

/-- The theorem applies to these findings in another order, in which the last one is related to both others. -/
theorem arrival_orders_lastFirst :
    correlate FindingDict.core 86400000000 (hostFinding "f1" "web-1" .low)
        [{ hostFinding "f3" "web-1" .info with source := .code, ts := some ⟨0, true⟩ },
          { hostFinding "f2" "web-1" .high with source := .vuln }] =
      .ok [⟨ruleId, ["f1", "f3", "f2"], .high, "Multi-source findings on web-1: 001, 004, 002"⟩] ∧
    ∃ correlations, arrive FindingDict.core 86400000000 [] oneHost.reverse = .ok correlations ∧
      {pair | pair ∈ correlations.flatMap pairs} =
        {pair | ∃ a ∈ oneHost, ∃ b ∈ oneHost, Related 86400000000 a b ∧ pair = s(a.id, b.id)} := by
  refine ⟨by decide, ?_⟩
  have hids : (oneHost.map Finding.id).Nodup := by decide
  have htime : OneTimeLine oneHost := by decide
  obtain ⟨harrive, -, hexact⟩ :=
    arrival_orders FindingDict.core 86400000000 oneHost oneHost.reverse hids htime (List.reverse_perm _)
  simpa only [hexact (by decide)] using harrive

/-- Two findings of one host, one microsecond more than 200000 days apart. -/
def farApart : List Finding :=
  [{ hostFinding "f1" "web-1" .low with ts := some ⟨0, true⟩ },
    { hostFinding "f2" "web-1" .high with source := .vuln, ts := some ⟨17280000000000001, true⟩ }]

/-- A window of 200000 days covers a pair that is further apart. -/
theorem arrival_orders_beyondWindow :
    farApart.Pairwise (fun a b => ¬ Related 17280000000000000 a b) ∧
    ∃ correlations, arrive FindingDict.core 17280000000000000 [] farApart = .ok correlations ∧
      s("f2", "f1") ∈ correlations.flatMap pairs := by
  have harrive : arrive FindingDict.core 17280000000000000 [] farApart =
      .ok [⟨ruleId, ["f2", "f1"], .high, "Multi-source findings on web-1: 002, 001"⟩] := by
    decide +kernel
  exact ⟨by decide, _, harrive, List.mem_cons_self⟩

end SameHostMultiSourceRule

end SharedIntegration

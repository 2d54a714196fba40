import SharedIntegration.Core
import SharedIntegration.Library.Binary64

/-!
# The cross-product correlation rule

`SameHostMultiSourceRule` relates a new finding to those already known on the same host that come from other
products. The window and all distances are counted in microseconds, but compared as seconds, which are floats: they
tell microseconds apart up to `2 ^ 33` seconds, about 272 years.
-/

namespace SharedIntegration

namespace SameHostMultiSourceRule

/-- `id`. -/
def ruleId : String := "integ-same-host-multi-source"

/-- `total_seconds` of so many microseconds, which `abs` has made positive. -/
def totalSeconds (micros : ℕ) : ℕ := Binary64.trueDivide micros 1000000

/-- `_within_window`; datetimes of different awareness do not subtract. -/
def withinWindow (a b : Finding) (window : ℕ) : Except String Bool :=
  match a.ts, b.ts with
  | some start, some stop =>
    if start.aware = stop.aware then
      .ok (decide (totalSeconds (start.micros - stop.micros).natAbs ≤ totalSeconds window))
    else .error "can't subtract offset-naive and offset-aware datetimes"
  | _, _ => .ok true

/-- The known findings that a new one is related to, in their order. -/
def related (window : ℕ) (newFinding : Finding) : List Finding → Except String (List Finding)
  | [] => .ok []
  | finding :: rest =>
    if finding.id ≠ newFinding.id ∧ finding.host = newFinding.host ∧ finding.source ≠ newFinding.source then
      match withinWindow newFinding finding window with
      | .ok true => (related window newFinding rest).map (finding :: ·)
      | .ok false => related window newFinding rest
      | .error message => .error message
    else related window newFinding rest

/-- `_max_severity` of a list with a first finding. -/
def maxSeverity (first : Finding) (rest : List Finding) : FindingSeverity :=
  rest.foldl (fun best finding => if best.rank < finding.severity.rank then finding.severity else best) first.severity

/-- The correlation of a new finding with those that it is related to. -/
def correlation (core : CoreLibrary) (host : String) (newFinding : Finding) (found : List Finding) : Correlation where
  ruleId := ruleId
  findings := newFinding.id :: found.map Finding.id
  severity := maxSeverity newFinding found
  narrative := "Multi-source findings on " ++ host ++ ": " ++
    ", ".intercalate ((newFinding :: found).map fun finding => core.sourceValue finding.source)

/-- `correlate`, for a window that is not negative. -/
def correlate (core : CoreLibrary) (window : ℕ) : CorrelationRule := fun newFinding existing =>
  match nonEmpty newFinding.host with
  | none => .ok []
  | some host =>
    match related window newFinding existing with
    | .error message => .error message
    | .ok [] => .ok []
    | .ok (first :: rest) => .ok [correlation core host newFinding (first :: rest)]

/-- What makes two findings cross-product: one host, two products, and no timestamps further apart than the
window. -/
structure Related (window : ℕ) (a b : Finding) : Prop where
  host : a.host = b.host
  named : nonEmpty a.host ≠ none
  source : a.source ≠ b.source
  within : ∀ start ∈ a.ts, ∀ stop ∈ b.ts, (start.micros - stop.micros).natAbs ≤ window

instance (window : ℕ) (a b : Finding) : Decidable (Related window a b) :=
  decidable_of_iff (a.host = b.host ∧ nonEmpty a.host ≠ none ∧ a.source ≠ b.source ∧
      ∀ start ∈ a.ts, ∀ stop ∈ b.ts, (start.micros - stop.micros).natAbs ≤ window)
    ⟨fun ⟨hhost, hnamed, hsource, hwithin⟩ => ⟨hhost, hnamed, hsource, hwithin⟩,
      fun ⟨hhost, hnamed, hsource, hwithin⟩ => ⟨hhost, hnamed, hsource, hwithin⟩⟩

/-- What the rule finds: the timestamps are no further apart than the window once both are floats. -/
structure Matched (window : ℕ) (a b : Finding) : Prop where
  host : a.host = b.host
  named : nonEmpty a.host ≠ none
  source : a.source ≠ b.source
  within : ∀ start ∈ a.ts, ∀ stop ∈ b.ts, totalSeconds (start.micros - stop.micros).natAbs ≤ totalSeconds window

instance (window : ℕ) (a b : Finding) : Decidable (Matched window a b) :=
  decidable_of_iff (a.host = b.host ∧ nonEmpty a.host ≠ none ∧ a.source ≠ b.source ∧
      ∀ start ∈ a.ts, ∀ stop ∈ b.ts, totalSeconds (start.micros - stop.micros).natAbs ≤ totalSeconds window)
    ⟨fun ⟨hhost, hnamed, hsource, hwithin⟩ => ⟨hhost, hnamed, hsource, hwithin⟩,
      fun ⟨hhost, hnamed, hsource, hwithin⟩ => ⟨hhost, hnamed, hsource, hwithin⟩⟩

variable {core : CoreLibrary} {window : ℕ} {a b newFinding : Finding} {existing found : List Finding}

/-- More microseconds are not fewer seconds. -/
theorem totalSeconds_mono {micros micros' : ℕ} (h : micros ≤ micros') : totalSeconds micros ≤ totalSeconds micros' :=
  Binary64.trueDivide_mono (by decide) h

/-- Up to `2 ^ 33` seconds, every microsecond counts. -/
theorem totalSeconds_le_iff {micros : ℕ} (hwindow : window ≤ 1000000 * 2 ^ 33) :
    totalSeconds micros ≤ totalSeconds window ↔ micros ≤ window := by
  refine ⟨fun h => ?_, totalSeconds_mono⟩
  by_contra hmore
  have hnext : totalSeconds window < totalSeconds (window + 1) := by
    have hfew : (1000000 : ℕ) < 2 ^ 20 := by decide
    exact Binary64.trueDivide_lt_succ (by decide) (by decide) hfew hwindow
  have hafter : totalSeconds (window + 1) ≤ totalSeconds micros := totalSeconds_mono (by omega)
  omega

/-- Neither of two related findings comes first. -/
theorem Related.symm (h : Related window a b) : Related window b a where
  host := h.host.symm
  named := h.host ▸ h.named
  source := h.source.symm
  within start hstart stop hstop := by
    have hdistance := h.within stop hstop start hstart
    omega

/-- Nor does one of two matched ones. -/
theorem Matched.symm (h : Matched window a b) : Matched window b a where
  host := h.host.symm
  named := h.host ▸ h.named
  source := h.source.symm
  within start hstart stop hstop := by
    have hdistance := h.within stop hstop start hstart
    have hsame : (start.micros - stop.micros).natAbs = (stop.micros - start.micros).natAbs := by omega
    rwa [hsame]

/-- Related findings are found. -/
theorem Related.matched (h : Related window a b) : Matched window a b :=
  ⟨h.host, h.named, h.source, fun start hstart stop hstop => totalSeconds_mono (h.within start hstart stop hstop)⟩

/-- Up to a window of `2 ^ 33` seconds, only related findings are found. -/
theorem matched_iff (hwindow : window ≤ 1000000 * 2 ^ 33) : Matched window a b ↔ Related window a b := by
  refine ⟨fun h => ⟨h.host, h.named, h.source, fun start hstart stop hstop => ?_⟩, Related.matched⟩
  exact (totalSeconds_le_iff hwindow).mp (h.within start hstart stop hstop)

/-- The window check of matched findings does not fail, unless it raises. -/
theorem withinWindow_ne_false (h : Matched window a b) : withinWindow a b window ≠ .ok false := by
  unfold withinWindow
  split
  · next start stop hstart hstop =>
    split
    · intro hfalse
      exact of_decide_eq_false (Except.ok.inj hfalse) (h.within start hstart stop hstop)
    · nofun
  · nofun

/-- A known finding that matches the new one is selected. -/
theorem mem_related (h : related window newFinding existing = .ok found) (hb : b ∈ existing)
    (hid : b.id ≠ newFinding.id) (hmatched : Matched window newFinding b) : b ∈ found := by
  induction existing generalizing found with
  | nil => exact absurd hb List.not_mem_nil
  | cons finding rest ih =>
    unfold related at h
    split at h
    · split at h
      · obtain ⟨later, hlater, rfl⟩ : ∃ later, related window newFinding rest = .ok later ∧ finding :: later = found := by
          cases hrest : related window newFinding rest with
          | error message =>
            rw [hrest] at h
            cases h
          | ok later =>
            rw [hrest] at h
            exact ⟨later, rfl, Except.ok.inj h⟩
        rcases List.mem_cons.mp hb with rfl | hb
        · exact List.mem_cons_self
        · exact List.mem_cons_of_mem finding (ih hlater hb)
      · next hfalse =>
        rcases List.mem_cons.mp hb with rfl | hb
        · exact absurd hfalse (withinWindow_ne_false hmatched)
        · exact ih h hb
      · cases h
    · next hskip =>
      rcases List.mem_cons.mp hb with rfl | hb
      · exact absurd ⟨hid, hmatched.host.symm, hmatched.source.symm⟩ hskip
      · exact ih h hb

/-- The rule relates a new finding to every known one that it is cross-product with. -/
theorem correlate_contains {correlations : List Correlation} (h : correlate core window newFinding existing = .ok correlations)
    (hb : b ∈ existing) (hid : b.id ≠ newFinding.id) (hrelated : Related window newFinding b) :
    ∃ correlation ∈ correlations, newFinding.id ∈ correlation.findings ∧ b.id ∈ correlation.findings := by
  unfold correlate at h
  split at h
  · next hnone => exact absurd hnone hrelated.named
  · split at h
    · cases h
    · next hnothing => exact absurd (mem_related hnothing hb hid hrelated.matched) List.not_mem_nil
    · next host hhost first rest hfound =>
      rw [← Except.ok.inj h]
      have hmem : b ∈ first :: rest := mem_related hfound hb hid hrelated.matched
      exact ⟨_, List.mem_cons_self, List.mem_cons_self, List.mem_cons_of_mem _ (List.mem_map_of_mem hmem)⟩

end SameHostMultiSourceRule

end SharedIntegration

import Mathlib.Algebra.Order.Group.Defs
import Mathlib.Data.List.Basic
import Mathlib.Data.List.Induction

/-!
# Sliding windows

Readings of a clock in the order in which they were taken. When fewer than `n` readings of the last
window precede each reading, no window of that length holds more than `n` of them.
-/

namespace Window

variable {Time : Type*} [LinearOrder Time]

/-- In order, the old readings are those at the front. -/
theorem dropWhile_eq_filter {times : List Time} (h : times.Pairwise (· ≤ ·)) (cutoff : Time) :
    (times.dropWhile fun t => t ≤ cutoff) = times.filter fun t => cutoff < t := by
  induction times with
  | nil => rfl
  | cons t rest ih =>
    obtain ⟨hfirst, hrest⟩ := List.pairwise_cons.mp h
    by_cases hold : t ≤ cutoff
    · have hdrop : ((t :: rest).dropWhile fun t => t ≤ cutoff) = rest.dropWhile fun t => t ≤ cutoff :=
        List.dropWhile_cons_of_pos (decide_eq_true hold)
      rw [hdrop, ih hrest, List.filter_cons_of_neg]
      simpa using hold
    · have hall : ∀ later ∈ t :: rest, cutoff < later := by
        intro later hlater
        rcases List.mem_cons.mp hlater with rfl | hlater
        · exact not_le.mp hold
        · exact lt_of_lt_of_le (not_le.mp hold) (hfirst later hlater)
      rw [List.dropWhile_cons_of_neg (by simpa using hold), List.filter_eq_self.mpr]
      exact fun later hlater => decide_eq_true (hall later hlater)

/-- The last reading is the youngest. -/
theorem le_getLast? {times : List Time} (h : times.Pairwise (· ≤ ·)) {cutoff : Time}
    (hlast : (times.getLast?.all fun last => last ≤ cutoff) = true) {t : Time} (ht : t ∈ times) : t ≤ cutoff := by
  rcases List.eq_nil_or_concat times with rfl | ⟨front, last, rfl⟩
  · exact absurd ht List.not_mem_nil
  · rw [List.concat_eq_append] at h hlast ht
    rw [List.getLast?_append_cons, List.getLast?_singleton] at hlast
    have hlast : last ≤ cutoff := of_decide_eq_true hlast
    rcases List.mem_append.mp ht with hfront | hsame
    · exact le_trans ((List.pairwise_append.mp h).2.2 t hfront last List.mem_cons_self) hlast
    · rw [List.mem_singleton.mp hsame]
      exact hlast

variable [AddCommGroup Time]

/-- The readings that are younger than the window. -/
def live (window now : Time) (times : List Time) : List Time := times.filter fun t => now - window < t

/-- Fewer than `n` readings of the last window precede each reading. -/
def Spaced (n : ℕ) (window : Time) (times : List Time) : Prop :=
  ∀ before t after, times = before ++ t :: after → (live window t before).length < n

/-- A further reading. -/
theorem Spaced.append {n : ℕ} {window t : Time} {times : List Time} (h : Spaced n window times)
    (hfew : (live window t times).length < n) : Spaced n window (times ++ [t]) := by
  intro before t' after hsplit
  rcases List.eq_nil_or_concat after with rfl | ⟨front, last, rfl⟩
  · obtain ⟨rfl, hlast⟩ := List.append_inj' hsplit rfl
    rw [← (List.cons.inj hlast).1]
    exact hfew
  · rw [List.concat_eq_append, ← List.cons_append, ← List.append_assoc] at hsplit
    exact h before t' front (List.append_inj_left' hsplit rfl)

/-- What precedes is spaced as well. -/
theorem Spaced.of_append {n : ℕ} {window : Time} {times rest : List Time} (h : Spaced n window (times ++ rest)) :
    Spaced n window times := by
  intro before t after hsplit
  apply h before t (after ++ rest)
  rw [hsplit, List.append_assoc, List.cons_append]

variable [IsOrderedAddMonoid Time]

/-- What is live at a later time is live among what was live before. -/
theorem live_live {window now later : Time} (h : now ≤ later) (times : List Time) :
    live window later (live window now times) = live window later times := by
  rw [live, live, live, List.filter_filter]
  apply List.filter_congr
  intro t _
  rw [Bool.and_eq_left_iff_imp, decide_eq_true_eq, decide_eq_true_eq]
  exact fun hlive => lt_of_le_of_lt (sub_le_sub_right h window) hlive

/-- Readings that agree while they are live agree later. -/
theorem live_mono {window now later : Time} (h : now ≤ later) {times times' : List Time}
    (hsame : live window now times = live window now times') :
    live window later times = live window later times' := by
  rw [← live_live h times, hsame, live_live h times']

/-- A new reading is live. -/
theorem live_append {window now : Time} (hwindow : 0 < window) (times : List Time) :
    live window now (times ++ [now]) = live window now times ++ [now] := by
  have hnew : now - window < now := sub_lt_self now hwindow
  simp only [live, List.filter_append, List.filter_cons, List.filter_nil, hnew, decide_true, if_true]

/-- No window holds more than `n` spaced readings. -/
theorem Spaced.bound {n : ℕ} {window : Time} {times : List Time} (h : Spaced n window times)
    (horder : times.Pairwise (· ≤ ·)) (start : Time) :
    (times.filter fun t => start ≤ t ∧ t < start + window).length ≤ n := by
  induction times using List.reverseRecOn with
  | nil => exact Nat.zero_le n
  | append_singleton times t ih =>
    rw [List.filter_append, List.length_append]
    by_cases hin : start ≤ t ∧ t < start + window
    · have hfew := h times t [] rfl
      have hsub : (times.filter fun t => start ≤ t ∧ t < start + window).length ≤
          (live window t times).length := by
        apply List.Sublist.length_le
        apply List.monotone_filter_right
        intro earlier hearlier
        have hstart : start ≤ earlier := (of_decide_eq_true hearlier).1
        have hless : t - window < start := sub_lt_iff_lt_add.mpr hin.2
        exact decide_eq_true (lt_of_lt_of_le hless hstart)
      have hone : ([t].filter fun t => start ≤ t ∧ t < start + window).length = 1 := by
        simp [hin]
      omega
    · have hbound := ih h.of_append (List.pairwise_append.mp horder).1
      have hnone : ([t].filter fun t => start ≤ t ∧ t < start + window).length = 0 := by
        simpa using hin
      omega

end Window

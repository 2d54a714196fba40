import SharedIntegration.Library.Ordering
import Mathlib.Data.List.Infix

/-!
# Numbered append-only logs and their readers

The entries of a log are numbered from one without gaps, and are only ever appended. A reader
keeps the number of the last entry it has passed on and asks for what lies behind it. What it
passes on is an initial segment of the log behind the place where it began, however the log
grows meanwhile, and a reader that takes over where another one stopped continues that segment.
-/

namespace AppendLog

open Relational

variable {Entry : Type*} {number : Entry → ℕ}

/-- The entries are numbered from one, in order and without gaps. -/
def Numbered (number : Entry → ℕ) (log : List Entry) : Prop :=
  log.map number = List.range' 1 log.length

/-- Appending an entry with the next number. -/
theorem Numbered.concat {log : List Entry} {entry : Entry} (h : Numbered number log)
    (hentry : number entry = log.length + 1) : Numbered number (log ++ [entry]) := by
  unfold Numbered at h ⊢
  rw [List.map_append, h, List.length_append, List.map_singleton, hentry, Nat.add_comm log.length,
    List.length_singleton, ← List.range'_append_1]
  rfl

/-- A segment numbered from any place, cut at a number. -/
theorem filter_lt_of_range' {log : List Entry} (first : ℕ)
    (h : log.map number = List.range' (first + 1) log.length) (cursor : ℕ) :
    (log.filter fun entry => cursor < number entry) = log.drop (cursor - first) := by
  induction log generalizing first with
  | nil => simp
  | cons entry rest ih =>
    rw [List.map_cons, List.length_cons, List.range'_succ, List.cons.injEq] at h
    have hrest := ih (first + 1) h.2
    by_cases hcursor : cursor < number entry
    · have hnone : cursor - first = 0 := by omega
      have hnone' : cursor - (first + 1) = 0 := by omega
      rw [List.filter_cons_of_pos (by simpa using hcursor), hrest, hnone, hnone', List.drop_zero,
        List.drop_zero]
    · have hsome : cursor - first = cursor - (first + 1) + 1 := by omega
      rw [List.filter_cons_of_neg (by simpa using hcursor), hrest, hsome, List.drop_succ_cons]

/-- Reading behind a cursor drops as many entries. -/
theorem Numbered.filter_lt {log : List Entry} (h : Numbered number log) (cursor : ℕ) :
    (log.filter fun entry => cursor < number entry) = log.drop cursor :=
  filter_lt_of_range' 0 h cursor

/-- The largest number is the length of the log. -/
theorem Numbered.maxKey_eq {log : List Entry} (h : Numbered number log) :
    maxKey number log = log.length := by
  have hnumbers : ∀ first count, (List.range' (first + 1) count).foldr max 0 =
      if count = 0 then 0 else first + count := by
    intro first count
    induction count generalizing first with
    | zero => rfl
    | succ count ih =>
      rw [List.range'_succ, List.foldr_cons, ih]
      split <;> split <;> omega
  unfold maxKey
  rw [h, hnumbers 0]
  split <;> omega

/-- The entries have been passed on by a reader that began behind `start`. -/
def Delivered (start : ℕ) (sent log : List Entry) : Prop := sent <+: log.drop start

/-- A new reader has passed on nothing. -/
theorem Delivered.nil (start : ℕ) (log : List Entry) : Delivered start [] log :=
  List.nil_prefix

/-- What has been passed on stays so when the log grows. -/
theorem Delivered.grow {start : ℕ} {sent log log' : List Entry} (h : Delivered start sent log)
    (hlog : log <+: log') : Delivered start sent log' :=
  h.trans (hlog.drop start)

/-- A read behind the last entry that was passed on. -/
theorem Delivered.read {start : ℕ} {sent log batch : List Entry} (h : Delivered start sent log)
    (hbatch : Delivered (start + sent.length) batch log) : Delivered start (sent ++ batch) log := by
  obtain ⟨behind, hbehind⟩ := h
  have hdrop : log.drop (start + sent.length) = behind := by
    rw [← List.drop_drop, ← hbehind, List.drop_left]
  obtain ⟨later, hlater⟩ := hbatch
  refine ⟨later, ?_⟩
  rw [List.append_assoc, hlater, hdrop, hbehind]

/-- The numbers of what has been passed on. -/
theorem Delivered.numbers {start : ℕ} {sent log : List Entry} (h : Delivered start sent log)
    (hlog : Numbered number log) : sent.map number = List.range' (start + 1) sent.length := by
  have hmap := List.IsPrefix.map number h
  have hlength : sent.length ≤ log.length - start := List.length_drop ▸ List.IsPrefix.length_le h
  rw [List.map_drop, hlog, List.prefix_iff_eq_take, List.length_map, List.drop_range', Nat.mul_one,
    List.take_range'_of_length_ge hlength, Nat.add_comm] at hmap
  exact hmap

/-- Every entry up to the last one that was passed on has been passed on. -/
theorem Delivered.mem {start : ℕ} {sent log : List Entry} {entry : Entry} (h : Delivered start sent log)
    (hlog : Numbered number log) (hentry : entry ∈ log) (hstart : start < number entry)
    (hend : number entry ≤ start + sent.length) : entry ∈ sent := by
  obtain ⟨behind, hbehind⟩ := h
  have hmem : entry ∈ sent ++ behind := by
    rw [hbehind, ← hlog.filter_lt]
    exact List.mem_filter.mpr ⟨hentry, by simpa using hstart⟩
  rcases List.mem_append.mp hmem with hsent | hlater
  · exact hsent
  · have hdrop : log.drop (start + sent.length) = behind := by
      rw [← List.drop_drop, ← hbehind, List.drop_left]
    rw [← hdrop, ← hlog.filter_lt, List.mem_filter, decide_eq_true_eq] at hlater
    omega

/-- A read that finds nothing has everything behind it. -/
theorem Numbered.length_le_of_read_nil {log : List Entry} {cursor limit : ℕ} (hlimit : 0 < limit)
    (h : (log.drop cursor).take limit = []) : log.length ≤ cursor := by
  rcases List.take_eq_nil_iff.mp h with hzero | hnil
  · omega
  · exact List.drop_eq_nil_iff.mp hnil

end AppendLog

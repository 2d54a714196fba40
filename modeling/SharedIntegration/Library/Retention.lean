import SharedIntegration.Library.Ordering
import Mathlib.Data.List.DropRight

/-!
# Numbered rows with bounded retention

Rows of several owners share one table and one counter that numbers them. Each owner sees its own rows in
the order of their numbers, of which a pruning keeps the newest. What an owner sees is a bounded queue, or a
bounded map in insertion order, that no other owner changes.
-/

namespace Retention

/-- A row with its number and its owner. -/
structure Numbered (Owner Columns : Type*) where
  seq : ℕ
  owner : Owner
  columns : Columns

/-- Rows in ascending order of their numbers, none of which has reached the counter. -/
structure NumberedTable (Owner Columns : Type*) where
  rows : List (Numbered Owner Columns)
  next : ℕ
  ordered : rows.Pairwise fun a b => a.seq < b.seq
  behind : ∀ row ∈ rows, row.seq < next

variable {Owner Columns Value Key : Type*}

/-- Add an entry to a bounded queue; the oldest one leaves a queue that has become too long. -/
def push (limit : ℕ) (queue : List Value) (value : Value) : List Value :=
  if limit < (queue ++ [value]).length then (queue ++ [value]).tail else queue ++ [value]

/-- Add an entry to a bounded map: an entry of its key is replaced in its place, and a new one is pushed. -/
def put [DecidableEq Key] (key : Value → Key) (limit : ℕ) (entries : List Value) (value : Value) : List Value :=
  if entries.any fun entry => key entry = key value then
    entries.map fun entry => if key entry = key value then value else entry
  else push limit entries value

/-- A short list is all of its newest entries. -/
theorem rtake_of_length_le {limit : ℕ} {queue : List Value} (h : queue.length ≤ limit) :
    queue.rtake limit = queue := by
  rw [List.rtake, Nat.sub_eq_zero_of_le h, List.drop_zero]

/-- A push keeps the newest entries. -/
theorem push_eq_rtake {limit : ℕ} {queue : List Value} (h : queue.length ≤ limit) (value : Value) :
    push limit queue value = (queue ++ [value]).rtake limit := by
  have hlength : (queue ++ [value]).length = queue.length + 1 := by simp
  unfold push
  split
  · have hone : (queue ++ [value]).length - limit = 1 := by omega
    rw [List.rtake, hone, List.drop_one]
  · exact (rtake_of_length_le (by omega)).symm

/-- A bounded queue stays bounded. -/
theorem length_push_le {limit : ℕ} {queue : List Value} (h : queue.length ≤ limit) (value : Value) :
    (push limit queue value).length ≤ limit := by
  have hlength : (queue ++ [value]).length = queue.length + 1 := by simp
  unfold push
  split
  · rw [List.length_tail]
    omega
  · omega

/-- A bounded map stays bounded. -/
theorem length_put_le [DecidableEq Key] {key : Value → Key} {limit : ℕ} {entries : List Value}
    (h : entries.length ≤ limit) (value : Value) : (put key limit entries value).length ≤ limit := by
  unfold put
  split
  · rw [List.length_map]
    exact h
  · exact length_push_le h value

/-- Of a list in ascending order, the entries with the numbers of a final part are that part. -/
theorem filter_mem_drop {l : List Value} {number : Value → ℕ} (h : l.Pairwise fun a b => number a < number b)
    (n : ℕ) : (l.filter fun a => ((l.drop n).map number).contains (number a)) = l.drop n := by
  have hsplit := List.take_append_drop n l
  have hpair : (l.take n ++ l.drop n).Pairwise fun a b => number a < number b := hsplit.symm ▸ h
  obtain ⟨-, -, hacross⟩ := List.pairwise_append.mp hpair
  have hold : ((l.take n).filter fun a => ((l.drop n).map number).contains (number a)) = [] := by
    rw [List.filter_eq_nil_iff]
    intro a ha hcontains
    obtain ⟨b, hb, hsame⟩ := List.mem_map.mp (List.contains_iff_mem.mp hcontains)
    have hlt := hacross a ha b hb
    omega
  have hnew : ((l.drop n).filter fun a => ((l.drop n).map number).contains (number a)) = l.drop n := by
    rw [List.filter_eq_self]
    exact fun a ha => List.contains_iff_mem.mpr (List.mem_map_of_mem ha)
  calc (l.filter fun a => ((l.drop n).map number).contains (number a))
      = (l.take n ++ l.drop n).filter fun a => ((l.drop n).map number).contains (number a) := by rw [hsplit]
    _ = l.drop n := by rw [List.filter_append, hold, hnew, List.nil_append]

namespace NumberedTable

/-- A table without rows. -/
def empty : NumberedTable Owner Columns := ⟨[], 1, List.Pairwise.nil, fun _ hrow => absurd hrow List.not_mem_nil⟩

/-- Insert a row with the next number. -/
def append (table : NumberedTable Owner Columns) (owner : Owner) (columns : Columns) :
    NumberedTable Owner Columns where
  rows := table.rows ++ [⟨table.next, owner, columns⟩]
  next := table.next + 1
  ordered := by
    rw [List.pairwise_append]
    refine ⟨table.ordered, List.pairwise_singleton _ _, fun a ha b hb => ?_⟩
    rw [List.mem_singleton.mp hb]
    exact table.behind a ha
  behind row hrow := by
    rcases List.mem_append.mp hrow with hold | hnew
    · have hlt := table.behind row hold
      omega
    · rw [List.mem_singleton.mp hnew]
      exact Nat.lt_succ_self table.next

/-- Update the columns of the selected rows. -/
def update (table : NumberedTable Owner Columns) (selected : Numbered Owner Columns → Bool) (columns : Columns) :
    NumberedTable Owner Columns where
  rows := table.rows.map fun row => if selected row then { row with columns } else row
  next := table.next
  ordered := by
    rw [List.pairwise_map]
    refine table.ordered.imp fun {a b} hlt => ?_
    split <;> split <;> exact hlt
  behind row hrow := by
    obtain ⟨old, hold, rfl⟩ := List.mem_map.mp hrow
    have hlt := table.behind old hold
    split <;> exact hlt

variable [DecidableEq Owner]

/-- The rows of an owner in ascending order of their numbers. -/
def ascending (table : NumberedTable Owner Columns) (owner : Owner) : List (Numbered Owner Columns) :=
  Relational.orderBy Numbered.seq (table.rows.filter fun row => row.owner = owner)

/-- What an owner reads, oldest first. -/
def oldestFirst (table : NumberedTable Owner Columns) (owner : Owner) : List Columns :=
  (table.ascending owner).map Numbered.columns

/-- What an owner reads, newest first. -/
def newestFirst (table : NumberedTable Owner Columns) (owner : Owner) : List Columns :=
  (table.ascending owner).reverse.map Numbered.columns

/-- Delete the rows of an owner whose number is not among the newest. -/
def prune (table : NumberedTable Owner Columns) (owner : Owner) (limit : ℕ) : NumberedTable Owner Columns where
  rows := table.rows.filter fun row =>
    !(row.owner = owner && !(((table.ascending owner).reverse.take limit).map Numbered.seq).contains row.seq)
  next := table.next
  ordered := table.ordered.sublist List.filter_sublist
  behind row hrow := table.behind row (List.mem_filter.mp hrow).1

variable (table : NumberedTable Owner Columns) (owner other : Owner) (columns : Columns)

/-- The rows of an owner are stored in the order in which they are read. -/
theorem ascending_eq : table.ascending owner = table.rows.filter fun row => row.owner = owner := by
  have hordered : (table.rows.filter fun row => row.owner = owner).Pairwise fun a b => a.seq ≤ b.seq :=
    (table.ordered.sublist List.filter_sublist).imp Nat.le_of_lt
  exact List.Pairwise.insertionSort_eq hordered

/-- What is read oldest first is read the other way around newest first. -/
theorem newestFirst_eq : table.newestFirst owner = (table.oldestFirst owner).reverse := by
  rw [newestFirst, oldestFirst, List.map_reverse]

/-- An inserted row is read last by its owner, and by no other. -/
theorem oldestFirst_append : (table.append owner columns).oldestFirst other =
    if owner = other then table.oldestFirst other ++ [columns] else table.oldestFirst other := by
  simp only [oldestFirst, ascending_eq, append, List.filter_append]
  split
  · next howner => simp [howner]
  · next howner => simp [howner]

/-- The selected rows of an owner are read with their new columns. -/
theorem oldestFirst_update {selected : Columns → Bool} :
    (table.update (fun row => row.owner = owner && selected row.columns) columns).oldestFirst other =
      if owner = other then
        (table.oldestFirst other).map fun old => if selected old then columns else old
      else table.oldestFirst other := by
  simp only [oldestFirst, ascending_eq, update, List.filter_map, List.map_map]
  have hfilter : (table.rows.filter ((fun row => decide (row.owner = other)) ∘ fun row =>
      if (decide (row.owner = owner) && selected row.columns) = true then { row with columns } else row)) =
      table.rows.filter fun row => row.owner = other := by
    refine List.filter_congr fun row _ => ?_
    simp only [Function.comp_apply]
    split <;> rfl
  rw [hfilter]
  split
  · next howner =>
    subst howner
    refine List.map_congr_left fun row hrow => ?_
    have hmine : row.owner = owner := of_decide_eq_true (List.mem_filter.mp hrow).2
    simp only [Function.comp_apply, hmine, decide_true, Bool.true_and]
    split <;> rfl
  · next howner =>
    refine List.map_congr_left fun row hrow => ?_
    have htheirs : row.owner = other := of_decide_eq_true (List.mem_filter.mp hrow).2
    have hnot : row.owner ≠ owner := fun heq => howner (heq.symm.trans htheirs)
    simp only [Function.comp_apply, hnot, decide_false, Bool.false_and, Bool.false_eq_true, if_false]

/-- A pruning leaves an owner its newest rows, and every other owner all rows. -/
theorem oldestFirst_prune (limit : ℕ) : (table.prune owner limit).oldestFirst other =
    if owner = other then (table.oldestFirst other).rtake limit else table.oldestFirst other := by
  simp only [oldestFirst, ascending_eq, prune, List.filter_filter]
  split
  · next howner =>
    subst howner
    have hordered : (table.rows.filter fun row => row.owner = owner).Pairwise fun a b => a.seq < b.seq :=
      table.ordered.sublist List.filter_sublist
    generalize hmine : (table.rows.filter fun row => row.owner = owner) = mine at hordered
    have hkept : ∀ row : Numbered Owner Columns, ((mine.reverse.take limit).map Numbered.seq).contains row.seq =
        ((mine.drop (mine.length - limit)).map Numbered.seq).contains row.seq := by
      intro row
      have hnewest : mine.drop (mine.length - limit) = (mine.reverse.take limit).reverse :=
        List.rtake_eq_reverse_take_reverse mine limit
      rw [hnewest, Bool.eq_iff_iff, List.contains_iff_mem, List.contains_iff_mem, List.map_reverse,
        List.mem_reverse]
    calc (table.rows.filter fun row => decide (row.owner = owner) && !(decide (row.owner = owner) &&
          !((mine.reverse.take limit).map Numbered.seq).contains row.seq)).map Numbered.columns
        = (mine.filter fun row =>
            ((mine.drop (mine.length - limit)).map Numbered.seq).contains row.seq).map Numbered.columns := by
          rw [← hmine, List.filter_filter, hmine]
          refine congrArg _ (List.filter_congr fun row _ => ?_)
          rw [hkept row]
          cases decide (row.owner = owner) <;> simp
      _ = (mine.drop (mine.length - limit)).map Numbered.columns := by rw [filter_mem_drop hordered]
      _ = (mine.map Numbered.columns).rtake limit := by rw [List.rtake, List.length_map, List.map_drop]
  · next howner =>
    refine congrArg _ (List.filter_congr fun row _ => ?_)
    by_cases htheirs : row.owner = other
    · have hnot : other ≠ owner := fun heq => howner heq.symm
      simp [htheirs, hnot]
    · simp [htheirs]

end NumberedTable

end Retention

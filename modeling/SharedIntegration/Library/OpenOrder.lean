import Mathlib.Data.List.Perm.Basic
import Mathlib.Data.List.Sort

/-!
# Selections whose order is open

A `SELECT` promises an order of its rows only as far as its `ORDER BY` does: rows with equal keys, and all rows
of a selection without one, may come in any order. A list of rows is read in one way only if every admissible
order reads the same.
-/

namespace Relational

variable {Row Value Key : Type*} [LinearOrder Key]

/-- An order in which a `SELECT ... ORDER BY` may return the stored rows. -/
structure OrderedBy (key : Row → Key) (stored rows : List Row) : Prop where
  perm : rows.Perm stored
  sorted : rows.Pairwise fun a b => key a ≤ key b

/-- There is always such an order. -/
theorem exists_orderedBy (key : Row → Key) (stored : List Row) : ∃ rows, OrderedBy key stored rows := by
  have htotal : Std.Total fun a b : Row => key a ≤ key b := ⟨fun a b => le_total (key a) (key b)⟩
  have htrans : IsTrans Row fun a b => key a ≤ key b := ⟨fun _ _ _ => le_trans⟩
  exact ⟨stored.insertionSort fun a b => key a ≤ key b, List.perm_insertionSort _ _,
    List.pairwise_insertionSort _ _⟩

/-- An entry that may as well come last is all that follows it. -/
theorem cons_eq_concat_iff (value : Value) (values : List Value) :
    value :: values = values ++ [value] ↔ ∀ other ∈ values, other = value := by
  induction values with
  | nil => simp
  | cons first rest ih =>
    rw [List.cons_append, List.cons.injEq, List.forall_mem_cons]
    constructor
    · rintro ⟨rfl, hrest⟩
      exact ⟨rfl, ih.mp hrest⟩
    · rintro ⟨rfl, hrest⟩
      exact ⟨rfl, ih.mpr hrest⟩

/-- A list of different entries that is the same in both directions is short. -/
theorem length_le_one_of_eq_reverse {values : List Value} (hnodup : values.Nodup) (h : values = values.reverse) :
    values.length ≤ 1 := by
  cases values with
  | nil => exact Nat.zero_le 1
  | cons first rest =>
    rw [List.reverse_cons] at h
    cases hrest : rest.reverse with
    | nil =>
      rw [List.reverse_eq_nil_iff.mp hrest]
      exact Nat.le_refl 1
    | cons last others =>
      rw [hrest, List.cons_append, List.cons.injEq] at h
      have hmem : first ∈ rest := List.mem_reverse.mp (hrest ▸ h.1 ▸ List.mem_cons_self)
      exact absurd hmem (List.nodup_cons.mp hnodup).1

/-- A row goes between the rows of an order that are before it and those that are not. -/
theorem OrderedBy.insert {key : Row → Key} {stored rows : List Row} (h : OrderedBy key stored rows) (row : Row) :
    OrderedBy key stored ((rows.filter (key · < key row)) ++ rows.filter (key row ≤ key ·)) ∧
      OrderedBy key (stored ++ [row])
        (rows.filter (key · < key row) ++ row :: rows.filter (key row ≤ key ·)) := by
  have hnot : (fun other => decide (key row ≤ key other)) = fun other => !decide (key other < key row) := by
    funext other
    rw [← decide_not]
    exact decide_eq_decide.mpr not_lt.symm
  have hperm : ((rows.filter (key · < key row)) ++ rows.filter (key row ≤ key ·)).Perm rows := by
    rw [hnot]
    exact List.filter_append_perm _ _
  have hbefore : ∀ other ∈ rows.filter (key · < key row), key other < key row :=
    fun other hother => of_decide_eq_true (List.mem_filter.mp hother).2
  have hafter : ∀ other ∈ rows.filter (key row ≤ key ·), key row ≤ key other :=
    fun other hother => of_decide_eq_true (List.mem_filter.mp hother).2
  have hfirst := h.sorted.sublist (List.filter_sublist (p := fun other => decide (key other < key row)))
  have hlast := h.sorted.sublist (List.filter_sublist (p := fun other => decide (key row ≤ key other)))
  constructor
  · refine ⟨hperm.trans h.perm, List.pairwise_append.mpr ⟨hfirst, hlast, fun a ha b hb => ?_⟩⟩
    exact (hbefore a ha).le.trans (hafter b hb)
  · constructor
    · have hstored : (stored ++ [row]).Perm (row :: stored) := List.perm_append_singleton row stored
      exact (List.perm_middle.trans ((hperm.trans h.perm).cons row)).trans hstored.symm
    · rw [List.pairwise_append, List.pairwise_cons]
      refine ⟨hfirst, ⟨hafter, hlast⟩, fun a ha b hb => ?_⟩
      rcases List.mem_cons.mp hb with rfl | hb
      · exact (hbefore a ha).le
      · exact (hbefore a ha).le.trans (hafter b hb)

/-- Without a row, an order of rows is an order of the others. -/
theorem OrderedBy.remove {key : Row → Key} {stored before after : List Row} {row : Row}
    (h : OrderedBy key (stored ++ [row]) (before ++ row :: after)) : OrderedBy key stored (before ++ after) := by
  have hperm : (row :: (before ++ after)).Perm (row :: stored) :=
    (List.perm_middle.symm.trans h.perm).trans (List.perm_append_singleton row stored)
  exact ⟨hperm.cons_inv, h.sorted.sublist ((List.sublist_cons_self row after).append_left before)⟩

/-- A stored row is read last in every order exactly if every other row has a smaller key or reads the same. -/
theorem read_append_iff {key : Row → Key} {read : Row → Value} {stored : List Row} {row : Row} {values : List Value}
    (hstored : ∀ rows, OrderedBy key stored rows → rows.map read = values) :
    (∀ rows, OrderedBy key (stored ++ [row]) rows → rows.map read = values ++ [read row]) ↔
      ∀ other ∈ stored, key other < key row ∨ read other = read row := by
  have hlater : ∀ before after : List Row, (before ++ after).map read = values →
      ((before ++ row :: after).map read = values ++ [read row] ↔ ∀ other ∈ after, read other = read row) := by
    intro before after hvalues
    rw [← hvalues, List.map_append, List.map_append, List.map_cons, List.append_assoc, List.append_cancel_left_eq,
      cons_eq_concat_iff, List.forall_mem_map]
  constructor
  · intro h other hother
    obtain ⟨rows, hrows⟩ := exists_orderedBy key stored
    obtain ⟨hwithout, hwith⟩ := hrows.insert row
    rcases lt_or_ge (key other) (key row) with hlt | hle
    · exact .inl hlt
    · refine .inr ((hlater _ _ (hstored _ hwithout)).mp (h _ hwith) other ?_)
      exact List.mem_filter.mpr ⟨hrows.perm.mem_iff.mpr hother, decide_eq_true hle⟩
  · intro h rows hrows
    obtain ⟨before, after, rfl⟩ := List.append_of_mem (hrows.perm.mem_iff.mpr (List.mem_append_right _ (List.mem_singleton_self row)))
    have hothers := hrows.remove
    refine (hlater before after (hstored _ hothers)).mpr fun other hother => ?_
    have hle : key row ≤ key other := by
      have hsorted := (List.pairwise_append.mp hrows.sorted).2.1
      exact (List.pairwise_cons.mp hsorted).1 other hother
    exact (h other (hothers.perm.mem_iff.mp (List.mem_append_right _ hother))).resolve_left hle.not_gt

end Relational

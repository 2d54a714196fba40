import Mathlib.Data.List.Basic
import Mathlib.Data.List.Pairwise
import Mathlib.Data.List.Sort

/-!
# Tables with unique constraints

A table is a list of rows in insertion order together with the promise that no two rows
violate a unique constraint. The constraints are one symmetric `conflict` relation, so a
table with several keys is covered. An insert that would conflict is refused; an update
may only change columns that no constraint reads.
-/

namespace Relational

variable {Row : Type*}

/-- A table whose unique constraints hold between all of its rows. -/
structure Table (Row : Type*) (conflict : Row → Row → Prop) where
  rows : List Row
  consistent : rows.Pairwise fun a b => ¬ conflict a b

/-- An update that no unique constraint can observe. -/
structure KeepsKeys (conflict : Row → Row → Prop) (change : Row → Row) : Prop where
  left : ∀ a b, conflict (change a) b → conflict a b
  right : ∀ a b, conflict a (change b) → conflict a b

namespace Table

variable {conflict : Row → Row → Prop}

/-- The table without rows. -/
def empty : Table Row conflict := ⟨[], List.Pairwise.nil⟩

/-- Append a row that is known to be free of conflicts. -/
def push (table : Table Row conflict) (row : Row) (hfree : ∀ old ∈ table.rows, ¬ conflict old row) :
    Table Row conflict where
  rows := table.rows ++ [row]
  consistent := by
    rw [List.pairwise_append]
    refine ⟨table.consistent, List.pairwise_singleton _ _, ?_⟩
    intro old hold new hnew
    rw [List.mem_singleton.mp hnew]
    exact hfree old hold

/-- `INSERT`: refused when a unique constraint would be violated. -/
def insert [DecidableRel conflict] (table : Table Row conflict) (row : Row) :
    Option (Table Row conflict) :=
  if hfree : ∀ old ∈ table.rows, ¬ conflict old row then some (table.push row hfree) else none

/-- `UPDATE ... WHERE`: change the selected rows in place. -/
def update (table : Table Row conflict) (selected : Row → Bool) (change : Row → Row)
    (hkeys : KeepsKeys conflict change) : Table Row conflict where
  rows := table.rows.map fun row => if selected row then change row else row
  consistent := by
    rw [List.pairwise_map]
    refine table.consistent.imp ?_
    intro a b hab hchanged
    apply hab
    split at hchanged <;> split at hchanged
    · exact hkeys.left _ _ (hkeys.right _ _ hchanged)
    · exact hkeys.left _ _ hchanged
    · exact hkeys.right _ _ hchanged
    · exact hchanged

/-- `DELETE ... WHERE`. -/
def delete (table : Table Row conflict) (selected : Row → Bool) : Table Row conflict where
  rows := table.rows.filter fun row => !selected row
  consistent := table.consistent.filter _

/-- `SELECT ... WHERE`, in insertion order. -/
def select (table : Table Row conflict) (selected : Row → Bool) : List Row :=
  table.rows.filter selected

/-- The first selected row, for lookups by a unique key. -/
def find (table : Table Row conflict) (selected : Row → Bool) : Option Row :=
  table.rows.find? selected

@[simp] theorem rows_empty : (empty : Table Row conflict).rows = [] := rfl

@[simp] theorem find_empty (selected : Row → Bool) :
    (empty : Table Row conflict).find selected = none := rfl

@[simp] theorem select_empty (selected : Row → Bool) :
    (empty : Table Row conflict).select selected = [] := rfl

@[simp] theorem rows_push (table : Table Row conflict) (row : Row)
    (hfree : ∀ old ∈ table.rows, ¬ conflict old row) :
    (table.push row hfree).rows = table.rows ++ [row] := rfl

@[simp] theorem rows_update (table : Table Row conflict) (selected : Row → Bool) (change : Row → Row)
    (hkeys : KeepsKeys conflict change) :
    (table.update selected change hkeys).rows =
      table.rows.map fun row => if selected row then change row else row := rfl

@[simp] theorem rows_delete (table : Table Row conflict) (selected : Row → Bool) :
    (table.delete selected).rows = table.rows.filter fun row => !selected row := rfl

/-- A successful insert appends the row, which conflicts with none before it. -/
theorem insert_eq_some [DecidableRel conflict] {table table' : Table Row conflict} {row : Row}
    (h : table.insert row = some table') :
    table'.rows = table.rows ++ [row] ∧ ∀ old ∈ table.rows, ¬ conflict old row := by
  unfold insert at h
  split at h
  · next hfree =>
    cases h
    exact ⟨rfl, hfree⟩
  · cases h

/-- An insert is refused exactly when some row conflicts with the new one. -/
theorem insert_eq_none_iff [DecidableRel conflict] (table : Table Row conflict) (row : Row) :
    table.insert row = none ↔ ∃ old ∈ table.rows, conflict old row := by
  unfold insert
  split
  · next hfree => simpa using hfree
  · next hfree => simpa using hfree

/-- Appending a row changes a lookup only when nothing was found before. -/
theorem find_push (table : Table Row conflict) (row : Row)
    (hfree : ∀ old ∈ table.rows, ¬ conflict old row) (selected : Row → Bool) :
    (table.push row hfree).find selected =
      (table.find selected).or (if selected row then some row else none) := by
  simp [find, List.find?_append, List.find?_cons]
  split <;> simp_all

/-- A lookup after an insert. -/
theorem find_insert [DecidableRel conflict] {table table' : Table Row conflict} {row : Row}
    (h : table.insert row = some table') (selected : Row → Bool) :
    table'.find selected = (table.find selected).or (if selected row then some row else none) := by
  unfold insert at h
  split at h
  · next hfree =>
    cases h
    exact find_push table row hfree selected
  · cases h

/-- Appending a row extends a selection exactly when the row is selected. -/
theorem select_push (table : Table Row conflict) (row : Row)
    (hfree : ∀ old ∈ table.rows, ¬ conflict old row) (selected : Row → Bool) :
    (table.push row hfree).select selected =
      table.select selected ++ if selected row then [row] else [] := by
  simp [select, List.filter_append, List.filter_cons]

/-- A lookup whose predicate the update leaves alone finds the same row, updated. -/
theorem find_update (table : Table Row conflict) (selected : Row → Bool) (change : Row → Row)
    (hkeys : KeepsKeys conflict change) (wanted : Row → Bool)
    (hwanted : ∀ row, wanted (change row) = wanted row) :
    (table.update selected change hkeys).find wanted =
      (table.find wanted).map fun row => if selected row then change row else row := by
  have hsame : (wanted ∘ fun row => if selected row then change row else row) = wanted := by
    funext row
    simp only [Function.comp_apply]
    split
    · exact hwanted row
    · rfl
  simp only [find, rows_update, List.find?_map, hsame]

/-- A found row is in the table and satisfies the predicate. -/
theorem find_eq_some {table : Table Row conflict} {wanted : Row → Bool} {row : Row}
    (h : table.find wanted = some row) : row ∈ table.rows ∧ wanted row = true :=
  ⟨List.mem_of_find?_eq_some h, List.find?_some h⟩

/-- Nothing is found exactly when no row satisfies the predicate. -/
theorem find_eq_none_iff (table : Table Row conflict) (wanted : Row → Bool) :
    table.find wanted = none ↔ ∀ row ∈ table.rows, wanted row = false := by
  simp [find, List.find?_eq_none]

/-- Rows that share a unique key are at most one, so a selection by that key is a lookup. -/
theorem select_eq_toList_find (table : Table Row conflict) (wanted : Row → Bool)
    (hkey : ∀ a b, wanted a = true → wanted b = true → conflict a b) :
    table.select wanted = (table.find wanted).toList := by
  obtain ⟨rows, hrows⟩ := table
  simp only [select, find]
  induction rows with
  | nil => rfl
  | cons row rows ih =>
    obtain ⟨hrow, hrest⟩ := List.pairwise_cons.mp hrows
    cases hw : wanted row with
    | false => simpa [List.filter_cons, List.find?_cons, hw] using ih hrest
    | true =>
      have hnone : rows.filter wanted = [] := by
        rw [List.filter_eq_nil_iff]
        intro other hother hwother
        exact hrow other hother (hkey row other hw hwother)
      simp [hw, hnone]

/-- A row is what a lookup by its unique key finds. -/
theorem find_eq_some_of_mem (table : Table Row conflict) (wanted : Row → Bool)
    (hkey : ∀ a b, wanted a = true → wanted b = true → conflict a b) {row : Row}
    (hmem : row ∈ table.rows) (hwanted : wanted row = true) : table.find wanted = some row := by
  have hselected : row ∈ table.select wanted := List.mem_filter.mpr ⟨hmem, hwanted⟩
  rw [select_eq_toList_find table wanted hkey] at hselected
  exact Option.mem_toList.mp hselected

/-- Two rows with the same unique key are one. -/
theorem eq_of_key (table : Table Row conflict) (wanted : Row → Bool)
    (hkey : ∀ a b, wanted a = true → wanted b = true → conflict a b) {a b : Row} (ha : a ∈ table.rows)
    (hb : b ∈ table.rows) (hwa : wanted a = true) (hwb : wanted b = true) : a = b :=
  Option.some.inj ((table.find_eq_some_of_mem wanted hkey ha hwa).symm.trans
    (table.find_eq_some_of_mem wanted hkey hb hwb))

/-- A lookup that at most one row answers does not depend on the order of the rows. -/
theorem find?_eq_of_perm {rows rows' : List Row} {wanted : Row → Bool} (h : rows.Perm rows')
    (hunique : ∀ a ∈ rows, ∀ b ∈ rows, wanted a = true → wanted b = true → a = b) :
    rows.find? wanted = rows'.find? wanted := by
  cases hfound : rows.find? wanted with
  | none =>
    rw [List.find?_eq_none] at hfound
    exact (List.find?_eq_none.mpr fun row hrow => hfound row (h.mem_iff.mpr hrow)).symm
  | some row =>
    have hrow : row ∈ rows := List.mem_of_find?_eq_some hfound
    have hwanted : wanted row = true := List.find?_some hfound
    cases hfound' : rows'.find? wanted with
    | none => exact absurd hwanted (List.find?_eq_none.mp hfound' row (h.mem_iff.mp hrow))
    | some row' =>
      have hrow' : row' ∈ rows := h.mem_iff.mpr (List.mem_of_find?_eq_some hfound')
      rw [hunique row hrow row' hrow' hwanted (List.find?_some hfound')]

end Table

/-! ### Keys that stay -/

/-- Every key of the rows is still a key of the later ones. -/
def KeysKept {Key : Type*} (key : Row → Key) (rows rows' : List Row) : Prop :=
  ∀ row ∈ rows, ∃ row' ∈ rows', key row' = key row

namespace KeysKept

variable {Key : Type*} {key : Row → Key} {rows rows' rows'' : List Row}

/-- Rows that stay keep their keys. -/
theorem of_subset (h : ∀ row ∈ rows, row ∈ rows') : KeysKept key rows rows' :=
  fun row hrow => ⟨row, h row hrow, rfl⟩

/-- Nothing happened. -/
theorem refl (key : Row → Key) (rows : List Row) : KeysKept key rows rows := of_subset fun _ hrow => hrow

/-- One change after another. -/
theorem trans (h : KeysKept key rows rows') (h' : KeysKept key rows' rows'') : KeysKept key rows rows'' := by
  intro row hrow
  obtain ⟨row', hrow', hkey⟩ := h row hrow
  obtain ⟨row'', hrow'', hkey'⟩ := h' row' hrow'
  exact ⟨row'', hrow'', hkey'.trans hkey⟩

/-- An insert keeps all keys. -/
theorem of_insert {conflict : Row → Row → Prop} [DecidableRel conflict] {table table' : Table Row conflict}
    {row : Row} (h : table.insert row = some table') : KeysKept key table.rows table'.rows := by
  rw [(Table.insert_eq_some h).1]
  exact of_subset fun _ hrow => List.mem_append_left _ hrow

/-- An update of columns that are not in the key keeps all keys. -/
theorem of_update {conflict : Row → Row → Prop} (table : Table Row conflict) (selected : Row → Bool)
    {change : Row → Row} (hchange : KeepsKeys conflict change) (hkey : ∀ row, key (change row) = key row) :
    KeysKept key table.rows (table.update selected change hchange).rows := by
  intro row hrow
  refine ⟨_, List.mem_map_of_mem hrow, ?_⟩
  split
  · exact hkey row
  · rfl

end KeysKept

end Relational

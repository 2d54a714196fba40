import SharedIntegration.Library.Table
import SharedIntegration.Library.Ordering

/-!
# Tables that agree on a part

Two tables agree on the rows that a predicate keeps, up to a renaming of these rows. A statement
whose condition keeps to that part does the same in both; a statement whose condition keeps out of
it leaves the agreement alone, so it may be performed in one of the tables only.
-/

namespace Relational

variable {Row : Type*} {conflict : Row → Row → Prop}

namespace Table

/-- The kept rows of the second table are those of the first, renamed. -/
def Mirrors (kept : Row → Bool) (rename : Row → Row) (table table' : Table Row conflict) : Prop :=
  (table.select kept).map rename = table'.select kept

variable {kept : Row → Bool} {rename : Row → Row} {table table' : Table Row conflict}

/-- A selection inside the kept rows selects among them. -/
theorem select_select {wanted : Row → Bool} (hkept : ∀ row, wanted row = true → kept row = true) :
    (table.select kept).filter wanted = table.select wanted := by
  rw [select, select, List.filter_filter]
  apply List.filter_congr
  intro row _
  cases hwanted : wanted row with
  | true => rw [hkept row hwanted, Bool.and_true]
  | false => rw [Bool.false_and]

/-- A lookup is the first row of a selection. -/
theorem find_eq_head? (table : Table Row conflict) (wanted : Row → Bool) :
    table.find wanted = (table.select wanted).head? := by
  rw [find, select, List.head?_filter]

/-- Selections inside the kept rows mirror each other. -/
theorem Mirrors.select (h : Mirrors kept rename table table') {wanted wanted' : Row → Bool}
    (hkept : ∀ row, wanted row = true → kept row = true) (hkept' : ∀ row, wanted' row = true → kept row = true)
    (hrename : ∀ row ∈ table.rows, kept row = true → wanted' (rename row) = wanted row) :
    (table.select wanted).map rename = table'.select wanted' := by
  rw [← select_select hkept', ← h, List.filter_map, ← select_select hkept]
  congr 1
  apply List.filter_congr
  intro row hrow
  obtain ⟨hmem, hrow⟩ := List.mem_filter.mp hrow
  exact (hrename row hmem hrow).symm

/-- Lookups inside the kept rows mirror each other. -/
theorem Mirrors.find (h : Mirrors kept rename table table') {wanted wanted' : Row → Bool}
    (hkept : ∀ row, wanted row = true → kept row = true) (hkept' : ∀ row, wanted' row = true → kept row = true)
    (hrename : ∀ row ∈ table.rows, kept row = true → wanted' (rename row) = wanted row) :
    (table.find wanted).map rename = table'.find wanted' := by
  rw [find_eq_head?, find_eq_head?, ← h.select hkept hkept' hrename, List.head?_map]

/-- An update of kept columns changes the kept rows and keeps them. -/
theorem select_update {selected : Row → Bool} {change : Row → Row} (hkeys : KeepsKeys conflict change)
    (hkept : ∀ row, selected row = true → kept (change row) = kept row) :
    (table.update selected change hkeys).select kept =
      (table.select kept).map fun row => if selected row then change row else row := by
  rw [Table.select, rows_update, List.filter_map, Table.select]
  congr 1
  apply List.filter_congr
  intro row _
  simp only [Function.comp_apply]
  split
  · next hselected => exact hkept row hselected
  · rfl

/-- Updates that say the same of the kept rows keep the agreement. -/
theorem Mirrors.update (h : Mirrors kept rename table table') {selected selected' : Row → Bool}
    {change change' : Row → Row} (hkeys : KeepsKeys conflict change) (hkeys' : KeepsKeys conflict change')
    (hkept : ∀ row, selected row = true → kept (change row) = kept row)
    (hkept' : ∀ row, selected' row = true → kept (change' row) = kept row)
    (hselected : ∀ row, selected' (rename row) = selected row)
    (hchange : ∀ row, change' (rename row) = rename (change row)) :
    Mirrors kept rename (table.update selected change hkeys) (table'.update selected' change' hkeys') := by
  rw [Mirrors, select_update hkeys hkept, select_update hkeys' hkept', ← h, List.map_map, List.map_map]
  apply List.map_congr_left
  intro row _
  simp only [Function.comp_apply, hselected]
  split
  · exact (hchange row).symm
  · rfl

/-- An update outside the kept rows keeps the agreement. -/
theorem Mirrors.update_outside (h : Mirrors kept rename table table') {selected : Row → Bool}
    {change : Row → Row} (hkeys : KeepsKeys conflict change)
    (houtside : ∀ row, selected row = true → kept row = false)
    (hkept : ∀ row, selected row = true → kept (change row) = kept row) :
    Mirrors kept rename (table.update selected change hkeys) table' := by
  have hsame : (table.update selected change hkeys).select kept = table.select kept := by
    rw [select_update hkeys hkept]
    apply (List.map_congr_left _).trans (List.map_id _)
    intro row hrow
    have hrow := (List.mem_filter.mp hrow).2
    rw [id_eq, if_neg]
    intro hselected
    rw [houtside row hselected] at hrow
    exact Bool.false_ne_true hrow
  rw [Mirrors, hsame]
  exact h

/-- Appending a kept row to both tables keeps the agreement. -/
theorem Mirrors.append (h : Mirrors kept rename table table') {appended appended' : Table Row conflict}
    {row row' : Row} (hrow : kept row = true) (hrow' : kept row' = true) (hrename : rename row = row')
    (happended : appended.rows = table.rows ++ [row]) (happended' : appended'.rows = table'.rows ++ [row']) :
    Mirrors kept rename appended appended' := by
  have hselect : (table.rows.filter kept).map rename = table'.rows.filter kept := h
  simp only [Mirrors, Table.select, happended, happended', List.filter_append, List.filter_cons, hrow, hrow',
    if_true, List.filter_nil, List.map_append, List.map_cons, List.map_nil, hselect, hrename]

/-- Appending a row that is not kept keeps the agreement. -/
theorem Mirrors.append_outside (h : Mirrors kept rename table table') {appended : Table Row conflict}
    {row : Row} (hrow : kept row = false) (happended : appended.rows = table.rows ++ [row]) :
    Mirrors kept rename appended table' := by
  have hselect : (table.rows.filter kept).map rename = table'.rows.filter kept := h
  simp [Mirrors, Table.select, happended, List.filter_append, hrow, hselect]

/-- Whether a kept row can be inserted is decided among the kept rows, if no other row is in its way. -/
theorem Mirrors.free_iff (h : Mirrors kept rename table table') {row row' : Row}
    (hfree : ∀ old ∈ table.rows, kept old = false → ¬ conflict old row)
    (hfree' : ∀ old ∈ table'.rows, kept old = false → ¬ conflict old row')
    (hconflict : ∀ old ∈ table.rows, kept old = true → (conflict (rename old) row' ↔ conflict old row)) :
    (∀ old ∈ table.rows, ¬ conflict old row) ↔ ∀ old ∈ table'.rows, ¬ conflict old row' := by
  have hmem : ∀ old', old' ∈ table'.rows ∧ kept old' = true ↔
      ∃ old ∈ table.rows, kept old = true ∧ rename old = old' := by
    intro old'
    have hiff : old' ∈ table'.select kept ↔ old' ∈ (table.select kept).map rename := by rw [h]
    simpa [Table.select, and_assoc] using hiff
  constructor
  · intro hnone old' hold'
    cases hkept : kept old' with
    | false => exact hfree' old' hold' hkept
    | true =>
      obtain ⟨old, hold, hwas, rfl⟩ := (hmem old').mp ⟨hold', hkept⟩
      rw [hconflict old hold hwas]
      exact hnone old hold
  · intro hnone old hold
    cases hkept : kept old with
    | false => exact hfree old hold hkept
    | true =>
      rw [← hconflict old hold hkept]
      exact hnone (rename old) ((hmem (rename old)).mpr ⟨old, hold, hkept, rfl⟩).1

/-- An insert of a kept row is refused in both tables or keeps the agreement. -/
theorem Mirrors.insert [DecidableRel conflict] (h : Mirrors kept rename table table') {row row' : Row}
    (hrow : kept row = true) (hrow' : kept row' = true) (hrename : rename row = row')
    (hfree : ∀ old ∈ table.rows, kept old = false → ¬ conflict old row)
    (hfree' : ∀ old ∈ table'.rows, kept old = false → ¬ conflict old row')
    (hconflict : ∀ old ∈ table.rows, kept old = true → (conflict (rename old) row' ↔ conflict old row)) :
    (table.insert row = none ∧ table'.insert row' = none) ∨
      ∃ inserted inserted', table.insert row = some inserted ∧ table'.insert row' = some inserted' ∧
        Mirrors kept rename inserted inserted' := by
  have hiff := h.free_iff hfree hfree' hconflict
  by_cases hnone : ∀ old ∈ table.rows, ¬ conflict old row
  · exact Or.inr ⟨_, _, dif_pos hnone, dif_pos (hiff.mp hnone), h.append hrow hrow' hrename rfl rfl⟩
  · exact Or.inl ⟨dif_neg hnone, dif_neg fun hnone' => hnone (hiff.mpr hnone')⟩

/-- Rows that are the same in both tables are selected alike. -/
theorem Mirrors.select_same (h : Mirrors kept id table table') {wanted : Row → Bool}
    (hkept : ∀ row, wanted row = true → kept row = true) : table.select wanted = table'.select wanted := by
  have hselect := h.select hkept hkept fun _ _ _ => rfl
  rwa [List.map_id] at hselect

/-- Rows that are the same in both tables are found alike. -/
theorem Mirrors.find_same (h : Mirrors kept id table table') {wanted : Row → Bool}
    (hkept : ∀ row, wanted row = true → kept row = true) : table.find wanted = table'.find wanted := by
  have hfind := h.find hkept hkept fun _ _ _ => rfl
  rwa [Option.map_id, id] at hfind

/-- A kept row is refused in both tables or added to both. -/
theorem Mirrors.insert_same [DecidableRel conflict] (h : Mirrors kept id table table') {row : Row}
    (hrow : kept row = true) (hfree : ∀ old ∈ table.rows, kept old = false → ¬ conflict old row)
    (hfree' : ∀ old ∈ table'.rows, kept old = false → ¬ conflict old row) :
    (table.insert row = none ∧ table'.insert row = none) ∨
      ∃ inserted inserted', table.insert row = some inserted ∧ table'.insert row = some inserted' ∧
        Mirrors kept id inserted inserted' :=
  h.insert hrow hrow rfl hfree hfree' fun _ _ _ => Iff.rfl

/-- An insert of a row that is not kept keeps the agreement. -/
theorem Mirrors.insert_outside [DecidableRel conflict] (h : Mirrors kept rename table table') {row : Row}
    (hrow : kept row = false) {inserted : Table Row conflict} (hinsert : table.insert row = some inserted) :
    Mirrors kept rename inserted table' :=
  h.append_outside hrow (insert_eq_some hinsert).1

end Table

/-- Renaming rows in a way that keeps the order of their keys keeps their order. -/
theorem map_orderBy {key : Row → ℕ} {rename : Row → Row} {rows : List Row}
    (h : ∀ a ∈ rows, ∀ b ∈ rows, key a ≤ key b ↔ key (rename a) ≤ key (rename b)) :
    (orderBy key rows).map rename = orderBy key (rows.map rename) :=
  List.map_insertionSort _ _ rename rows h

end Relational

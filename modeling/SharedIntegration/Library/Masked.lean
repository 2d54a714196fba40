import SharedIntegration.Library.Table

/-!
# Tables that are the same behind a mask

A mask hides columns of some rows. Tables with the same rows behind the mask are read, extended and
updated alike by statements that look at visible columns only.
-/

namespace Relational

variable {Row : Type*} {conflict : Row → Row → Prop}

namespace Table

/-- The same rows in the same order, up to what the mask hides. -/
def SameBehind (mask : Row → Row) (table table' : Table Row conflict) : Prop :=
  table.rows.map mask = table'.rows.map mask

variable {mask : Row → Row} {table table' : Table Row conflict}

/-- A lookup behind the mask. -/
theorem map_find {wanted : Row → Bool} (hwanted : ∀ row, wanted (mask row) = wanted row) :
    (table.find wanted).map mask = (table.rows.map mask).find? wanted := by
  have hsame : wanted ∘ mask = wanted := funext hwanted
  rw [List.find?_map, hsame]
  rfl

/-- Lookups by visible columns find the same. -/
theorem SameBehind.find (h : SameBehind mask table table') {wanted : Row → Bool}
    (hwanted : ∀ row, wanted (mask row) = wanted row) :
    (table.find wanted).map mask = (table'.find wanted).map mask := by
  rw [map_find hwanted, map_find hwanted, h]

/-- Lookups by visible columns find a row in both tables or in neither. -/
theorem SameBehind.find_cases (h : SameBehind mask table table') {wanted : Row → Bool}
    (hwanted : ∀ row, wanted (mask row) = wanted row) :
    (table.find wanted = none ∧ table'.find wanted = none) ∨
      ∃ row row', table.find wanted = some row ∧ table'.find wanted = some row' := by
  have hfind := h.find hwanted
  cases hrow : table.find wanted with
  | none =>
    rw [hrow, Option.map_none, eq_comm, Option.map_eq_none_iff] at hfind
    exact .inl ⟨rfl, hfind⟩
  | some row =>
    rw [hrow, Option.map_some, eq_comm, Option.map_eq_some_iff] at hfind
    obtain ⟨row', hrow', -⟩ := hfind
    exact .inr ⟨row, row', rfl, hrow'⟩

/-- Rows of which the mask hides nothing are selected alike. -/
theorem SameBehind.select (h : SameBehind mask table table') {kept : Row → Bool}
    (hkept : ∀ row, kept (mask row) = kept row) (hmask : ∀ row, kept row = true → mask row = row) :
    table.select kept = table'.select kept := by
  have hselect : ∀ table : Table Row conflict, (table.rows.map mask).filter kept = table.select kept := by
    intro table
    have hsame : kept ∘ mask = kept := funext hkept
    rw [List.filter_map, hsame, Table.select]
    apply (List.map_congr_left _).trans (List.map_id _)
    intro row hrow
    exact hmask row (List.mem_filter.mp hrow).2
  rw [← hselect, ← hselect, h]

/-- A row that conflicts by visible columns is refused in both tables or added to both. -/
theorem SameBehind.insert [DecidableRel conflict] (h : SameBehind mask table table') {row : Row}
    (hconflict : ∀ old, conflict (mask old) row ↔ conflict old row) :
    (table.insert row = none ∧ table'.insert row = none) ∨
      ∃ inserted inserted', table.insert row = some inserted ∧ table'.insert row = some inserted' ∧
        SameBehind mask inserted inserted' := by
  have hfree : ∀ table : Table Row conflict, (∀ old ∈ table.rows, ¬ conflict old row) ↔
      ∀ old ∈ table.rows.map mask, ¬ conflict old row := by
    intro table
    rw [List.forall_mem_map]
    exact forall₂_congr fun old _ => not_congr (hconflict old).symm
  have hiff := hfree table
  rw [h, ← hfree table'] at hiff
  by_cases hnone : ∀ old ∈ table.rows, ¬ conflict old row
  · refine .inr ⟨_, _, dif_pos hnone, dif_pos (hiff.mp hnone), ?_⟩
    rw [SameBehind, rows_push, rows_push, List.map_append, List.map_append, h]
  · exact .inl ⟨dif_neg hnone, dif_neg fun hnone' => hnone (hiff.mpr hnone')⟩

/-- Updates of rows that visible columns select say the same behind the mask. -/
theorem SameBehind.update (h : SameBehind mask table table') {selected : Row → Bool} {change : Row → Row}
    (hkeys : KeepsKeys conflict change) (hselected : ∀ row, selected (mask row) = selected row)
    (hchange : ∀ row, mask (change (mask row)) = mask (change row)) (hmask : ∀ row, mask (mask row) = mask row) :
    SameBehind mask (table.update selected change hkeys) (table'.update selected change hkeys) := by
  have hupdate : ∀ table : Table Row conflict, (table.update selected change hkeys).rows.map mask =
      (table.rows.map mask).map fun row => mask (if selected row then change row else row) := by
    intro table
    rw [rows_update, List.map_map, List.map_map]
    apply List.map_congr_left
    intro row _
    simp only [Function.comp_apply, hselected]
    split
    · exact (hchange row).symm
    · exact (hmask row).symm
  rw [SameBehind, hupdate, hupdate, h]

/-- An update of hidden columns says nothing. -/
theorem SameBehind.update_hidden (h : SameBehind mask table table') {selected : Row → Bool} {change : Row → Row}
    (hkeys : KeepsKeys conflict change) (hhidden : ∀ row, selected row = true → mask (change row) = mask row) :
    SameBehind mask (table.update selected change hkeys) table' := by
  rw [SameBehind, rows_update, List.map_map, ← h]
  apply List.map_congr_left
  intro row _
  rw [Function.comp_apply]
  split
  · next hselected => exact hhidden row hselected
  · rfl

end Table

end Relational

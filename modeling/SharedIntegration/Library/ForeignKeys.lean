import SharedIntegration.Library.Table

/-!
# Foreign keys

The rows of one table refer to rows of another by a key, or to none where the column is empty. What keeps the
references: inserts that refer to what is there, updates of the rows that refer, and every change of the other
table that keeps its keys.
-/

namespace Relational

variable {Row Row' Key : Type*} {conflict : Row → Row → Prop}

/-- Each of the rows refers to nothing or to one of the parents. -/
def Refers (names : Row → Option Key) (key : Row' → Key) (rows : List Row) (parents : List Row') : Prop :=
  ∀ row ∈ rows, ∀ k ∈ names row, ∃ parent ∈ parents, key parent = k

namespace Refers

variable {names : Row → Option Key} {key : Row' → Key} {rows rows' : List Row} {parents parents' : List Row'}

/-- No rows refer to nothing. -/
theorem nil : Refers names key [] parents := fun _ hrow => (List.not_mem_nil hrow).elim

/-- One row more. -/
theorem concat (h : Refers names key rows parents) {row : Row}
    (hrow : ∀ k ∈ names row, ∃ parent ∈ parents, key parent = k) :
    Refers names key (rows ++ [row]) parents := by
  intro other hother
  rcases List.mem_append.mp hother with hold | hnew
  · exact h other hold
  · rw [List.mem_singleton.mp hnew]
    exact hrow

/-- Parents that keep their keys are still referred to. -/
theorem kept (h : Refers names key rows parents) (hkept : KeysKept key parents parents') :
    Refers names key rows parents' := by
  intro row hrow k hk
  obtain ⟨parent, hparent, hkey⟩ := h row hrow k hk
  obtain ⟨parent', hparent', hkey'⟩ := hkept parent hparent
  exact ⟨parent', hparent', hkey'.trans hkey⟩

variable {table table' : Table Row conflict}

/-- An insert of a row that refers to a parent. -/
theorem insert [DecidableRel conflict] (h : Refers names key table.rows parents) {row : Row}
    (hrow : ∀ k ∈ names row, ∃ parent ∈ parents, key parent = k) (hinsert : table.insert row = some table') :
    Refers names key table'.rows parents := by
  rw [(Table.insert_eq_some hinsert).1]
  exact h.concat hrow

/-- Inserts of rows each of which refers to a parent. -/
theorem insertAll [DecidableRel conflict] {Item : Type*} {make : Item → Row}
    (hmake : ∀ item, ∀ k ∈ names (make item), ∃ parent ∈ parents, key parent = k) {items : List Item}
    (h : Refers names key table.rows parents)
    (hinsert : items.foldlM (fun table item => Table.insert table (make item)) table = some table') :
    Refers names key table'.rows parents := by
  induction items generalizing table with
  | nil =>
    cases hinsert
    exact h
  | cons item rest ih =>
    obtain ⟨table₁, hitem, hrest⟩ := Option.bind_eq_some_iff.mp hinsert
    exact ih (h.insert (hmake item) hitem) hrest

/-- An update of columns that do not refer. -/
theorem update (h : Refers names key table.rows parents) (selected : Row → Bool) {change : Row → Row}
    (hchange : KeepsKeys conflict change) (hnames : ∀ row, names (change row) = names row) :
    Refers names key (table.update selected change hchange).rows parents := by
  intro row' hrow' k hk
  obtain ⟨row, hrow, rfl⟩ := List.mem_map.mp hrow'
  apply h row hrow k
  split at hk
  · rw [← hnames]
    exact hk
  · exact hk

end Refers

end Relational

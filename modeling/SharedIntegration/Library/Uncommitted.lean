import SharedIntegration.Library.Table

/-!
# Inserts beside open transactions

Rows that another transaction has inserted but not committed are invisible to queries, yet the
unique constraints see them: an insert that conflicts with one waits until that transaction has
ended. An insert that conflicts with a committed row is refused.
-/

namespace Relational

variable {Row : Type*} {conflict : Row → Row → Prop} [DecidableRel conflict]

/-- What an `INSERT` meets. -/
inductive InsertOutcome
  | waits | refused | accepted
deriving DecidableEq

namespace Table

/-- An `INSERT` beside the uncommitted rows of other transactions. -/
def tryInsert (table : Table Row conflict) (uncommitted : List Row) (row : Row) : InsertOutcome :=
  if ∃ other ∈ uncommitted, conflict other row then .waits
  else if ∃ old ∈ table.rows, conflict old row then .refused
  else .accepted

/-- An accepted row conflicts with no committed and no uncommitted one. -/
theorem tryInsert_eq_accepted (table : Table Row conflict) (uncommitted : List Row) (row : Row) :
    table.tryInsert uncommitted row = .accepted ↔
      (∀ other ∈ uncommitted, ¬ conflict other row) ∧ ∀ old ∈ table.rows, ¬ conflict old row := by
  unfold tryInsert
  split
  · next hwaits => simpa using fun hfree => absurd hwaits (by simpa using hfree)
  · next hfree =>
    split
    · next hold => simpa using fun _ => by simpa using hold
    · next hnone => simpa using ⟨by simpa using hfree, by simpa using hnone⟩

/-- A refused row conflicts with a committed one. -/
theorem tryInsert_eq_refused {table : Table Row conflict} {uncommitted : List Row} {row : Row}
    (h : table.tryInsert uncommitted row = .refused) : ∃ old ∈ table.rows, conflict old row := by
  unfold tryInsert at h
  split at h
  · cases h
  · split at h
    · next hold => exact hold
    · cases h

/-- An insert waits only for an uncommitted row. -/
theorem tryInsert_eq_waits {table : Table Row conflict} {uncommitted : List Row} {row : Row}
    (h : table.tryInsert uncommitted row = .waits) : ∃ other ∈ uncommitted, conflict other row := by
  unfold tryInsert at h
  split at h
  · next hwaits => exact hwaits
  · split at h <;> cases h

/-- A row without conflicts is inserted. -/
theorem insert_of_free {table : Table Row conflict} {row : Row} (h : ∀ old ∈ table.rows, ¬ conflict old row) :
    table.insert row = some (table.push row h) := dif_pos h

/-- With no other transaction open an insert is accepted exactly if it succeeds. -/
theorem tryInsert_alone (table : Table Row conflict) (row : Row) :
    table.tryInsert [] row = if (table.insert row).isSome then .accepted else .refused := by
  by_cases hfree : ∀ old ∈ table.rows, ¬ conflict old row
  · rw [(table.tryInsert_eq_accepted [] row).mpr ⟨by simp, hfree⟩, insert_of_free hfree]
    rfl
  · have hnone : table.insert row = none := (table.insert_eq_none_iff row).mpr (by simpa using hfree)
    rw [tryInsert, if_neg (by simp), if_pos (by simpa using hfree), hnone]
    rfl

end Table

end Relational

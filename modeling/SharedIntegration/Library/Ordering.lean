import Mathlib.Data.List.Perm.Basic
import Mathlib.Data.List.Sort
import Mathlib.Order.Lattice

/-!
# Rows in key order

`ORDER BY` on a natural-number key, as insertion sort. A row that is appended with a key at
least as large as every other comes last, and the largest key does not depend on the order.
-/

namespace Relational

variable {Row : Type*}

/-- Rows in ascending order of a key; rows with equal keys keep their relative order. -/
def orderBy (key : Row → ℕ) (rows : List Row) : List Row :=
  rows.insertionSort fun a b => key a ≤ key b

/-- The largest key of a list of rows, or zero. -/
def maxKey (key : Row → ℕ) (rows : List Row) : ℕ := (rows.map key).foldr max 0

@[simp] theorem orderBy_nil (key : Row → ℕ) : orderBy key [] = [] := rfl

/-- Ordering only permutes the rows. -/
theorem orderBy_perm (key : Row → ℕ) (rows : List Row) : (orderBy key rows).Perm rows :=
  List.perm_insertionSort _ _

/-- The rows are in order. -/
theorem orderBy_sorted (key : Row → ℕ) (rows : List Row) :
    (orderBy key rows).Pairwise fun a b => key a ≤ key b := by
  have htotal : Std.Total fun a b : Row => key a ≤ key b := ⟨fun a b => Nat.le_total (key a) (key b)⟩
  have htrans : IsTrans Row fun a b => key a ≤ key b := ⟨fun _ _ _ => Nat.le_trans⟩
  exact List.pairwise_insertionSort _ rows

/-- Sorting forgets the order of rows that the sort tells apart. -/
theorem insertionSort_eq_of_perm (r : Row → Row → Prop) [DecidableRel r] [Std.Total r] [IsTrans Row r]
    {rows rows' : List Row} (h : rows.Perm rows') (hanti : ∀ a ∈ rows, ∀ b ∈ rows, r a b → r b a → a = b) :
    rows.insertionSort r = rows'.insertionSort r := by
  have hsorted : (rows.insertionSort r).Perm (rows'.insertionSort r) :=
    (List.perm_insertionSort r rows).trans (h.trans (List.perm_insertionSort r rows').symm)
  apply hsorted.eq_of_pairwise _ (List.pairwise_insertionSort r rows) (List.pairwise_insertionSort r rows')
  intro a b ha hb hab hba
  have ha' : a ∈ rows := (List.mem_insertionSort r).mp ha
  have hb' : b ∈ rows := h.mem_iff.mpr ((List.mem_insertionSort r).mp hb)
  exact hanti a ha' b hb' hab hba

/-- Rows with different keys are ordered the same from any order. -/
theorem orderBy_eq_of_perm (key : Row → ℕ) {rows rows' : List Row} (h : rows.Perm rows')
    (hkey : ∀ a ∈ rows, ∀ b ∈ rows, key a = key b → a = b) : orderBy key rows = orderBy key rows' := by
  have htotal : Std.Total fun a b : Row => key a ≤ key b := ⟨fun a b => Nat.le_total (key a) (key b)⟩
  have htrans : IsTrans Row fun a b => key a ≤ key b := ⟨fun _ _ _ => Nat.le_trans⟩
  exact insertionSort_eq_of_perm _ h fun a ha b hb hab hba => hkey a ha b hb (Nat.le_antisymm hab hba)

/-- A row that follows nothing larger can be inserted before a last row. -/
theorem orderedInsert_concat (key : Row → ℕ) (row last : Row) (rows : List Row)
    (hlast : key row ≤ key last) :
    List.orderedInsert (fun a b => key a ≤ key b) row (rows ++ [last]) =
      List.orderedInsert (fun a b => key a ≤ key b) row rows ++ [last] := by
  induction rows with
  | nil => simp [hlast]
  | cons first rows ih =>
    by_cases h : key row ≤ key first
    · simp [h]
    · simp [h, ih]

/-- A row whose key is at least every other key comes last. -/
theorem orderBy_concat (key : Row → ℕ) (rows : List Row) (last : Row)
    (hlast : ∀ row ∈ rows, key row ≤ key last) :
    orderBy key (rows ++ [last]) = orderBy key rows ++ [last] := by
  induction rows with
  | nil => rfl
  | cons row rows ih =>
    have hrest := ih fun r hr => hlast r (List.mem_cons_of_mem row hr)
    unfold orderBy at hrest ⊢
    rw [List.cons_append, List.insertionSort_cons, hrest, List.insertionSort_cons,
      orderedInsert_concat key row last _ (hlast row List.mem_cons_self)]

/-- Every key is at most the largest one. -/
theorem le_maxKey (key : Row → ℕ) {rows : List Row} {row : Row} (hrow : row ∈ rows) :
    key row ≤ maxKey key rows := by
  induction rows with
  | nil => cases hrow
  | cons first rows ih =>
    simp only [maxKey, List.map_cons, List.foldr_cons]
    rcases List.mem_cons.mp hrow with rfl | hrest
    · exact le_max_left _ _
    · exact (ih hrest).trans (le_max_right _ _)

/-- The largest key does not depend on the order of the rows. -/
theorem maxKey_perm (key : Row → ℕ) {rows rows' : List Row} (h : rows.Perm rows') :
    maxKey key rows = maxKey key rows' :=
  (h.map key).foldr_eq 0

/-- Ordering the rows first does not change the largest key. -/
@[simp] theorem maxKey_orderBy (key : Row → ℕ) (rows : List Row) :
    maxKey key (orderBy key rows) = maxKey key rows :=
  maxKey_perm key (orderBy_perm key rows)

end Relational

import Mathlib.Data.List.Basic
import Mathlib.Order.Lattice
import Mathlib.Order.MinMax
import Mathlib.Order.Defs.LinearOrder

/-!
# Summaries of a history

A record that is updated by every entry of a history can be told from the history at once: a
counter is its length, a maximum or minimum is that of its entries, a field that is only set once
belongs to the first entry, one that is always overwritten to the last, and a list that is merged
without duplicates to the concatenation. Each fact says what one further entry changes.
-/

namespace History

variable {Value : Type*}

/-- The maximum of a history with a further entry. -/
theorem max?_concat [LinearOrder Value] {values : List Value} {largest : Value}
    (h : values.max? = some largest) (value : Value) :
    (values ++ [value]).max? = some (max largest value) := by
  cases values with
  | nil => cases h
  | cons first rest =>
    rw [List.max?_cons', Option.some.injEq] at h
    rw [List.cons_append, List.max?_cons', List.foldl_append, h]
    rfl

/-- The minimum of a history with a further entry. -/
theorem min?_concat [LinearOrder Value] {values : List Value} {least : Value}
    (h : values.min? = some least) (value : Value) :
    (values ++ [value]).min? = some (min least value) := by
  cases values with
  | nil => cases h
  | cons first rest =>
    rw [List.min?_cons', Option.some.injEq] at h
    rw [List.cons_append, List.min?_cons', List.foldl_append, h]
    rfl

/-- The maximum does not depend on the order. -/
theorem max?_perm [LinearOrder Value] {values values' : List Value} (h : values.Perm values') :
    values.max? = values'.max? := by
  cases hmax : values'.max? with
  | none =>
    rw [List.max?_eq_none_iff] at hmax ⊢
    exact (hmax ▸ h).eq_nil
  | some largest =>
    rw [List.max?_eq_some_iff] at hmax ⊢
    exact ⟨h.mem_iff.mpr hmax.1, fun value hvalue => hmax.2 value (h.mem_iff.mp hvalue)⟩

/-- The minimum does not depend on the order. -/
theorem min?_perm [LinearOrder Value] {values values' : List Value} (h : values.Perm values') :
    values.min? = values'.min? := by
  cases hmin : values'.min? with
  | none =>
    rw [List.min?_eq_none_iff] at hmin ⊢
    exact (hmin ▸ h).eq_nil
  | some least =>
    rw [List.min?_eq_some_iff] at hmin ⊢
    exact ⟨h.mem_iff.mpr hmin.1, fun value hvalue => hmin.2 value (h.mem_iff.mp hvalue)⟩

/-- The first entry of a nonempty history stays the first. -/
theorem head?_concat {entries : List Value} (h : entries ≠ []) (entry : Value) :
    (entries ++ [entry]).head? = entries.head? := by
  cases entries with
  | nil => exact absurd rfl h
  | cons first rest => rfl

variable [BEq Value] [LawfulBEq Value]

/-- Duplicates are erased once. -/
theorem eraseDups_eraseDups (values : List Value) : values.eraseDups.eraseDups = values.eraseDups := by
  induction hlength : values.length using Nat.strong_induction_on generalizing values with
  | _ length ih =>
    cases values with
    | nil => rfl
    | cons first rest =>
      have hshorter : (rest.filter fun value => !value == first).length < length := by
        have := List.length_filter_le (fun value => !value == first) rest
        rw [List.length_cons] at hlength
        omega
      have hfirst : ∀ value ∈ (rest.filter fun value => !value == first).eraseDups,
          (!value == first) = true := by
        intro value hvalue
        exact (List.mem_filter.mp (List.mem_eraseDups.mp hvalue)).2
      rw [List.eraseDups_cons, List.eraseDups_cons, List.filter_eq_self.mpr hfirst, ih _ hshorter _ rfl]

/-- What is left has no duplicates. -/
theorem nodup_eraseDups (values : List Value) : values.eraseDups.Nodup := by
  induction hlength : values.length using Nat.strong_induction_on generalizing values with
  | _ length ih =>
    cases values with
    | nil => exact List.nodup_nil
    | cons first rest =>
      have hshorter : (rest.filter fun value => !value == first).length < length := by
        have := List.length_filter_le (fun value => !value == first) rest
        rw [List.length_cons] at hlength
        omega
      rw [List.eraseDups_cons, List.nodup_cons]
      refine ⟨fun hfirst => ?_, ih _ hshorter _ rfl⟩
      simpa using (List.mem_filter.mp (List.mem_eraseDups.mp hfirst)).2

/-- Merging a list without duplicates is merging the list it came from. -/
theorem eraseDups_eraseDups_append (values more : List Value) :
    (values.eraseDups ++ more).eraseDups = (values ++ more).eraseDups := by
  have hremove : more.removeAll values.eraseDups = more.removeAll values := by
    unfold List.removeAll
    apply List.filter_congr
    intro value _
    rw [Bool.eq_iff_iff]
    simp only [Bool.not_eq_true', List.elem_eq_contains, ← Bool.not_eq_true, List.contains_iff_mem,
      List.mem_eraseDups]
  rw [List.eraseDups_append, List.eraseDups_append, eraseDups_eraseDups, hremove]

end History

import Mathlib.Data.Finset.Card
import Mathlib.Data.List.Basic

/-!
# Counting the entries of a list that changes in one place

How a count changes when one entry is modified, and a bound on the entries of one list that are each claimed by an
entry of another one.
-/

namespace Slots

variable {α β : Type*}

/-- The count of a list after one of its entries was modified. -/
theorem countP_modify {entries : List α} {index : ℕ} {entry : α} (change : α → α) (wanted : α → Bool)
    (h : entries[index]? = some entry) :
    (entries.modify index change).countP wanted + (wanted entry).toNat =
      entries.countP wanted + (wanted (change entry)).toNat := by
  induction entries generalizing index with
  | nil => cases h
  | cons first rest ih =>
    cases index with
    | zero =>
      cases h
      rw [List.modify_zero_cons, List.countP_cons, List.countP_cons]
      cases wanted entry <;> cases wanted (change entry) <;> simp
    | succ index =>
      have hrest := ih (by simpa using h)
      rw [List.modify_succ_cons, List.countP_cons, List.countP_cons]
      omega

/-- An entry of a modified list is an entry of the list, or the modified one. -/
theorem of_getElem?_modify {entries : List α} {index other : ℕ} {change : α → α} {entry entry' : α}
    (hindex : entries[index]? = some entry) (h : (entries.modify index change)[other]? = some entry') :
    (other = index ∧ entry' = change entry) ∨ (other ≠ index ∧ entries[other]? = some entry') := by
  by_cases hother : index = other
  · subst hother
    rw [List.getElem?_modify_eq, hindex] at h
    cases h
    exact .inl ⟨rfl, rfl⟩
  · rw [List.getElem?_modify_ne _ _ hother] at h
    exact .inr ⟨fun h => hother h.symm, h⟩

/-- An entry of a list with one more entry at its end. -/
theorem of_getElem?_concat {entries : List α} {last entry : α} {index : ℕ}
    (h : (entries ++ [last])[index]? = some entry) :
    (index = entries.length ∧ entry = last) ∨ entries[index]? = some entry := by
  rw [List.getElem?_append] at h
  split at h
  · exact .inr h
  · next hindex =>
    left
    have hzero : index - entries.length = 0 := by
      by_contra hne
      obtain ⟨n, hn⟩ := Nat.exists_eq_succ_of_ne_zero hne
      rw [hn] at h
      cases h
    rw [hzero] at h
    cases h
    exact ⟨by omega, rfl⟩

/-- Entries that stay when one is added. -/
theorem getElem?_concat {entries : List α} {entry : α} {index : ℕ} (last : α) (h : entries[index]? = some entry) :
    (entries ++ [last])[index]? = some entry := by
  rw [List.getElem?_append_left (List.getElem?_eq_some_iff.mp h).1, h]

/-- A count is the number of the indices of what is counted. -/
theorem countP_eq_card (entries : List α) (wanted : α → Bool) : entries.countP wanted =
    ((Finset.range entries.length).filter fun index => (entries[index]?).any wanted).card := by
  induction entries using List.reverseRecOn with
  | nil => rfl
  | append_singleton front last ih =>
    rw [List.countP_append, ih, List.length_append, List.length_singleton, Finset.range_add_one, Finset.filter_insert]
    have hfront : (Finset.range front.length).filter (fun index => ((front ++ [last])[index]?).any wanted) =
        (Finset.range front.length).filter fun index => (front[index]?).any wanted := by
      refine Finset.filter_congr fun index hindex => ?_
      rw [List.getElem?_append_left (Finset.mem_range.mp hindex)]
    rw [hfront, List.getElem?_concat_length]
    cases hlast : wanted last with
    | false => simp [hlast]
    | true =>
      rw [if_pos (by simp [hlast]), Finset.card_insert_of_notMem (by simp)]
      simp [hlast]

/-- If every wanted entry of a list is claimed by a wanted entry of another one, and an entry claims at most one,
there are at most as many of the former. -/
theorem countP_le_of_claimed {entries : List α} {claims : List β} {wanted : α → Bool} {claiming : β → Bool}
    (claim : β → Option ℕ)
    (h : ∀ (index : ℕ) (entry : α), entries[index]? = some entry → wanted entry = true →
      ∃ (other : ℕ) (claimant : β), claims[other]? = some claimant ∧ claiming claimant = true ∧
        claim claimant = some index) :
    entries.countP wanted ≤ claims.countP claiming := by
  rw [countP_eq_card, countP_eq_card]
  refine Finset.card_le_card_of_surjOn
    (fun other => ((claims[other]?).bind claim).getD 0) ?_
  intro index hindex
  simp only [Finset.coe_filter, Finset.mem_range, Set.mem_ofPred_eq] at hindex
  obtain ⟨entry, hentry, hwanted⟩ := (Option.any_eq_true _ _).mp hindex.2
  obtain ⟨other, claimant, hother, hclaiming, hclaim⟩ := h index entry hentry hwanted
  refine ⟨other, ?_, by simp [hother, hclaim]⟩
  simp only [Finset.coe_filter, Finset.mem_range, Set.mem_ofPred_eq, hother, Option.any_some, hclaiming, and_true]
  exact (List.getElem?_eq_some_iff.mp hother).1

end Slots

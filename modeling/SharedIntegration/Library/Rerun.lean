import SharedIntegration.Library.Fallible
import Mathlib.Data.List.Basic

/-!
# Imports that can be run again

Rows are imported one after another. A row whose counterpart is already there is skipped, and a row that
cannot be imported ends the import with an error. An import is repeatable if what makes it skip a row is
brought about by importing the row and never disappears; a second import then skips everything.
-/

namespace Rerun

variable {State View Row Error : Type*}

/-- How many rows were imported and how many were skipped. -/
structure Tally where
  imported : ℕ
  skipped : ℕ
deriving DecidableEq, Repr

/-- Count one more row, which was imported or not. -/
def Tally.count (tally : Tally) : (isNew : Bool) → Tally
  | true => { tally with imported := tally.imported + 1 }
  | false => { tally with skipped := tally.skipped + 1 }

/-- Import rows in order; each step says whether it imported its row. -/
def importAll (step : State → Row → Except Error (State × Bool)) : State → List Row → Except Error (State × Tally)
  | s, [] => .ok (s, ⟨0, 0⟩)
  | s, row :: rest => do
    let (s, isNew) ← step s row
    let (s, tally) ← importAll step s rest
    return (s, tally.count isNew)

variable {step : State → Row → Except Error (State × Bool)} {s s' : State} {row : Row} {rest rows : List Row}
  {tally : Tally}

/-- The first row is imported or skipped, and then the rest. -/
theorem importAll_cons_eq_ok (h : importAll step s (row :: rest) = .ok (s', tally)) :
    ∃ t isNew tally', step s row = .ok (t, isNew) ∧ importAll step t rest = .ok (s', tally') ∧
      tally = tally'.count isNew := by
  obtain ⟨⟨t, isNew⟩, hstep, h⟩ := Fallible.bind_eq_ok.mp h
  obtain ⟨⟨s'', tally'⟩, hrest, h⟩ := Fallible.bind_eq_ok.mp h
  cases h
  exact ⟨t, isNew, tally', hstep, hrest, rfl⟩

/-- Every row is counted once. -/
theorem importAll_total (h : importAll step s rows = .ok (s', tally)) :
    tally.imported + tally.skipped = rows.length := by
  induction rows generalizing s tally with
  | nil =>
    cases h
    rfl
  | cons row rest ih =>
    obtain ⟨t, isNew, tally', -, hrest, rfl⟩ := importAll_cons_eq_ok h
    have htotal := ih hrest
    rw [List.length_cons, ← htotal]
    cases isNew with
    | true => exact Nat.add_right_comm _ _ _
    | false => rfl

/-- A list is extended by that many entries. -/
def Extends {Entry : Type*} (count : ℕ) (before after : List Entry) : Prop :=
  ∃ added, after = before ++ added ∧ added.length = count

/-- Nothing is added. -/
theorem Extends.refl {Entry : Type*} (entries : List Entry) : Extends 0 entries entries :=
  ⟨[], (List.append_nil entries).symm, rfl⟩

/-- One entry is added. -/
theorem Extends.push {Entry : Type*} (entries : List Entry) (entry : Entry) : Extends 1 entries (entries ++ [entry]) :=
  ⟨[entry], rfl, rfl⟩

/-- Entries are added to those added before. -/
theorem Extends.trans {Entry : Type*} {m n : ℕ} {entries entries' entries'' : List Entry}
    (h : Extends m entries entries') (h' : Extends n entries' entries'') : Extends (m + n) entries entries'' := by
  obtain ⟨added, rfl, rfl⟩ := h
  obtain ⟨added', rfl, rfl⟩ := h'
  exact ⟨added ++ added', List.append_assoc entries added added', List.length_append⟩

/-- What each imported row does once, an import does as often as it imports rows. -/
theorem importAll_grows (Grown : ℕ → State → State → Prop) (hrefl : ∀ s, Grown 0 s s)
    (htrans : ∀ {m n s t u}, Grown m s t → Grown n t u → Grown (m + n) s u)
    (hstep : ∀ {s row s' isNew}, step s row = .ok (s', isNew) → Grown isNew.toNat s s')
    (h : importAll step s rows = .ok (s', tally)) : Grown tally.imported s s' := by
  induction rows generalizing s tally with
  | nil =>
    cases h
    exact hrefl _
  | cons row rest ih =>
    obtain ⟨t, isNew, tally', hfirst, hrest, rfl⟩ := importAll_cons_eq_ok h
    have hgrown := htrans (hstep hfirst) (ih hrest)
    cases isNew with
    | true =>
      rw [Bool.toNat_true, Nat.add_comm] at hgrown
      exact hgrown
    | false =>
      rw [Bool.toNat_false, Nat.zero_add] at hgrown
      exact hgrown

/-- A property that every step keeps holds after an import. -/
theorem importAll_invariant (Inv : State → Prop)
    (hstep : ∀ s row s' isNew, row ∈ rows → Inv s → step s row = .ok (s', isNew) → Inv s') (hs : Inv s)
    (h : importAll step s rows = .ok (s', tally)) : Inv s' := by
  induction rows generalizing s tally with
  | nil =>
    cases h
    exact hs
  | cons row rest ih =>
    obtain ⟨t, isNew, tally', hfirst, hrest, -⟩ := importAll_cons_eq_ok h
    have ht : Inv t := hstep s row t isNew List.mem_cons_self hs hfirst
    exact ih (fun s row s' isNew hrow => hstep s row s' isNew (List.mem_cons_of_mem _ hrow)) ht hrest

/-- A property of the rows so far and of the state, kept by every step, holds of all rows after an import. -/
theorem importAll_history (Inv : List Row → State → Prop)
    (hstep : ∀ done row s s' isNew, done ++ [row] <+: rows → Inv done s → step s row = .ok (s', isNew) →
      Inv (done ++ [row]) s') (hs : Inv [] s) (h : importAll step s rows = .ok (s', tally)) : Inv rows s' := by
  have hall : ∀ rest done t, done ++ rest = rows → Inv done t → ∀ tally, importAll step t rest = .ok (s', tally) →
      Inv rows s' := by
    intro rest
    induction rest with
    | nil =>
      intro done t hdone ht tally hrest
      cases hrest
      rw [← hdone, List.append_nil]
      exact ht
    | cons row rest ih =>
      intro done t hdone ht tally hrest
      obtain ⟨t', isNew, tally', hfirst, hlater, -⟩ := importAll_cons_eq_ok hrest
      have hsplit : (done ++ [row]) ++ rest = rows := by rw [← hdone, List.append_assoc, List.singleton_append]
      exact ih (done ++ [row]) t' hsplit (hstep done row t t' isNew ⟨rest, hsplit⟩ ht hfirst) tally' hlater
  exact hall rows [] s rfl hs tally h

/-- An import in two parts. -/
theorem importAll_append {first : List Row} (h : importAll step s (first ++ rest) = .ok (s', tally)) :
    ∃ t tally₁ tally₂, importAll step s first = .ok (t, tally₁) ∧ importAll step t rest = .ok (s', tally₂) := by
  induction first generalizing s tally with
  | nil => exact ⟨s, ⟨0, 0⟩, tally, rfl, h⟩
  | cons row first ih =>
    obtain ⟨t, isNew, tally', hstep, hlater, -⟩ := importAll_cons_eq_ok h
    obtain ⟨t', tally₁, tally₂, hfirst, hrest⟩ := ih hlater
    refine ⟨t', tally₁.count isNew, tally₂, ?_, hrest⟩
    rw [importAll, hstep]
    change (importAll step t first).bind _ = _
    rw [hfirst]
    rfl

/-- An import of entries with new keys appends them all, in order. -/
theorem importAll_appends {Entry Key : Type*} (contents : State → List Entry) (key : Entry → Key) (encode : Entry → Row)
    (hstep : ∀ s entry s' isNew, (∀ old ∈ contents s, key old ≠ key entry) → step s (encode entry) = .ok (s', isNew) →
      contents s' = contents s ++ [entry])
    {entries : List Entry} (hnew : ∀ entry ∈ entries, ∀ old ∈ contents s, key old ≠ key entry)
    (hdistinct : entries.Pairwise fun a b => key a ≠ key b) (h : importAll step s (entries.map encode) = .ok (s', tally)) :
    contents s' = contents s ++ entries := by
  induction entries generalizing s tally with
  | nil =>
    cases h
    exact (List.append_nil _).symm
  | cons entry rest ih =>
    obtain ⟨t, isNew, tally', hfirst, hrest, -⟩ := importAll_cons_eq_ok h
    obtain ⟨hentry, hlater⟩ := List.pairwise_cons.mp hdistinct
    have ht : contents t = contents s ++ [entry] := hstep s entry t isNew (hnew entry List.mem_cons_self) hfirst
    have hnew' : ∀ other ∈ rest, ∀ old ∈ contents t, key old ≠ key other := by
      intro other hother old hold
      rw [ht] at hold
      rcases List.mem_append.mp hold with hbefore | hlast
      · exact hnew other (List.mem_cons_of_mem entry hother) old hbefore
      · rw [List.mem_singleton.mp hlast]
        exact hentry other hother
    rw [ih hnew' hlater hrest, ht, List.append_assoc]
    rfl

/-- An import is repeatable in the part of the state that `view` shows: a row is known to it once the
row was imported or skipped, what is known stays known, and a known row is skipped. -/
structure Repeatable (step : State → Row → Except Error (State × Bool)) (view : State → View)
    (Kept : View → View → Prop) (Known : View → Row → Prop) : Prop where
  refl : ∀ v, Kept v v
  trans : ∀ {v v' v''}, Kept v v' → Kept v' v'' → Kept v v''
  kept : ∀ {s row s' isNew}, step s row = .ok (s', isNew) → Kept (view s) (view s')
  known : ∀ {s row s' isNew}, step s row = .ok (s', isNew) → Known (view s') row
  mono : ∀ {v v' row}, Kept v v' → Known v row → Known v' row
  skips : ∀ {s row}, Known (view s) row → ∃ s', step s row = .ok (s', false) ∧ view s' = view s

namespace Repeatable

variable {view : State → View} {Kept : View → View → Prop} {Known : View → Row → Prop}

/-- An import keeps what was there. -/
theorem importAll_kept (hrepeat : Repeatable step view Kept Known) (h : importAll step s rows = .ok (s', tally)) :
    Kept (view s) (view s') := by
  apply importAll_invariant (fun t => Kept (view s) (view t)) _ (hrepeat.refl _) h
  intro t row t' isNew _ ht hstep
  exact hrepeat.trans ht (hrepeat.kept hstep)

/-- After an import all of its rows are known. -/
theorem importAll_known (hrepeat : Repeatable step view Kept Known) (h : importAll step s rows = .ok (s', tally)) :
    ∀ row ∈ rows, Known (view s') row := by
  induction rows generalizing s tally with
  | nil => exact fun row hrow => absurd hrow List.not_mem_nil
  | cons row rest ih =>
    obtain ⟨t, isNew, tally', hfirst, hrest, -⟩ := importAll_cons_eq_ok h
    have hlater := hrepeat.importAll_kept hrest
    intro other hother
    rcases List.mem_cons.mp hother with rfl | hother
    · exact hrepeat.mono hlater (hrepeat.known hfirst)
    · exact ih hrest other hother

/-- An import of known rows skips them all. -/
theorem importAll_skips (hrepeat : Repeatable step view Kept Known) (hrows : ∀ row ∈ rows, Known (view s) row) :
    ∃ s', importAll step s rows = .ok (s', ⟨0, rows.length⟩) ∧ view s' = view s := by
  induction rows generalizing s with
  | nil => exact ⟨s, rfl, rfl⟩
  | cons row rest ih =>
    obtain ⟨t, hfirst, hview⟩ := hrepeat.skips (hrows row List.mem_cons_self)
    have hknown : ∀ row ∈ rest, Known (view t) row := by
      intro other hother
      rw [hview]
      exact hrows other (List.mem_cons_of_mem row hother)
    obtain ⟨s', hrest, hview'⟩ := ih hknown
    refine ⟨s', ?_, hview'.trans hview⟩
    rw [importAll, hfirst]
    change (importAll step t rest).bind _ = _
    rw [hrest]
    rfl

end Repeatable

end Rerun

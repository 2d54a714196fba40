import SharedIntegration.Library.Transition

/-!
# Schedules without hidden steps

A relation between two states that survives every hidden step of the first one alone, and every other step
of both, is carried along a whole schedule of the first and the same schedule without the hidden steps of
the second. It may speak of the labels that are still to come.
-/

namespace Transition

variable {State Label : Type*} (step : State → Label → Option State) (hidden : State → Label → Bool)

/-- The schedule from a state, without the steps that are hidden in the state they start from. -/
def withoutHidden : State → List Label → List Label
  | _, [] => []
  | s, l :: rest =>
    (if hidden s l then [] else [l]) ++ (step s l).elim [] fun s' => withoutHidden s' rest

variable {step hidden}

/-- Behind a hidden step. -/
theorem withoutHidden_hidden {s s' : State} {l : Label} {rest : List Label} (hl : step s l = some s')
    (hhidden : hidden s l = true) : withoutHidden step hidden s (l :: rest) = withoutHidden step hidden s' rest := by
  rw [withoutHidden, if_pos hhidden, hl, Option.elim_some, List.nil_append]

/-- A step that is not hidden stays. -/
theorem withoutHidden_visible {s s' : State} {l : Label} {rest : List Label} (hl : step s l = some s')
    (hhidden : hidden s l = false) :
    withoutHidden step hidden s (l :: rest) = l :: withoutHidden step hidden s' rest := by
  rw [withoutHidden, if_neg (by rw [hhidden]; exact Bool.false_ne_true), hl, Option.elim_some, List.singleton_append]

/-- What survives every step holds at the end of a schedule and of what is left of it. -/
theorem runSteps_withoutHidden {Rel : List Label → State → State → Prop}
    (hhidden : ∀ l rest s s' t, Rel (l :: rest) s s' → step s l = some t → hidden s l = true → Rel rest t s')
    (hvisible : ∀ l rest s s' t, Rel (l :: rest) s s' → step s l = some t → hidden s l = false →
      ∃ t', step s' l = some t' ∧ Rel rest t t')
    {s s' t : State} {schedule : List Label} (h : Rel schedule s s') (hrun : runSteps step s schedule = some t) :
    ∃ t', runSteps step s' (withoutHidden step hidden s schedule) = some t' ∧ Rel [] t t' := by
  induction schedule generalizing s s' with
  | nil =>
    cases hrun
    exact ⟨s', rfl, h⟩
  | cons l rest ih =>
    obtain ⟨s₁, hl, hrest⟩ := runSteps_cons_eq_some.mp hrun
    cases hcase : hidden s l with
    | true =>
      rw [withoutHidden_hidden hl hcase]
      exact ih (hhidden l rest s s' s₁ h hl hcase) hrest
    | false =>
      obtain ⟨s₁', hl', h₁⟩ := hvisible l rest s s' s₁ h hl hcase
      obtain ⟨t', hrun', ht⟩ := ih h₁ hrest
      refine ⟨t', ?_, ht⟩
      rw [withoutHidden_visible hl hcase]
      exact runSteps_cons_eq_some.mpr ⟨s₁', hl', hrun'⟩

end Transition

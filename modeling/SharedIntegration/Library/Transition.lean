import Mathlib.Data.List.Basic

/-!
# Schedules of partial labelled steps

A system is a step function that may refuse a label. A schedule is a list of labels;
running it fails as soon as one label is refused. Invariants are carried along a whole
schedule from what one step preserves, unconditionally or under a guard that reads the
label and the state before the step.
-/

namespace Transition

variable {State Label : Type*}

/-- Perform a schedule, stopping at the first label that is not enabled. -/
def runSteps (step : State → Label → Option State) : State → List Label → Option State
  | s, [] => some s
  | s, l :: rest => (step s l).bind fun s' => runSteps step s' rest

variable {step : State → Label → Option State}

@[simp] theorem runSteps_nil (s : State) : runSteps step s [] = some s := rfl

/-- A nonempty schedule succeeds through the state after its first label. -/
theorem runSteps_cons_eq_some {s t : State} {l : Label} {rest : List Label} :
    runSteps step s (l :: rest) = some t ↔
      ∃ s', step s l = some s' ∧ runSteps step s' rest = some t := by
  simp [runSteps, Option.bind_eq_some_iff]

/-- Schedules compose. -/
theorem runSteps_append_eq_some {s t : State} {first rest : List Label} :
    runSteps step s (first ++ rest) = some t ↔
      ∃ s', runSteps step s first = some s' ∧ runSteps step s' rest = some t := by
  induction first generalizing s with
  | nil => simp
  | cons l first ih =>
    simp only [List.cons_append, runSteps_cons_eq_some, ih]
    constructor
    · rintro ⟨s₁, hstep, s₂, hfirst, hrest⟩
      exact ⟨s₂, ⟨s₁, hstep, hfirst⟩, hrest⟩
    · rintro ⟨s₂, ⟨s₁, hstep, hfirst⟩, hrest⟩
      exact ⟨s₁, hstep, s₂, hfirst, hrest⟩

/-- A property that every step preserves holds at the end of every schedule. -/
theorem runSteps_invariant (Inv : State → Prop)
    (hstep : ∀ s l s', Inv s → step s l = some s' → Inv s')
    {s t : State} {schedule : List Label} (hs : Inv s)
    (hrun : runSteps step s schedule = some t) : Inv t := by
  induction schedule generalizing s with
  | nil =>
    cases hrun
    exact hs
  | cons l rest ih =>
    obtain ⟨s', hl, hrest⟩ := runSteps_cons_eq_some.mp hrun
    exact ih (hstep s l s' hs hl) hrest

/-- What holds at the end of a schedule but not at its start was brought about by one of its steps. -/
theorem exists_step_of_not {P : State → Prop} {s t : State} {labels : List Label} (hs : ¬ P s) (ht : P t)
    (hrun : runSteps step s labels = some t) :
    ∃ first l rest s₁ s₂, labels = first ++ l :: rest ∧ runSteps step s first = some s₁ ∧
      step s₁ l = some s₂ ∧ ¬ P s₁ ∧ P s₂ := by
  classical
  induction labels generalizing s with
  | nil =>
    cases hrun
    exact absurd ht hs
  | cons l rest ih =>
    obtain ⟨s', hl, hrest⟩ := runSteps_cons_eq_some.mp hrun
    by_cases hs' : P s'
    · exact ⟨[], l, rest, s, s', rfl, rfl, hl, hs, hs'⟩
    · obtain ⟨first, l', rest', s₁, s₂, hlabels, hfirst, hstep⟩ := ih hs' hrest
      exact ⟨l :: first, l', rest', s₁, s₂, by rw [hlabels]; rfl,
        runSteps_cons_eq_some.mpr ⟨s', hl, hfirst⟩, hstep⟩

/-- Every step of the schedule is taken in a state that its guard admits. -/
def GuardedAlong (step : State → Label → Option State) (guard : State → Label → Prop) :
    State → List Label → Prop
  | _, [] => True
  | s, l :: rest => guard s l ∧ ∀ s', step s l = some s' → GuardedAlong step guard s' rest

/-- Whether a schedule is guarded can be found out by performing it. -/
instance GuardedAlong.decidable {guard : State → Label → Prop} [∀ s l, Decidable (guard s l)] :
    ∀ s labels, Decidable (GuardedAlong step guard s labels)
  | _, [] => isTrue trivial
  | s, l :: rest =>
    have : ∀ s', Decidable (GuardedAlong step guard s' rest) := fun s' => decidable s' rest
    inferInstanceAs (Decidable (guard s l ∧ ∀ s' ∈ step s l, GuardedAlong step guard s' rest))

/-- A guard that reads only labels holds along a schedule of such labels. -/
theorem GuardedAlong.of_labels {P : Label → Prop} {labels : List Label} (h : ∀ l ∈ labels, P l)
    (s : State) : GuardedAlong step (fun _ l => P l) s labels := by
  induction labels generalizing s with
  | nil => trivial
  | cons l rest ih =>
    exact ⟨h l List.mem_cons_self, fun s' _ => ih (fun l' hl' => h l' (List.mem_cons_of_mem l hl')) s'⟩

/-- Two guards of a schedule are one. -/
theorem GuardedAlong.and {guard guard' : State → Label → Prop} {s : State} {labels : List Label}
    (h : GuardedAlong step guard s labels) (h' : GuardedAlong step guard' s labels) :
    GuardedAlong step (fun s l => guard s l ∧ guard' s l) s labels := by
  induction labels generalizing s with
  | nil => trivial
  | cons l rest ih => exact ⟨⟨h.1, h'.1⟩, fun s' hs' => ih (h.2 s' hs') (h'.2 s' hs')⟩

/-- A guarded schedule is guarded on each of its initial segments. -/
theorem GuardedAlong.of_append {guard : State → Label → Prop} {s : State} {first rest : List Label}
    (h : GuardedAlong step guard s (first ++ rest)) : GuardedAlong step guard s first := by
  induction first generalizing s with
  | nil => trivial
  | cons l first ih => exact ⟨h.1, fun s' hs' => ih (h.2 s' hs')⟩

/-- A guarded schedule stays guarded from every state it reaches. -/
theorem GuardedAlong.after {guard : State → Label → Prop} {s s' : State} {first rest : List Label}
    (h : GuardedAlong step guard s (first ++ rest)) (hrun : runSteps step s first = some s') :
    GuardedAlong step guard s' rest := by
  induction first generalizing s with
  | nil =>
    cases hrun
    exact h
  | cons l first ih =>
    obtain ⟨s₁, hl, hfirst⟩ := runSteps_cons_eq_some.mp hrun
    exact ih (h.2 s₁ hl) hfirst

/-- A property that every guarded step preserves holds at the end of every guarded schedule. -/
theorem runSteps_guarded_invariant {guard : State → Label → Prop} (Inv : State → Prop)
    (hstep : ∀ s l s', Inv s → guard s l → step s l = some s' → Inv s')
    {s t : State} {schedule : List Label} (hs : Inv s)
    (hguard : GuardedAlong step guard s schedule)
    (hrun : runSteps step s schedule = some t) : Inv t := by
  induction schedule generalizing s with
  | nil =>
    cases hrun
    exact hs
  | cons l rest ih =>
    obtain ⟨s', hl, hrest⟩ := runSteps_cons_eq_some.mp hrun
    exact ih (hstep s l s' hs hguard.1 hl) (hguard.2 s' hl) hrest

/-- The property holds in every state that the schedule visits. -/
def AlwaysAlong (step : State → Label → Option State) (Inv : State → Prop) (s : State)
    (schedule : List Label) : Prop :=
  ∀ first, first <+: schedule → ∀ s', runSteps step s first = some s' → Inv s'

/-- A property that a step keeps exactly if its guard admits the step holds all along a schedule
exactly if the schedule is guarded. -/
theorem alwaysAlong_iff_guardedAlong {guard : State → Label → Prop} {Inv : State → Prop}
    (hstep : ∀ s l s', Inv s → step s l = some s' → (Inv s' ↔ guard s l))
    {s t : State} {schedule : List Label} (hs : Inv s) (hrun : runSteps step s schedule = some t) :
    AlwaysAlong step Inv s schedule ↔ GuardedAlong step guard s schedule := by
  induction schedule generalizing s with
  | nil =>
    refine ⟨fun _ => trivial, fun _ first hfirst s' hs' => ?_⟩
    rw [List.prefix_nil.mp hfirst, runSteps_nil, Option.some.injEq] at hs'
    exact hs' ▸ hs
  | cons l rest ih =>
    obtain ⟨s₁, hl, hrest⟩ := runSteps_cons_eq_some.mp hrun
    constructor
    · intro halways
      have hs₁ : Inv s₁ := halways [l] ⟨rest, rfl⟩ s₁ (runSteps_cons_eq_some.mpr ⟨s₁, hl, rfl⟩)
      refine ⟨(hstep s l s₁ hs hl).mp hs₁, fun s' hs' => ?_⟩
      rw [hl, Option.some.injEq] at hs'
      subst hs'
      refine (ih hs₁ hrest).mp fun first hfirst s' hs' => ?_
      exact halways (l :: first) (List.cons_prefix_cons.mpr ⟨rfl, hfirst⟩) s'
        (runSteps_cons_eq_some.mpr ⟨s₁, hl, hs'⟩)
    · rintro ⟨hguard, hguarded⟩ first hfirst s' hs'
      have hs₁ : Inv s₁ := (hstep s l s₁ hs hl).mpr hguard
      cases first with
      | nil =>
        rw [runSteps_nil, Option.some.injEq] at hs'
        exact hs' ▸ hs
      | cons l' first =>
        obtain ⟨rfl, hfirst'⟩ := List.cons_prefix_cons.mp hfirst
        obtain ⟨s₂, hl', hs'⟩ := runSteps_cons_eq_some.mp hs'
        rw [hl, Option.some.injEq] at hl'
        subst hl'
        exact (ih hs₁ hrest).mpr (hguarded s₁ hl) first hfirst' s' hs'

/-- What a schedule gives off, in order; a label that is refused ends the schedule. -/
def emitted {Out : Type*} (step : State → Label → Option State) (emit : State → Label → List Out) :
    State → List Label → List Out
  | _, [] => []
  | s, l :: rest => emit s l ++ (step s l).elim [] fun s' => emitted step emit s' rest

/-- A property of the output so far and of the state, kept by every step, holds at the end of
every schedule of what the whole schedule has given off. -/
theorem runSteps_history {Out : Type*} {emit : State → Label → List Out} (Inv : List Out → State → Prop)
    (hstep : ∀ history s l s', Inv history s → step s l = some s' → Inv (history ++ emit s l) s')
    {history : List Out} {s t : State} {schedule : List Label} (hs : Inv history s)
    (hrun : runSteps step s schedule = some t) : Inv (history ++ emitted step emit s schedule) t := by
  induction schedule generalizing history s with
  | nil =>
    cases hrun
    simpa [emitted] using hs
  | cons l rest ih =>
    obtain ⟨s', hl, hrest⟩ := runSteps_cons_eq_some.mp hrun
    have hall := ih (hstep history s l s' hs hl) hrest
    simpa [emitted, hl] using hall

/-- The same for steps that are taken in states that their guard admits. -/
theorem runSteps_guarded_history {Out : Type*} {emit : State → Label → List Out} {guard : State → Label → Prop}
    (Inv : List Out → State → Prop)
    (hstep : ∀ history s l s', Inv history s → guard s l → step s l = some s' → Inv (history ++ emit s l) s')
    {history : List Out} {s t : State} {schedule : List Label} (hs : Inv history s)
    (hguard : GuardedAlong step guard s schedule) (hrun : runSteps step s schedule = some t) :
    Inv (history ++ emitted step emit s schedule) t := by
  induction schedule generalizing history s with
  | nil =>
    cases hrun
    simpa [emitted] using hs
  | cons l rest ih =>
    obtain ⟨s', hl, hrest⟩ := runSteps_cons_eq_some.mp hrun
    have hall := ih (hstep history s l s' hs hguard.1 hl) (hguard.2 s' hl) hrest
    simpa [emitted, hl] using hall

/-- Replacing one component of a list of components leaves those before and after it alone. -/
theorem exists_split_of_getElem? {Component : Type*} {l : List Component} {i : ℕ} {a : Component}
    (h : l[i]? = some a) (b : Component) :
    ∃ before after, l = before ++ a :: after ∧ l.set i b = before ++ b :: after ∧
      before.length = i := by
  induction l generalizing i with
  | nil => simp at h
  | cons c rest ih =>
    cases i with
    | zero =>
      rw [List.getElem?_cons_zero, Option.some.injEq] at h
      exact ⟨[], rest, by simp [h], by simp, rfl⟩
    | succ i =>
      rw [List.getElem?_cons_succ] at h
      obtain ⟨before, after, hl, hset, hlength⟩ := ih h
      exact ⟨c :: before, after, by simp [hl], by simp [hset], by simp [hlength]⟩

/-- What holds of all components still does once one of them is replaced by one that it holds of. -/
theorem forall_mem_of_split {Component : Type*} {P : Component → Prop} {l l' before after : List Component}
    {a b : Component} (hl : l = before ++ a :: after) (hl' : l' = before ++ b :: after)
    (hold : ∀ c ∈ l, P c) (hnew : P b) : ∀ c ∈ l', P c := by
  intro c hc
  rw [hl'] at hc
  rcases List.mem_append.mp hc with hbefore | hc
  · exact hold c (by simp [hl, hbefore])
  · rcases List.mem_cons.mp hc with rfl | hafter
    · exact hnew
    · exact hold c (by simp [hl, hafter])

/-- What relates any two components still does once one of them is replaced by one that it relates
to all others. -/
theorem pairwise_of_split {Component : Type*} {R : Component → Component → Prop}
    {l l' before after : List Component} {a b : Component} (hsymm : ∀ c d, R c d → R d c)
    (hl : l = before ++ a :: after) (hl' : l' = before ++ b :: after) (hold : l.Pairwise R)
    (hnew : ∀ c ∈ before ++ after, R b c) : l'.Pairwise R := by
  rw [hl, List.pairwise_append, List.pairwise_cons] at hold
  obtain ⟨hbefore, ⟨-, hafter⟩, hacross⟩ := hold
  rw [hl', List.pairwise_append, List.pairwise_cons]
  refine ⟨hbefore, ⟨fun c hc => hnew c (List.mem_append_right _ hc), hafter⟩, ?_⟩
  intro c hc d hd
  rcases List.mem_cons.mp hd with rfl | hd
  · exact hsymm _ _ (hnew c (List.mem_append_left _ hc))
  · exact hacross c hc d (List.mem_cons_of_mem _ hd)

/-- What relates any two components relates one to all others. -/
theorem pairwise_others {Component : Type*} {R : Component → Component → Prop} {l before after : List Component}
    {a : Component} (hsymm : ∀ c d, R c d → R d c) (hl : l = before ++ a :: after) (h : l.Pairwise R) :
    ∀ c ∈ before ++ after, R a c := by
  rw [hl, List.pairwise_append, List.pairwise_cons] at h
  obtain ⟨-, ⟨hafter, -⟩, hacross⟩ := h
  intro c hc
  rcases List.mem_append.mp hc with hc | hc
  · exact hsymm _ _ (hacross c hc a List.mem_cons_self)
  · exact hafter c hc

/-- The other components of a split. -/
theorem eraseIdx_of_split {Component : Type*} {l before after : List Component} {i : ℕ} {a : Component}
    (h : l = before ++ a :: after) (hindex : before.length = i) : l.eraseIdx i = before ++ after := by
  rw [h, ← hindex, List.eraseIdx_append_of_length_le (Nat.le_refl _), Nat.sub_self, List.eraseIdx_cons_zero]

/-- The component at the place of a split. -/
theorem getElem?_of_split {Component : Type*} {l before after : List Component} {i : ℕ} {a : Component}
    (h : l = before ++ a :: after) (hindex : before.length = i) : l[i]? = some a := by
  rw [h, ← hindex, List.getElem?_append_right (Nat.le_refl _), Nat.sub_self, List.getElem?_cons_zero]

end Transition

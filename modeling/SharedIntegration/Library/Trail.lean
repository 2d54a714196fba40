import Mathlib.Data.List.Basic

/-!
# Trails that a state can be replayed from

An audit trail lists what happened to a state. A reader knows how each event changes the state, and whether an
event describes the state before it correctly. If every change appends an event that is faithful to the state at
that time, then the whole trail is faithful, and replaying it gives the state.
-/

/-- How the events of a trail are read. -/
structure TrailReader (State Event : Type*) where
  apply : State → Event → State
  Faithful : State → Event → Prop

namespace TrailReader

variable {State Event : Type*} (reader : TrailReader State Event)

/-- The state that a trail leads to. -/
def replay (initial : State) (events : List Event) : State := events.foldl reader.apply initial

/-- Every event is faithful to the state that the events before it lead to. -/
def FaithfulAlong : State → List Event → Prop
  | _, [] => True
  | s, event :: rest => reader.Faithful s event ∧ FaithfulAlong (reader.apply s event) rest

@[simp] theorem replay_nil (initial : State) : reader.replay initial [] = initial := rfl

/-- One more event changes the state once more. -/
@[simp] theorem replay_concat (initial : State) (events : List Event) (event : Event) :
    reader.replay initial (events ++ [event]) = reader.apply (reader.replay initial events) event :=
  List.foldl_concat reader.apply initial event events

/-- One more event has to be faithful to the state so far. -/
theorem faithfulAlong_concat {initial : State} {events : List Event} {event : Event} :
    reader.FaithfulAlong initial (events ++ [event]) ↔
      reader.FaithfulAlong initial events ∧ reader.Faithful (reader.replay initial events) event := by
  induction events generalizing initial with
  | nil => exact ⟨fun h => ⟨trivial, h.1⟩, fun h => ⟨h.2, trivial⟩⟩
  | cons first rest ih =>
    have hrest := @ih (reader.apply initial first)
    exact ⟨fun h => ⟨⟨h.1, (hrest.mp h.2).1⟩, (hrest.mp h.2).2⟩, fun h => ⟨h.1.1, hrest.mpr ⟨h.1.2, h.2⟩⟩⟩

end TrailReader

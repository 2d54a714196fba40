import Mathlib.Data.List.Basic

/-!
# JSON values

Values are generic in the type of strings, so that texts with unpaired surrogates can be
represented where they matter, and in the type of non-integer numbers. Objects keep their
entries in insertion order, as Python dictionaries do.
-/

/-- A JSON value over arbitrary types of strings and of non-integer numbers. -/
inductive Json (Str Num : Type)
  | null
  | bool (value : Bool)
  | int (value : Int)
  | float (value : Num)
  | str (value : Str)
  | arr (items : List (Json Str Num))
  | obj (entries : List (Str × Json Str Num))

namespace Json

variable {Str Num Value : Type} [DecidableEq Str]

/-- The value a dictionary stores under a key. -/
def getEntry (entries : List (Str × Value)) (key : Str) : Option Value :=
  (entries.find? fun entry => entry.1 = key).map Prod.snd

/-- Assign a key of a dictionary: an existing entry keeps its place and takes the new value. -/
def setEntry (entries : List (Str × Value)) (key : Str) (value : Value) : List (Str × Value) :=
  if entries.any (fun entry => entry.1 = key) then
    entries.map fun entry => if entry.1 = key then (key, value) else entry
  else entries ++ [(key, value)]

/-- A dictionary is not empty after an assignment. -/
theorem setEntry_ne_nil (entries : List (Str × Value)) (key : Str) (value : Value) :
    setEntry entries key value ≠ [] := by
  unfold setEntry
  split
  · next hany =>
    intro hnil
    rw [List.map_eq_nil_iff] at hnil
    rw [hnil] at hany
    cases hany
  · simp

/-- An assignment changes what is stored under its key, and nothing else. -/
theorem getEntry_setEntry (entries : List (Str × Value)) (key other : Str) (value : Value) :
    getEntry (setEntry entries key value) other = if other = key then some value else getEntry entries other := by
  unfold setEntry getEntry
  split
  · next hany =>
    have hsame : ((fun entry : Str × Value => decide (entry.1 = other)) ∘
        fun entry => if entry.1 = key then (key, value) else entry) = fun entry => decide (entry.1 = other) := by
      funext entry
      by_cases hentry : entry.1 = key
      · simp [hentry]
      · simp [hentry]
    rw [List.find?_map, hsame, Option.map_map]
    cases hfind : entries.find? fun entry => decide (entry.1 = other) with
    | none =>
      have hother : other ≠ key := by
        rintro rfl
        obtain ⟨entry, hentry, hkey⟩ := List.any_eq_true.mp hany
        exact List.find?_eq_none.mp hfind entry hentry hkey
      rw [if_neg hother]
      rfl
    | some entry =>
      have hkey := List.find?_some hfind
      rw [decide_eq_true_eq] at hkey
      by_cases hother : other = key
      · simp [hkey, hother]
      · simp [hkey, hother]
  · next hany =>
    have hmissing : other = key → (entries.find? fun entry => decide (entry.1 = other)) = none := by
      rintro rfl
      exact List.find?_eq_none.mpr fun entry hentry hkey => hany (List.any_eq_true.mpr ⟨entry, hentry, hkey⟩)
    by_cases hother : other = key
    · rw [List.find?_append, hmissing hother, if_pos hother]
      simp [hother]
    · rw [List.find?_append, if_neg hother]
      simp [Ne.symm hother]

/-- `value.get(key)` on an object, and nothing on any other value. -/
def get? : Json Str Num → Str → Option (Json Str Num)
  | obj entries, key => getEntry entries key
  | _, _ => none

/-- The string carried by a JSON string. -/
def asStr? : Json Str Num → Option Str
  | str value => some value
  | _ => none

end Json

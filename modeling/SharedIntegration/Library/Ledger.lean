import Mathlib.Data.List.Induction

/-!
# Ledgers and registers of a history

A ledger lists the items that events have issued, without those that a later event dropped and
with a mark on those that a later event marked. A register holds what the latest write to it
left. Both are kept event by event, and both can be read off the history.
-/

variable {Event Item Value : Type*}

/-- The latest value that an event of the history writes. -/
def latest (writes : Event → Option Value) (history : List Event) : Option Value :=
  (history.filterMap writes).getLast?

@[simp] theorem latest_nil (writes : Event → Option Value) : latest writes [] = none := rfl

/-- The last event is the latest that writes, if it writes. -/
theorem latest_concat (writes : Event → Option Value) (history : List Event) (event : Event) :
    latest writes (history ++ [event]) = (writes event).or (latest writes history) := by
  simp only [latest, List.filterMap_append]
  cases h : writes event with
  | none => simp [h]
  | some value => simp [h, List.getLast?_append]

/-- The latest value was written by some event. -/
theorem exists_of_latest {writes : Event → Option Value} {history : List Event} {value : Value}
    (h : latest writes history = some value) : ∃ event ∈ history, writes event = some value :=
  List.mem_filterMap.mp (List.mem_of_getLast? h)

/-- What events do to the items of a ledger. -/
structure Ledger (Event Item : Type*) where
  issues : Event → Option Item
  marks : Event → Item → Bool
  drops : Event → Item → Bool

namespace Ledger

variable (ledger : Ledger Event Item)

/-- Enter one event. -/
def record (entries : List (Item × Bool)) (event : Event) : List (Item × Bool) :=
  ((entries.filter fun entry => !ledger.drops event entry.1).map fun entry =>
    (entry.1, entry.2 || ledger.marks event entry.1)) ++ ((ledger.issues event).map (·, false)).toList

/-- The entries that a history leaves. -/
def entries (history : List Event) : List (Item × Bool) := history.foldl ledger.record []

/-- The history issues the item, and these events come after. -/
def Issued (history : List Event) (item : Item) (after : List Event) : Prop :=
  ∃ before event, history = before ++ event :: after ∧ ledger.issues event = some item

/-- No event drops the item. -/
def Kept (item : Item) (events : List Event) : Prop := ∀ event ∈ events, ledger.drops event item = false

/-- Some event marks the item. -/
def marked (item : Item) (events : List Event) : Bool := events.any fun event => ledger.marks event item

@[simp] theorem entries_nil : ledger.entries [] = [] := rfl

@[simp] theorem entries_concat (history : List Event) (event : Event) :
    ledger.entries (history ++ [event]) = ledger.record (ledger.entries history) event := by
  simp [entries, List.foldl_append]

/-- The last event issues the item, or the item was issued before it. -/
theorem issued_concat_iff {history after : List Event} {event : Event} {item : Item} :
    ledger.Issued (history ++ [event]) item after ↔
      (after = [] ∧ ledger.issues event = some item) ∨
        ∃ after', after = after' ++ [event] ∧ ledger.Issued history item after' := by
  constructor
  · rintro ⟨before, issuing, hhistory, hissues⟩
    rcases List.eq_nil_or_concat after with rfl | ⟨after', last, rfl⟩
    · have hlast := List.append_inj' hhistory rfl
      have heq : event = issuing := List.singleton_inj.mp hlast.2
      exact Or.inl ⟨rfl, heq ▸ hissues⟩
    · have hhistory' : history ++ [event] = (before ++ issuing :: after') ++ [last] := by
        simp [hhistory]
      have hlast := List.append_inj' hhistory' rfl
      have heq : event = last := List.singleton_inj.mp hlast.2
      exact Or.inr ⟨after', by simp [heq], before, issuing, hlast.1, hissues⟩
  · rintro (⟨rfl, hissues⟩ | ⟨after', rfl, before, issuing, rfl, hissues⟩)
    · exact ⟨history, event, rfl, hissues⟩
    · exact ⟨before, issuing, by simp, hissues⟩

/-- Later events come after an issue as well. -/
theorem Issued.extend {history after : List Event} {item : Item} (h : ledger.Issued history item after)
    (later : List Event) : ledger.Issued (history ++ later) item (after ++ later) := by
  obtain ⟨before, event, rfl, hissues⟩ := h
  exact ⟨before, event, by simp, hissues⟩

/-- An entry after an event was there before, not dropped by it, or is issued by it. -/
theorem mem_record_iff {entries : List (Item × Bool)} {event : Event} {item : Item} {flag : Bool} :
    (item, flag) ∈ ledger.record entries event ↔
      (∃ flag', (item, flag') ∈ entries ∧ ledger.drops event item = false ∧
        flag = (flag' || ledger.marks event item)) ∨
      (ledger.issues event = some item ∧ flag = false) := by
  simp only [record, List.mem_append, List.mem_map, List.mem_filter, Option.mem_toList,
    Option.map_eq_some_iff, Prod.mk.injEq]
  constructor
  · rintro (⟨⟨item', flag'⟩, ⟨hmem, hkept⟩, rfl, rfl⟩ | ⟨item', hissues, rfl, rfl⟩)
    · exact Or.inl ⟨flag', hmem, by simpa using hkept, rfl⟩
    · exact Or.inr ⟨hissues, rfl⟩
  · rintro (⟨flag', hmem, hkept, rfl⟩ | ⟨hissues, rfl⟩)
    · exact Or.inl ⟨(item, flag'), ⟨hmem, by simpa using hkept⟩, rfl, rfl⟩
    · exact Or.inr ⟨item, hissues, rfl, rfl⟩

/-- An item is entered exactly if it was issued and kept since; its mark was made since. -/
theorem mem_entries_iff {history : List Event} {item : Item} {flag : Bool} :
    (item, flag) ∈ ledger.entries history ↔
      ∃ after, ledger.Issued history item after ∧ ledger.Kept item after ∧
        flag = ledger.marked item after := by
  induction history using List.reverseRecOn generalizing flag with
  | nil => simp [Issued]
  | append_singleton history event ih =>
    rw [entries_concat, mem_record_iff]
    constructor
    · rintro (⟨flag', hmem, hkept, rfl⟩ | ⟨hissues, rfl⟩)
      · obtain ⟨after, hissued, hkeptAfter, rfl⟩ := ih.mp hmem
        refine ⟨after ++ [event], ledger.issued_concat_iff.mpr (Or.inr ⟨after, rfl, hissued⟩), ?_, ?_⟩
        · intro later hlater
          rcases List.mem_append.mp hlater with hold | hnew
          · exact hkeptAfter later hold
          · rw [List.mem_singleton.mp hnew]
            exact hkept
        · simp [marked]
      · exact ⟨[], ledger.issued_concat_iff.mpr (Or.inl ⟨rfl, hissues⟩), by simp [Kept], rfl⟩
    · rintro ⟨after, hissued, hkept, rfl⟩
      rcases ledger.issued_concat_iff.mp hissued with ⟨rfl, hissues⟩ | ⟨after', rfl, hissued'⟩
      · exact Or.inr ⟨hissues, rfl⟩
      · refine Or.inl ⟨ledger.marked item after', ih.mpr ⟨after', hissued', ?_, rfl⟩, ?_, ?_⟩
        · exact fun later hlater => hkept later (List.mem_append_left _ hlater)
        · exact hkept event (List.mem_append_right _ List.mem_cons_self)
        · simp [marked]

/-- An event that issues, marks and drops nothing leaves the entries alone. -/
theorem record_quiet {entries : List (Item × Bool)} {event : Event} (hissues : ledger.issues event = none)
    (hmarks : ∀ item, ledger.marks event item = false) (hdrops : ∀ item, ledger.drops event item = false) :
    ledger.record entries event = entries := by
  simp [record, hissues, hmarks, hdrops]

/-- An event that issues an item, and marks and drops nothing, appends it. -/
theorem record_issue {entries : List (Item × Bool)} {event : Event} {item : Item}
    (hissues : ledger.issues event = some item) (hmarks : ∀ item, ledger.marks event item = false)
    (hdrops : ∀ item, ledger.drops event item = false) :
    ledger.record entries event = entries ++ [(item, false)] := by
  simp [record, hissues, hmarks, hdrops]

/-- An event that only marks changes marks. -/
theorem record_mark {entries : List (Item × Bool)} {event : Event} (hissues : ledger.issues event = none)
    (hdrops : ∀ item, ledger.drops event item = false) :
    ledger.record entries event =
      entries.map fun entry => (entry.1, entry.2 || ledger.marks event entry.1) := by
  have hall : (entries.filter fun entry => !ledger.drops event entry.1) = entries :=
    List.filter_eq_self.mpr fun entry _ => by simp [hdrops]
  simp [record, hissues, hall]

/-- An event that only drops leaves the other entries. -/
theorem record_drop {entries : List (Item × Bool)} {event : Event} (hissues : ledger.issues event = none)
    (hmarks : ∀ item, ledger.marks event item = false) :
    ledger.record entries event = entries.filter fun entry => !ledger.drops event entry.1 := by
  simp [record, hissues, hmarks]

/-- What is stored for an entry, with its mark. -/
def image {Stored : Type*} (stored : Item → Stored) (entry : Item × Bool) : Stored × Bool :=
  (stored entry.1, entry.2)

section Rows

variable {Row Stored : Type*} {stored : Item → Stored} {entered : Row → Stored × Bool} {rows : List Row}
  {entries : List (Item × Bool)} {event : Event}

/-- Rows that stand for the entries still do after the row of an issued item is appended. -/
theorem map_record_issue {item : Item} {row : Row} (hrows : rows.map entered = entries.map (image stored))
    (hissues : ledger.issues event = some item) (hmarks : ∀ item, ledger.marks event item = false)
    (hdrops : ∀ item, ledger.drops event item = false) (hrow : entered row = (stored item, false)) :
    (rows ++ [row]).map entered = (ledger.record entries event).map (image stored) := by
  rw [ledger.record_issue hissues hmarks hdrops, List.map_append, List.map_append, hrows]
  simp [image, hrow]

/-- Rows that stand for the entries still do after the rows of marked items are changed. -/
theorem map_record_mark (mark : Stored → Bool) {change : Row → Row}
    (hrows : rows.map entered = entries.map (image stored)) (hissues : ledger.issues event = none)
    (hdrops : ∀ item, ledger.drops event item = false)
    (hmark : ∀ item, ledger.marks event item = mark (stored item))
    (hchange : ∀ row ∈ rows, entered (change row) = ((entered row).1, (entered row).2 || mark (entered row).1)) :
    (rows.map change).map entered = (ledger.record entries event).map (image stored) := by
  have hmarked : ((fun s : Stored × Bool => (s.1, s.2 || mark s.1)) ∘ image stored) =
      image stored ∘ fun entry => (entry.1, entry.2 || ledger.marks event entry.1) := by
    funext entry
    simp [image, hmark]
  calc (rows.map change).map entered
      = rows.map fun row => ((entered row).1, (entered row).2 || mark (entered row).1) := by
        rw [List.map_map]
        exact List.map_congr_left hchange
    _ = (rows.map entered).map fun s => (s.1, s.2 || mark s.1) := by rw [List.map_map]; rfl
    _ = (ledger.record entries event).map (image stored) := by
        rw [hrows, ledger.record_mark hissues hdrops, List.map_map, List.map_map, hmarked]

/-- Rows that stand for the entries still do after the rows of dropped items are deleted. -/
theorem map_record_drop (dropped : Stored → Bool) {drop : Row → Bool}
    (hrows : rows.map entered = entries.map (image stored))
    (hissues : ledger.issues event = none) (hmarks : ∀ item, ledger.marks event item = false)
    (hdrop : ∀ row, drop row = dropped (entered row).1)
    (hdrops : ∀ item, ledger.drops event item = dropped (stored item)) :
    (rows.filter fun row => !drop row).map entered = (ledger.record entries event).map (image stored) := by
  have hleft : (fun row => !drop row) = (fun s : Stored × Bool => !dropped s.1) ∘ entered := by
    funext row
    simp [hdrop]
  have hright : (fun entry : Item × Bool => !ledger.drops event entry.1) =
      (fun s : Stored × Bool => !dropped s.1) ∘ image stored := by
    funext entry
    simp [image, hdrops]
  rw [ledger.record_drop hissues hmarks, hleft, hright, ← List.filter_map, ← List.filter_map, hrows]

/-- Rows that stand for the entries still do after an event that leaves the ledger alone. -/
theorem map_record_quiet (hrows : rows.map entered = entries.map (image stored))
    (hissues : ledger.issues event = none) (hmarks : ∀ item, ledger.marks event item = false)
    (hdrops : ∀ item, ledger.drops event item = false) :
    rows.map entered = (ledger.record entries event).map (image stored) := by
  rw [ledger.record_quiet hissues hmarks hdrops, hrows]

/-- A row stands for an item that was issued and kept since; its mark was made since. -/
theorem exists_of_row {history : List Event} {row : Row}
    (hrows : rows.map entered = (ledger.entries history).map (image stored)) (hrow : row ∈ rows) :
    ∃ item after, ledger.Issued history item after ∧ ledger.Kept item after ∧
      entered row = (stored item, ledger.marked item after) := by
  have hmem : entered row ∈ rows.map entered := List.mem_map_of_mem hrow
  rw [hrows] at hmem
  obtain ⟨⟨item, flag⟩, hentry, heq⟩ := List.mem_map.mp hmem
  obtain ⟨after, hissued, hkept, rfl⟩ := ledger.mem_entries_iff.mp hentry
  exact ⟨item, after, hissued, hkept, heq.symm⟩

/-- An item that was issued and kept since has a row. -/
theorem exists_row {history after : List Event} {item : Item}
    (hrows : rows.map entered = (ledger.entries history).map (image stored))
    (hissued : ledger.Issued history item after) (hkept : ledger.Kept item after) :
    ∃ row ∈ rows, entered row = (stored item, ledger.marked item after) := by
  have hentry := ledger.mem_entries_iff.mpr ⟨after, hissued, hkept, rfl⟩
  have hmem := List.mem_map_of_mem (f := image stored) hentry
  rw [← hrows] at hmem
  exact List.mem_map.mp hmem

end Rows

end Ledger

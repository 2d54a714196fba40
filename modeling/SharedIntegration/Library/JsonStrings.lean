import SharedIntegration.Library.TextFile

/-!
# The strings of JSON values

A text that is written without escaping other characters than controls holds the characters of the strings
of its value, names included, and besides them only characters that can be encoded. So the strings decide
whether the text can be encoded.
-/

namespace Json

variable {Str Num : Type}

mutual

/-- All strings of the value pass the test, the names of its members included. -/
def allStrings (test : Str → Bool) : Json Str Num → Bool
  | null | bool _ | int _ | float _ => true
  | str value => test value
  | arr items => allItems test items
  | obj entries => allMembers test entries

/-- All strings of the items pass the test. -/
def allItems (test : Str → Bool) : List (Json Str Num) → Bool
  | [] => true
  | item :: rest => allStrings test item && allItems test rest

/-- All names of the members and all strings of their values pass the test. -/
def allMembers (test : Str → Bool) : List (Str × Json Str Num) → Bool
  | [] => true
  | (name, value) :: rest => (test name && allStrings test value) && allMembers test rest

end

mutual

/-- The value with its strings and floats as they are spelled. -/
def spelled (writer : Writer Str Num) : Json Str Num → JsonValue
  | null => null
  | bool value => bool value
  | int value => int value
  | float value => float (writer.number value)
  | str value => str (writer.text value)
  | arr items => arr (spelledItems writer items)
  | obj entries => obj (spelledMembers writer entries)

/-- Items as they are spelled. -/
def spelledItems (writer : Writer Str Num) : List (Json Str Num) → List JsonValue
  | [] => []
  | item :: rest => spelled writer item :: spelledItems writer rest

/-- Members as they are spelled. -/
def spelledMembers (writer : Writer Str Num) : List (Str × Json Str Num) → List (PyText × JsonValue)
  | [] => []
  | (name, value) :: rest => (writer.text name, spelled writer value) :: spelledMembers writer rest

end

/-- Items pass the test one by one. -/
theorem allItems_iff {test : Str → Bool} {items : List (Json Str Num)} :
    allItems test items = true ↔ ∀ item ∈ items, allStrings test item = true := by
  induction items with
  | nil => simp [allItems]
  | cons item rest ih => simp [allItems, ih]

/-- So do members. -/
theorem allMembers_iff {test : Str → Bool} {entries : List (Str × Json Str Num)} :
    allMembers test entries = true ↔ ∀ entry ∈ entries, test entry.1 = true ∧ allStrings test entry.2 = true := by
  induction entries with
  | nil => simp [allMembers]
  | cons entry rest ih => simp [allMembers, ih]

/-! ### Characters that can be encoded -/

/-- The texts that can be encoded are those without surrogates. -/
theorem isSome_encodeUtf8_iff {text : PyText} : (PyText.encodeUtf8 text).isSome = true ↔ IsScalar text := by
  constructor
  · intro h
    obtain ⟨bytes, hbytes⟩ := Option.isSome_iff_exists.mp h
    obtain ⟨chars, hchars, -⟩ := Option.map_eq_some_iff.mp hbytes
    rw [← PyText.map_of_chars? hchars]
    intro c hc
    obtain ⟨char, -, rfl⟩ := List.mem_map.mp hc
    exact char.valid
  · intro h
    obtain ⟨bytes, hbytes⟩ := PyText.exists_encodeUtf8 h
    exact Option.isSome_iff_exists.mpr ⟨bytes, hbytes⟩

/-- A text in two parts. -/
theorem isScalar_append {text text' : PyText} : IsScalar (text ++ text') ↔ IsScalar text ∧ IsScalar text' :=
  List.forall_mem_append

/-- A text and its first character. -/
theorem isScalar_cons {c : ℕ} {text : PyText} : IsScalar (c :: text) ↔ c.isValidChar ∧ IsScalar text :=
  List.forall_mem_cons

/-- Characters of numbers are no surrogates. -/
theorem isScalar_of_number {text : PyText} (h : ∀ c ∈ text, isNumberChar c = true) : IsScalar text := by
  intro c hc
  have hchar := h c hc
  simp only [isNumberChar, JsonText.isDigit, Bool.or_eq_true, Bool.and_eq_true, decide_eq_true_eq] at hchar
  exact .inl (by omega)

/-- An escape has a surrogate in it exactly if it is one. -/
theorem isScalar_escape {c : ℕ} : IsScalar (escape c) ↔ c.isValidChar := by
  have hascii : ∀ c < 128, ∀ d ∈ escape c, d < 0xd800 := by decide
  by_cases hc : c < 128
  · exact ⟨fun _ => .inl (by omega), fun _ d hd => .inl (hascii c hc d hd)⟩
  · have hplain : escape c = [c] := by
      unfold escape
      repeat rw [if_neg (by omega)]
    rw [hplain]
    exact List.forall_mem_singleton

/-- A string in quotes can be encoded exactly if the string can. -/
theorem isScalar_quote {text : PyText} : IsScalar (quote text) ↔ IsScalar text := by
  have hbody : IsScalar (text.flatMap escape) ↔ IsScalar text := by
    constructor
    · exact fun h c hc => isScalar_escape.mp fun d hd => h d (List.mem_flatMap.mpr ⟨c, hc, hd⟩)
    · intro h d hd
      obtain ⟨c, hc, hd⟩ := List.mem_flatMap.mp hd
      exact isScalar_escape.mpr (h c hc) d hd
  rw [quote, isScalar_cons, isScalar_append, hbody]
  exact ⟨fun h => h.2.1, fun h => ⟨.inl (by decide), h, List.forall_mem_singleton.mpr (.inl (by decide))⟩⟩

/-- Parts with commas between them can be encoded exactly if each part can. -/
theorem isScalar_commaJoin {parts : List PyText} : IsScalar (commaJoin parts) ↔ ∀ part ∈ parts, IsScalar part := by
  cases parts with
  | nil => simp [commaJoin, IsScalar]
  | cons first rest =>
    have hrest : IsScalar (rest.flatMap fun part => 44 :: part) ↔ ∀ part ∈ rest, IsScalar part := by
      constructor
      · exact fun h part hpart c hc => h c (List.mem_flatMap.mpr ⟨part, hpart, List.mem_cons_of_mem 44 hc⟩)
      · intro h c hc
        obtain ⟨part, hpart, hc⟩ := List.mem_flatMap.mp hc
        rcases List.mem_cons.mp hc with rfl | hc
        · exact .inl (by decide)
        · exact h part hpart c hc
    rw [commaJoin_cons, isScalar_append, hrest, List.forall_mem_cons]

/-- A container can be encoded exactly if its content can. -/
theorem isScalar_brackets {left right : ℕ} {text : PyText} (hleft : left < 0xd800) (hright : right < 0xd800) :
    IsScalar (left :: (text ++ [right])) ↔ IsScalar text := by
  rw [isScalar_cons, isScalar_append]
  exact ⟨fun h => h.2.1, fun h => ⟨.inl hleft, h, List.forall_mem_singleton.mpr (.inl hright)⟩⟩

section Rendering

variable (writer : Writer Str Num)

/-- A string can be encoded as it is spelled. -/
def Writer.encodable (value : Str) : Bool := (PyText.encodeUtf8 (writer.text value)).isSome

/-- A canonical text can be encoded exactly if all strings of its value can. -/
theorem isScalar_render_iff (value : Json Str Num) :
    IsScalar (render writer value) ↔ value.allStrings writer.encodable = true := by
  have hword : ∀ word ∈ [PyText.of "null", PyText.of "true", PyText.of "false"], ∀ c ∈ word, c < 0xd800 := by decide
  induction value using induction with
  | null => exact ⟨fun _ => rfl, fun _ c hc => .inl (hword (.of "null") (by simp) c hc)⟩
  | bool value =>
    refine ⟨fun _ => rfl, fun _ c hc => .inl ?_⟩
    cases value with
    | false => exact hword (.of "false") (by simp) c hc
    | true => exact hword (.of "true") (by simp) c hc
  | int value => exact ⟨fun _ => rfl, fun _ => isScalar_of_number (intText_chars value)⟩
  | float value => exact ⟨fun _ => rfl, fun _ => isScalar_of_number (number_chars writer value)⟩
  | str value => rw [render, isScalar_quote, allStrings, Writer.encodable, isSome_encodeUtf8_iff]
  | arr items ih =>
    rw [render, isScalar_brackets (by decide) (by decide), isScalar_commaJoin, renderItems_eq, List.forall_mem_map,
      allStrings, allItems_iff]
    exact forall₂_congr ih
  | obj entries ih =>
    have hmember : ∀ entry ∈ entries, IsScalar (member (renderEntry writer entry)) ↔
        writer.encodable entry.1 = true ∧ entry.2.allStrings writer.encodable = true := by
      intro entry hentry
      have hvalue : IsScalar (render writer entry.2) ↔ entry.2.allStrings writer.encodable = true := ih entry hentry
      rw [member, isScalar_append, isScalar_quote, isScalar_cons, renderEntry, hvalue, Writer.encodable,
        isSome_encodeUtf8_iff]
      exact and_congr_right fun _ => and_iff_right (.inl (by decide))
    rw [render, isScalar_brackets (by decide) (by decide), isScalar_commaJoin, List.forall_mem_map,
      sortMembers, renderEntries_eq, allStrings, allMembers_iff]
    simp only [List.mem_insertionSort, List.forall_mem_map]
    exact forall₂_congr hmember

/-- A value has canonical bytes exactly if it can be written and all of its strings can be encoded. -/
theorem isSome_encode_dumps_iff {nesting : ℕ} {value : Json Str Num} :
    ((dumps writer nesting value).bind PyText.encodeUtf8).isSome = true ↔
      value.writable nesting = true ∧ value.allStrings writer.encodable = true := by
  rw [← isScalar_render_iff, ← isSome_encodeUtf8_iff, dumps]
  split
  · next hwritable => exact ⟨fun h => ⟨hwritable, h⟩, fun h => h.2⟩
  · next hwritable => exact ⟨nofun, fun h => absurd h.1 hwritable⟩

end Rendering

end Json

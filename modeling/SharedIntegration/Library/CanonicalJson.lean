import SharedIntegration.Library.JsonText
import SharedIntegration.Library.Ordering
import Mathlib.Algebra.Group.Nat.Defs
import Mathlib.Data.List.Lex
import Mathlib.Data.List.Forall2
import Mathlib.Data.Option.Basic

/-!
# Canonical JSON texts

`json.dumps` with `sort_keys=True`, `separators=(",", ":")` and `ensure_ascii=False`: one text for each
value, however the members of its objects are ordered. Different values have different texts, because a
text tells where it ends: a string at its closing quote, a container at its bracket, and a number before
the first character that no number has. How strings and floats are spelled is a parameter.
-/

namespace Json

variable {Str Num : Type}

/-- How floats are spelled: different ones differently, and with a point or an exponent, which no integer
has. -/
structure NumberWriter (Num : Type) where
  number : Num → PyText
  number_injective : Function.Injective number
  number_starts : ∀ x, ∃ c rest, number x = c :: rest ∧ (JsonText.isDigit c = true ∨ c = 45)
  number_chars : ∀ x, ∀ c ∈ number x, JsonText.isDigit c = true ∨ c = 43 ∨ c = 45 ∨ c = 46 ∨ c = 101
  number_float : ∀ x, 46 ∈ number x ∨ 101 ∈ number x

/-- How strings are spelled as well. -/
structure Writer (Str Num : Type) extends NumberWriter Num where
  text : Str → PyText
  text_injective : Function.Injective text

/-- `int.__repr__`. -/
def intText : ℤ → PyText
  | .ofNat n => (Nat.toDigits 10 n).map Char.toNat
  | .negSucc n => 45 :: (Nat.toDigits 10 (n + 1)).map Char.toNat

/-- A hexadecimal digit. -/
def hexDigit (n : ℕ) : ℕ := if n < 10 then 48 + n else 87 + n

/-- One character inside quotes. -/
def escape (c : ℕ) : PyText :=
  if c = 34 then [92, 34]
  else if c = 92 then [92, 92]
  else if c = 8 then [92, 98]
  else if c = 12 then [92, 102]
  else if c = 10 then [92, 110]
  else if c = 13 then [92, 114]
  else if c = 9 then [92, 116]
  else if c < 32 then [92, 117, 48, 48, hexDigit (c / 16), hexDigit (c % 16)]
  else [c]

/-- A string in quotes. -/
def quote (text : PyText) : PyText := 34 :: (text.flatMap escape ++ [34])

/-- Members in the order of their names. -/
def sortMembers (members : List (PyText × PyText)) : List (PyText × PyText) :=
  members.insertionSort fun a b => a.1 ≤ b.1

/-- Parts with commas between them. -/
def commaJoin : List PyText → PyText
  | [] => []
  | [last] => last
  | first :: rest => first ++ 44 :: commaJoin rest

/-- A member of an object. -/
def member (entry : PyText × PyText) : PyText := quote entry.1 ++ 58 :: entry.2

mutual

/-- The canonical text of a value. -/
def render (writer : Writer Str Num) : Json Str Num → PyText
  | null => .of "null"
  | bool value => if value then .of "true" else .of "false"
  | int value => intText value
  | float value => writer.number value
  | str value => quote (writer.text value)
  | arr items => 91 :: (commaJoin (renderItems writer items) ++ [93])
  | obj entries => 123 :: (commaJoin ((sortMembers (renderEntries writer entries)).map member) ++ [125])

/-- The texts of items. -/
def renderItems (writer : Writer Str Num) : List (Json Str Num) → List PyText
  | [] => []
  | item :: rest => render writer item :: renderItems writer rest

/-- The names and the texts of members. -/
def renderEntries (writer : Writer Str Num) : List (Str × Json Str Num) → List (PyText × PyText)
  | [] => []
  | (name, value) :: rest => (writer.text name, render writer value) :: renderEntries writer rest

end

mutual

/-- The value can be written: its containers are nested at most so deep, and no integer has too many digits. -/
def writable : Json Str Num → (nesting : ℕ) → Bool
  | null, _ | bool _, _ | float _, _ | str _, _ => true
  | int value, _ => value.natAbs < 10 ^ JsonText.maxDigits
  | arr items, nesting => 0 < nesting && writableItems items (nesting - 1)
  | obj entries, nesting => 0 < nesting && writableEntries entries (nesting - 1)

/-- All items can be written. -/
def writableItems : List (Json Str Num) → ℕ → Bool
  | [], _ => true
  | item :: rest, nesting => writable item nesting && writableItems rest nesting

/-- All members can be written. -/
def writableEntries : List (Str × Json Str Num) → ℕ → Bool
  | [], _ => true
  | (_, value) :: rest, nesting => writable value nesting && writableEntries rest nesting

end

/-- `json.dumps`; nothing means that it raises. -/
def dumps (writer : Writer Str Num) (nesting : ℕ) (value : Json Str Num) : Option PyText :=
  if value.writable nesting then some (render writer value) else none

/-- Names are unique in every object. -/
inductive WellFormed : Json Str Num → Prop
  | null : WellFormed null
  | bool (value : Bool) : WellFormed (bool value)
  | int (value : Int) : WellFormed (int value)
  | float (value : Num) : WellFormed (float value)
  | str (value : Str) : WellFormed (str value)
  | arr {items : List (Json Str Num)} (hitems : ∀ item ∈ items, WellFormed item) : WellFormed (arr items)
  | obj {entries : List (Str × Json Str Num)} (hnames : (entries.map Prod.fst).Nodup)
    (hvalues : ∀ entry ∈ entries, WellFormed entry.2) : WellFormed (obj entries)

/-- The same value: objects have the same members, in any order. -/
inductive Same [DecidableEq Str] : Json Str Num → Json Str Num → Prop
  | null : Same null null
  | bool (value : Bool) : Same (bool value) (bool value)
  | int (value : Int) : Same (int value) (int value)
  | float (value : Num) : Same (float value) (float value)
  | str (value : Str) : Same (str value) (str value)
  | arr {items items' : List (Json Str Num)} (hitems : List.Forall₂ Same items items') :
    Same (arr items) (arr items')
  | obj {entries entries' : List (Str × Json Str Num)}
    (hvalues : ∀ name, Option.Rel Same (getEntry entries name) (getEntry entries' name)) :
    Same (obj entries) (obj entries')

/-! ### Strings -/

/-- A short escape is scanned as the character that it stands for. -/
theorem scanPieces_short {e c : ℕ} (h : JsonText.escape? e = some c) (rest : PyText) :
    JsonText.scanPieces (92 :: e :: rest) =
      (JsonText.scanPieces rest).map fun scanned => ((false, c) :: scanned.1, scanned.2) := by
  have hunicode : e ≠ 117 := by
    rintro rfl
    cases h
  rw [JsonText.scanPieces, h, Option.map_eq_bind]
  · rfl
  · exact fun _ _ _ _ _ he => absurd he hunicode

/-- An escaped character is scanned as that character. -/
theorem scanPieces_escape (c : ℕ) (rest : PyText) : ∃ escaped, JsonText.scanPieces (escape c ++ rest) =
    (JsonText.scanPieces rest).map fun scanned => ((escaped, c) :: scanned.1, scanned.2) := by
  have hunit : ∀ c < 32, JsonText.codeUnit? 48 48 (hexDigit (c / 16)) (hexDigit (c % 16)) = some c := by decide
  unfold escape
  split_ifs with hquote hbackslash hb hf hn hr ht hcontrol
  · subst hquote
    exact ⟨false, scanPieces_short rfl rest⟩
  · subst hbackslash
    exact ⟨false, scanPieces_short rfl rest⟩
  · subst hb
    exact ⟨false, scanPieces_short rfl rest⟩
  · subst hf
    exact ⟨false, scanPieces_short rfl rest⟩
  · subst hn
    exact ⟨false, scanPieces_short rfl rest⟩
  · subst hr
    exact ⟨false, scanPieces_short rfl rest⟩
  · subst ht
    exact ⟨false, scanPieces_short rfl rest⟩
  · refine ⟨true, ?_⟩
    simp only [List.cons_append, List.nil_append]
    rw [JsonText.scanPieces, hunit c hcontrol, Option.map_eq_bind]
    rfl
  · refine ⟨false, ?_⟩
    rw [List.singleton_append, JsonText.scanPieces, if_neg (by omega), Option.map_eq_bind]
    · rfl
    · exact hquote
    · exact fun _ _ _ _ _ hc => absurd hc hbackslash
    · exact fun _ _ hc => absurd hc hbackslash

/-- A string in quotes is scanned up to its closing quote. -/
theorem scanPieces_quoted (text rest : PyText) : ∃ pieces,
    JsonText.scanPieces (text.flatMap escape ++ 34 :: rest) = some (pieces, rest) ∧ pieces.map Prod.snd = text := by
  induction text with
  | nil => exact ⟨[], by simp [JsonText.scanPieces], rfl⟩
  | cons c text ih =>
    obtain ⟨pieces, hscan, htext⟩ := ih
    obtain ⟨escaped, hescape⟩ := scanPieces_escape c (text.flatMap escape ++ 34 :: rest)
    refine ⟨(escaped, c) :: pieces, ?_, by rw [List.map_cons, htext]⟩
    rw [List.flatMap_cons, List.append_assoc, hescape, hscan, Option.map_some]

/-- A string and what follows it are told apart. -/
theorem quote_append_inj {text text' rest rest' : PyText} (h : quote text ++ rest = quote text' ++ rest') :
    text = text' ∧ rest = rest' := by
  obtain ⟨pieces, hscan, htext⟩ := scanPieces_quoted text rest
  obtain ⟨pieces', hscan', htext'⟩ := scanPieces_quoted text' rest'
  have htail : text.flatMap escape ++ 34 :: rest = text'.flatMap escape ++ 34 :: rest' := by
    simpa [quote] using h
  rw [htail, hscan', Option.some.injEq, Prod.mk.injEq] at hscan
  rw [← htext, ← htext', hscan.1, hscan.2]
  exact ⟨rfl, rfl⟩

/-! ### Numbers -/

/-- A character of a number. -/
def isNumberChar (c : ℕ) : Bool := JsonText.isDigit c || c = 43 || c = 45 || c = 46 || c = 101

/-- What follows does not go on with a number. -/
def Stops (rest : PyText) : Prop := ∀ c ∈ rest.head?, isNumberChar c = false

/-- A number and what follows it are told apart. -/
theorem number_append_inj {number number' rest rest' : PyText} (hnumber : ∀ c ∈ number, isNumberChar c = true)
    (hnumber' : ∀ c ∈ number', isNumberChar c = true) (hrest : Stops rest) (hrest' : Stops rest')
    (h : number ++ rest = number' ++ rest') : number = number' ∧ rest = rest' := by
  have hstop : ∀ {rest : PyText}, Stops rest → rest.takeWhile isNumberChar = [] := by
    intro rest hrest
    cases rest with
    | nil => rfl
    | cons c rest => exact List.takeWhile_cons_of_neg (by simp [hrest c rfl])
  have htake := congrArg (List.takeWhile isNumberChar) h
  rw [List.takeWhile_append_of_pos hnumber, List.takeWhile_append_of_pos hnumber', hstop hrest, hstop hrest',
    List.append_nil, List.append_nil] at htake
  exact ⟨htake, List.append_cancel_left (htake ▸ h)⟩

/-- The digits of a natural number. -/
theorem isDigit_of_mem_digits {n c : ℕ} (h : c ∈ (Nat.toDigits 10 n).map Char.toNat) :
    JsonText.isDigit c = true := by
  obtain ⟨d, hd, rfl⟩ := List.mem_map.mp h
  have hdigit := Nat.isDigit_of_mem_toDigits (by decide) (by decide) hd
  simp only [Char.isDigit, Bool.and_eq_true, decide_eq_true_eq, ge_iff_le, UInt32.le_iff_toNat_le] at hdigit
  have hval : d.toNat = d.val.toNat := rfl
  simp at hdigit
  simp [JsonText.isDigit]
  omega

/-- Different natural numbers have different digits. -/
theorem digits_injective : Function.Injective fun n => (Nat.toDigits 10 n).map Char.toNat := by
  intro n n' h
  have hdigits : Nat.toDigits 10 n = Nat.toDigits 10 n' :=
    List.map_injective_iff.mpr (fun _ _ => Char.toNat_inj.mp) h
  rw [← Nat.ofDigitChars_ten_toDigits (n := n), hdigits, Nat.ofDigitChars_ten_toDigits]

/-- An integer begins with a digit or a minus, and has digits behind it. -/
theorem intText_starts (value : ℤ) : ∃ c rest, intText value = c :: rest ∧ (JsonText.isDigit c = true ∨ c = 45) ∧
    ∀ d ∈ rest, JsonText.isDigit d = true := by
  cases value with
  | ofNat n =>
    cases hdigits : (Nat.toDigits 10 n).map Char.toNat with
    | nil => exact absurd (List.map_eq_nil_iff.mp hdigits) Nat.toDigits_ne_nil
    | cons c rest =>
      have hall : ∀ d ∈ c :: rest, JsonText.isDigit d = true := fun d hd => isDigit_of_mem_digits (hdigits ▸ hd)
      exact ⟨c, rest, hdigits, .inl (hall c List.mem_cons_self), fun d hd => hall d (List.mem_cons_of_mem c hd)⟩
  | negSucc n => exact ⟨45, _, rfl, .inr rfl, fun d hd => isDigit_of_mem_digits hd⟩

/-- Different integers have different texts. -/
theorem intText_injective : Function.Injective intText := by
  have hsign : ∀ n (rest : PyText), (Nat.toDigits 10 n).map Char.toNat ≠ 45 :: rest := by
    intro n rest h
    have hdigit := @isDigit_of_mem_digits n 45 (h ▸ List.mem_cons_self)
    exact absurd hdigit (by decide)
  intro value value' h
  cases value with
  | ofNat n =>
    cases value' with
    | ofNat n' => rw [digits_injective h]
    | negSucc n' => exact absurd h (hsign n _)
  | negSucc n =>
    cases value' with
    | ofNat n' => exact absurd h.symm (hsign n' _)
    | negSucc n' => rw [Nat.succ_injective (digits_injective (List.cons.inj h).2)]

/-! ### Parts between commas -/

/-- Every part but the first follows a comma. -/
theorem commaJoin_cons (first : PyText) (rest : List PyText) :
    commaJoin (first :: rest) = first ++ rest.flatMap fun part => 44 :: part := by
  induction rest generalizing first with
  | nil => exact (List.append_nil first).symm
  | cons second rest ih =>
    rw [commaJoin, ih, List.flatMap_cons, List.cons_append]
    exact fun hnil => absurd hnil (List.cons_ne_nil second rest)

section Parts

variable {Part Part' : Type} {spell : Part → PyText} {spell' : Part' → PyText} {related : Part → Part' → Prop} {close : ℕ}

/-- Two parts are told apart from what follows them. -/
def Separates (spell : Part → PyText) (spell' : Part' → PyText) (related : Part → Part' → Prop) (part : Part)
    (part' : Part') : Prop :=
  ∀ rest rest', Stops rest → Stops rest' → spell part ++ rest = spell' part' ++ rest' → related part part' ∧ rest = rest'

/-- What follows a part goes on with a comma or the closing bracket. -/
theorem stops_parts (hclose : isNumberChar close = false) (parts : List PyText) (rest : PyText) :
    Stops ((parts.flatMap fun part => 44 :: part) ++ close :: rest) := by
  cases parts with
  | nil =>
    rintro c ⟨⟩
    exact hclose
  | cons part parts =>
    rintro c ⟨⟩
    rfl

/-- The parts behind the first, and what follows the closing bracket. -/
theorem flatMap_append_inj (hclose : isNumberChar close = false) (hcomma : close ≠ 44) {parts : List Part}
    {parts' : List Part'} (hparts : ∀ part ∈ parts, ∀ part' ∈ parts', Separates spell spell' related part part')
    {rest rest' : PyText} (h : ((parts.map spell).flatMap fun part => 44 :: part) ++ close :: rest =
      ((parts'.map spell').flatMap fun part => 44 :: part) ++ close :: rest') :
    List.Forall₂ related parts parts' ∧ rest = rest' := by
  induction parts generalizing parts' with
  | nil =>
    cases parts' with
    | nil => exact ⟨.nil, (List.cons.inj h).2⟩
    | cons part' parts' => exact absurd (List.cons.inj h).1 hcomma
  | cons part parts ih =>
    cases parts' with
    | nil => exact absurd (List.cons.inj h).1.symm hcomma
    | cons part' parts' =>
      simp only [List.map_cons, List.flatMap_cons, List.cons_append, List.append_assoc, List.cons.injEq,
        true_and] at h
      obtain ⟨hrelated, hrest⟩ := hparts part List.mem_cons_self part' List.mem_cons_self _ _
        (stops_parts hclose _ _) (stops_parts hclose _ _) h
      obtain ⟨htail, hend⟩ := ih (fun a ha a' ha' => hparts a (List.mem_cons_of_mem part ha) a'
        (List.mem_cons_of_mem part' ha')) hrest
      exact ⟨.cons hrelated htail, hend⟩

/-- The parts of a container, and what follows its closing bracket. -/
theorem commaJoin_append_inj (hclose : isNumberChar close = false) (hcomma : close ≠ 44) {parts : List Part}
    {parts' : List Part'} (hparts : ∀ part ∈ parts, ∀ part' ∈ parts', Separates spell spell' related part part')
    (hhead : ∀ part, ∃ c tail, spell part = c :: tail ∧ c ≠ close)
    (hhead' : ∀ part, ∃ c tail, spell' part = c :: tail ∧ c ≠ close) {rest rest' : PyText}
    (h : commaJoin (parts.map spell) ++ close :: rest = commaJoin (parts'.map spell') ++ close :: rest') :
    List.Forall₂ related parts parts' ∧ rest = rest' := by
  cases parts with
  | nil =>
    cases parts' with
    | nil => exact ⟨.nil, (List.cons.inj h).2⟩
    | cons part' parts' =>
      obtain ⟨c, tail, hspell, hne⟩ := hhead' part'
      rw [List.map_cons, commaJoin_cons, hspell] at h
      exact absurd (List.cons.inj h).1.symm hne
  | cons part parts =>
    cases parts' with
    | nil =>
      obtain ⟨c, tail, hspell, hne⟩ := hhead part
      rw [List.map_cons, commaJoin_cons, hspell] at h
      exact absurd (List.cons.inj h).1 hne
    | cons part' parts' =>
      rw [List.map_cons, List.map_cons, commaJoin_cons, commaJoin_cons, List.append_assoc, List.append_assoc] at h
      obtain ⟨hrelated, hrest⟩ := hparts part List.mem_cons_self part' List.mem_cons_self _ _
        (stops_parts hclose _ _) (stops_parts hclose _ _) h
      obtain ⟨htail, hend⟩ := flatMap_append_inj hclose hcomma (fun a ha a' ha' =>
        hparts a (List.mem_cons_of_mem part ha) a' (List.mem_cons_of_mem part' ha')) hrest
      exact ⟨.cons hrelated htail, hend⟩

end Parts

/-! ### Values -/

/-- What holds of a container if it holds of its values holds of every value. -/
theorem induction {motive : Json Str Num → Prop} (null : motive null) (bool : ∀ value, motive (bool value))
    (int : ∀ value, motive (int value)) (float : ∀ value, motive (float value)) (str : ∀ value, motive (str value))
    (arr : ∀ items, (∀ item ∈ items, motive item) → motive (arr items))
    (obj : ∀ entries, (∀ entry ∈ entries, motive entry.2) → motive (obj entries)) :
    ∀ value, motive value
  | .null => null
  | .bool value => bool value
  | .int value => int value
  | .float value => float value
  | .str value => str value
  | .arr items => arr items fun item _ => induction null bool int float str arr obj item
  | .obj entries => obj entries fun entry _ => induction null bool int float str arr obj entry.2
termination_by value => sizeOf value
decreasing_by
  · have hsize := List.sizeOf_lt_of_mem ‹item ∈ items›
    simp only [Json.arr.sizeOf_spec]
    omega
  · have hsize := List.sizeOf_lt_of_mem ‹entry ∈ entries›
    have hentry' : sizeOf entry = 1 + sizeOf entry.1 + sizeOf entry.2 := rfl
    simp only [Json.obj.sizeOf_spec]
    omega

section Rendering

variable (writer : Writer Str Num)

/-- The texts of items, one by one. -/
theorem renderItems_eq (items : List (Json Str Num)) : renderItems writer items = items.map (render writer) := by
  induction items with
  | nil => rfl
  | cons item rest ih => rw [renderItems, ih, List.map_cons]

/-- The name and the text of a member. -/
def renderEntry (entry : Str × Json Str Num) : PyText × PyText := (writer.text entry.1, render writer entry.2)

/-- The texts of members, one by one. -/
theorem renderEntries_eq (entries : List (Str × Json Str Num)) :
    renderEntries writer entries = entries.map (renderEntry writer) := by
  induction entries with
  | nil => rfl
  | cons entry rest ih => rw [renderEntries, ih, List.map_cons, renderEntry]

/-- Members in the order of the texts of their names. -/
def sortEntries (entries : List (Str × Json Str Num)) : List (Str × Json Str Num) :=
  entries.insertionSort fun a b => writer.text a.1 ≤ writer.text b.1

/-- Sorting the texts of members is sorting the members. -/
theorem sortMembers_renderEntries (entries : List (Str × Json Str Num)) :
    sortMembers (renderEntries writer entries) = (sortEntries writer entries).map (renderEntry writer) := by
  rw [renderEntries_eq, sortMembers, sortEntries]
  exact (List.map_insertionSort _ _ (renderEntry writer) entries fun _ _ _ _ => Iff.rfl).symm

/-- Members with unique names have texts with unique names. -/
theorem nodup_names {entries : List (Str × Json Str Num)} (hnames : (entries.map Prod.fst).Nodup) :
    ((renderEntries writer entries).map Prod.fst).Nodup := by
  have htexts : (renderEntries writer entries).map Prod.fst = (entries.map Prod.fst).map writer.text := by
    rw [renderEntries_eq, List.map_map, List.map_map]
    rfl
  rw [htexts]
  exact hnames.map writer.text_injective

/-- The kind of a value, as its first character shows it. -/
def kind : Json Str Num → ℕ
  | null => 0
  | bool true => 1
  | bool false => 2
  | int _ | float _ => 3
  | str _ => 4
  | arr _ => 5
  | obj _ => 6

/-- The kind of value that begins with a character. -/
def kindOf (c : ℕ) : ℕ :=
  if c = 110 then 0 else if c = 116 then 1 else if c = 102 then 2 else if c = 34 then 4
  else if c = 91 then 5 else if c = 123 then 6 else 3

/-- A number begins like no other value. -/
theorem kindOf_number {c : ℕ} (h : JsonText.isDigit c = true ∨ c = 45) : kindOf c = 3 ∧ c ≠ 93 := by
  have hbounds : 45 ≤ c ∧ c ≤ 57 := by
    rcases h with hdigit | rfl
    · simp [JsonText.isDigit] at hdigit
      omega
    · omega
  refine ⟨?_, by omega⟩
  unfold kindOf
  split_ifs <;> omega

/-- The first character of a value shows its kind. -/
theorem render_starts (value : Json Str Num) :
    ∃ c rest, render writer value = c :: rest ∧ kindOf c = value.kind ∧ c ≠ 93 := by
  cases value with
  | null => exact ⟨_, _, rfl, rfl, by decide⟩
  | bool value => cases value <;> exact ⟨_, _, rfl, rfl, by decide⟩
  | int value =>
    obtain ⟨c, rest, htext, hstart, -⟩ := intText_starts value
    exact ⟨c, rest, htext, kindOf_number hstart⟩
  | float value =>
    obtain ⟨c, rest, htext, hstart⟩ := writer.number_starts value
    exact ⟨c, rest, htext, kindOf_number hstart⟩
  | str value => exact ⟨34, _, rfl, rfl, by decide⟩
  | arr items => exact ⟨91, _, by rw [render], rfl, by decide⟩
  | obj entries => exact ⟨123, _, by rw [render], rfl, by decide⟩

/-- Values with the same text are of the same kind. -/
theorem kind_eq {value value' : Json Str Num} {rest rest' : PyText}
    (h : render writer value ++ rest = render writer value' ++ rest') : value.kind = value'.kind := by
  obtain ⟨c, tail, htext, hkind, -⟩ := render_starts writer value
  obtain ⟨c', tail', htext', hkind', -⟩ := render_starts writer value'
  rw [htext, htext'] at h
  rw [← hkind, ← hkind', (List.cons.inj h).1]

/-- The characters of an integer. -/
theorem intText_chars (value : ℤ) : ∀ c ∈ intText value, isNumberChar c = true := by
  obtain ⟨c, rest, htext, hstart, hrest⟩ := intText_starts value
  rw [htext]
  rintro d hd
  rcases List.mem_cons.mp hd with rfl | hd
  · rcases hstart with hdigit | rfl
    · simp [isNumberChar, hdigit]
    · rfl
  · simp [isNumberChar, hrest d hd]

/-- The characters of a float. -/
theorem number_chars (value : Num) : ∀ c ∈ writer.number value, isNumberChar c = true := by
  intro c hc
  rcases writer.number_chars value c hc with hdigit | rfl | rfl | rfl | rfl
  · simp [isNumberChar, hdigit]
  · rfl
  · rfl
  · rfl
  · rfl

/-- No integer is spelled like a float. -/
theorem intText_ne_number (value : ℤ) (value' : Num) : intText value ≠ writer.number value' := by
  intro h
  obtain ⟨c, rest, htext, hstart, hrest⟩ := intText_starts value
  have hplain : ∀ d ∈ intText value, d ≠ 46 ∧ d ≠ 101 := by
    rw [htext]
    intro d hd
    have hd' : JsonText.isDigit d = true ∨ d = 45 := by
      rcases List.mem_cons.mp hd with rfl | hd
      · exact hstart
      · exact .inl (hrest d hd)
    rcases hd' with hdigit | rfl
    · simp [JsonText.isDigit] at hdigit
      omega
    · decide
  rcases writer.number_float value' with hpoint | hexponent
  · exact (hplain 46 (h ▸ hpoint)).1 rfl
  · exact (hplain 101 (h ▸ hexponent)).2 rfl

variable [DecidableEq Str]

/-- What is stored under a name, one member after another. -/
theorem getEntry_cons (entry : Str × Json Str Num) (rest : List (Str × Json Str Num)) (name : Str) :
    getEntry (entry :: rest) name = if entry.1 = name then some entry.2 else getEntry rest name := by
  unfold getEntry
  rw [List.find?_cons]
  by_cases hname : entry.1 = name
  · simp [hname]
  · simp [hname]

/-- A member is stored under its name. -/
theorem getEntry_of_mem {entries : List (Str × Json Str Num)} (hnames : (entries.map Prod.fst).Nodup)
    {entry : Str × Json Str Num} (h : entry ∈ entries) : getEntry entries entry.1 = some entry.2 := by
  induction entries with
  | nil => exact absurd h List.not_mem_nil
  | cons first rest ih =>
    rw [List.map_cons, List.nodup_cons] at hnames
    rw [getEntry_cons]
    rcases List.mem_cons.mp h with rfl | hrest
    · exact if_pos rfl
    · have hother : first.1 ≠ entry.1 := fun hname => hnames.1 (hname ▸ List.mem_map_of_mem hrest)
      rw [if_neg hother]
      exact ih hnames.2 hrest

/-- What is stored under a name is a member. -/
theorem mem_of_getEntry {entries : List (Str × Json Str Num)} {name : Str} {value : Json Str Num}
    (h : getEntry entries name = some value) : (name, value) ∈ entries := by
  obtain ⟨entry, hfind, rfl⟩ := Option.map_eq_some_iff.mp h
  have hfound := List.find?_some hfind
  have hname : entry.1 = name := of_decide_eq_true hfound
  exact hname ▸ List.mem_of_find?_eq_some hfind

/-- Members with the same names and the same values, in the same order. -/
theorem rel_getEntry {entries entries' : List (Str × Json Str Num)}
    (h : List.Forall₂ (fun a b => a.1 = b.1 ∧ Same a.2 b.2) entries entries') (name : Str) :
    Option.Rel Same (getEntry entries name) (getEntry entries' name) := by
  induction h with
  | nil => exact .none
  | cons hfirst hrest ih =>
    rw [getEntry_cons, getEntry_cons, hfirst.1]
    split
    · exact .some hfirst.2
    · exact ih

/-- Sorted members are stored under their names all the same. -/
theorem getEntry_sortEntries {entries : List (Str × Json Str Num)} (hnames : (entries.map Prod.fst).Nodup)
    (name : Str) : getEntry (sortEntries writer entries) name = getEntry entries name := by
  have hperm : (sortEntries writer entries).Perm entries := List.perm_insertionSort _ _
  have hnames' : ((sortEntries writer entries).map Prod.fst).Nodup := (hperm.map Prod.fst).nodup_iff.mpr hnames
  cases hsorted : getEntry (sortEntries writer entries) name with
  | some value => exact (getEntry_of_mem hnames (hperm.mem_iff.mp (mem_of_getEntry hsorted))).symm
  | none =>
    cases hstored : getEntry entries name with
    | none => rfl
    | some value =>
      have hmem := hperm.mem_iff.mpr (mem_of_getEntry hstored)
      exact hsorted.symm.trans (getEntry_of_mem hnames' hmem)

variable {writer}

/-- Members are told apart from what follows them as their values are. -/
theorem separates_member {entry entry' : Str × Json Str Num}
    (h : Separates (render writer) (render writer) Same entry.2 entry'.2) :
    Separates (fun entry => member (renderEntry writer entry)) (fun entry => member (renderEntry writer entry))
      (fun a b => a.1 = b.1 ∧ Same a.2 b.2) entry entry' := by
  intro rest rest' hrest hrest' htext
  simp only [member, renderEntry, List.append_assoc, List.cons_append] at htext
  obtain ⟨hname, hvalue⟩ := quote_append_inj htext
  obtain ⟨hsame, hend⟩ := h rest rest' hrest hrest' (List.cons.inj hvalue).2
  exact ⟨⟨writer.text_injective hname, hsame⟩, hend⟩

/-- The text of a value tells it, and where it ends. -/
theorem same_of_render {value value' : Json Str Num} (hvalue : value.WellFormed) (hvalue' : value'.WellFormed) :
    Separates (render writer) (render writer) Same value value' := by
  induction value using Json.induction generalizing value' with
  | null =>
    intro rest rest' _ _ h
    have hkind := kind_eq writer h
    cases value' with
    | null => exact ⟨.null, List.append_cancel_left h⟩
    | bool value => cases value <;> cases hkind
    | _ => cases hkind
  | bool value =>
    intro rest rest' _ _ h
    have hkind := kind_eq writer h
    cases value' with
    | bool value' =>
      obtain rfl : value = value' := by cases value <;> cases value' <;> first | rfl | cases hkind
      exact ⟨.bool value, List.append_cancel_left h⟩
    | _ => cases value <;> cases hkind
  | int value =>
    intro rest rest' hrest hrest' h
    have hkind := kind_eq writer h
    cases value' with
    | int value' =>
      obtain ⟨htext, hend⟩ := number_append_inj (intText_chars value) (intText_chars value') hrest hrest' h
      rw [intText_injective htext]
      exact ⟨.int value', hend⟩
    | float value' =>
      have htext := (number_append_inj (intText_chars value) (number_chars writer value') hrest hrest' h).1
      exact absurd htext (intText_ne_number writer value value')
    | bool value' => cases value' <;> cases hkind
    | _ => cases hkind
  | float value =>
    intro rest rest' hrest hrest' h
    have hkind := kind_eq writer h
    cases value' with
    | float value' =>
      obtain ⟨htext, hend⟩ :=
        number_append_inj (number_chars writer value) (number_chars writer value') hrest hrest' h
      rw [writer.number_injective htext]
      exact ⟨.float value', hend⟩
    | int value' =>
      have htext := (number_append_inj (number_chars writer value) (intText_chars value') hrest hrest' h).1
      exact absurd htext.symm (intText_ne_number writer value' value)
    | bool value' => cases value' <;> cases hkind
    | _ => cases hkind
  | str value =>
    intro rest rest' _ _ h
    have hkind := kind_eq writer h
    cases value' with
    | str value' =>
      obtain ⟨htext, hend⟩ := quote_append_inj h
      rw [writer.text_injective htext]
      exact ⟨.str value', hend⟩
    | bool value' => cases value' <;> cases hkind
    | _ => cases hkind
  | arr items ih =>
    intro rest rest' _ _ h
    have hkind := kind_eq writer h
    cases value' with
    | arr items' =>
      cases hvalue with
      | arr hitems =>
        cases hvalue' with
        | arr hitems' =>
          simp only [render, renderItems_eq, List.cons_append, List.append_assoc, List.nil_append, List.cons.injEq,
            true_and] at h
          have hhead : ∀ item, ∃ c tail, render writer item = c :: tail ∧ c ≠ 93 := by
            intro item
            obtain ⟨c, tail, htext, -, hne⟩ := render_starts writer item
            exact ⟨c, tail, htext, hne⟩
          obtain ⟨hsame, hend⟩ := commaJoin_append_inj rfl (by decide)
            (fun item hitem item' hitem' => ih item hitem (hitems item hitem) (hitems' item' hitem')) hhead hhead h
          exact ⟨.arr hsame, hend⟩
    | bool value' => cases value' <;> cases hkind
    | _ => cases hkind
  | obj entries ih =>
    intro rest rest' _ _ h
    have hkind := kind_eq writer h
    cases value' with
    | obj entries' =>
      cases hvalue with
      | obj hnames hvalues =>
        cases hvalue' with
        | obj hnames' hvalues' =>
          simp only [render, sortMembers_renderEntries, List.map_map, List.cons_append, List.append_assoc,
            List.nil_append, List.cons.injEq, true_and] at h
          have hhead : ∀ entry, ∃ c tail, (member ∘ renderEntry writer) entry = c :: tail ∧ c ≠ 125 :=
            fun entry => ⟨34, _, rfl, by decide⟩
          have hparts : ∀ entry ∈ sortEntries writer entries, ∀ entry' ∈ sortEntries writer entries',
              Separates (member ∘ renderEntry writer) (member ∘ renderEntry writer)
                (fun a b => a.1 = b.1 ∧ Same a.2 b.2) entry entry' := by
            intro entry hentry entry' hentry'
            have hmem := (List.mem_insertionSort _).mp hentry
            have hmem' := (List.mem_insertionSort _).mp hentry'
            exact separates_member (ih entry hmem (hvalues entry hmem) (hvalues' entry' hmem'))
          obtain ⟨hsame, hend⟩ := commaJoin_append_inj rfl (by decide) hparts hhead hhead h
          refine ⟨.obj fun name => ?_, hend⟩
          rw [← getEntry_sortEntries writer hnames, ← getEntry_sortEntries writer hnames']
          exact rel_getEntry hsame name
    | bool value' => cases value' <;> cases hkind
    | _ => cases hkind

/-- Members that are found in another object have the same texts there. -/
theorem mem_renderEntries {related : Json Str Num → Json Str Num → Prop} {entries entries' : List (Str × Json Str Num)}
    (hnames : (entries.map Prod.fst).Nodup)
    (hvalues : ∀ name, Option.Rel related (getEntry entries name) (getEntry entries' name))
    (hsame : ∀ entry ∈ entries, ∀ entry' ∈ entries', related entry.2 entry'.2 →
      render writer entry.2 = render writer entry'.2)
    {part : PyText × PyText} (h : part ∈ renderEntries writer entries) : part ∈ renderEntries writer entries' := by
  rw [renderEntries_eq] at h ⊢
  obtain ⟨entry, hentry, rfl⟩ := List.mem_map.mp h
  have hrel := hvalues entry.1
  rw [getEntry_of_mem hnames hentry] at hrel
  cases hstored : getEntry entries' entry.1 with
  | none =>
    rw [hstored] at hrel
    cases hrel
  | some value' =>
    rw [hstored] at hrel
    cases hrel with
    | some hvalue =>
      have hmem := mem_of_getEntry hstored
      refine List.mem_map.mpr ⟨(entry.1, value'), hmem, ?_⟩
      rw [renderEntry, renderEntry, hsame entry hentry _ hmem hvalue]

/-- The same items have the same texts. -/
theorem map_render_eq {items items' : List (Json Str Num)} (h : List.Forall₂ Same items items')
    (hsame : ∀ item ∈ items, ∀ item' ∈ items', Same item item' → render writer item = render writer item') :
    items.map (render writer) = items'.map (render writer) := by
  induction h with
  | nil => rfl
  | cons hfirst hrest ih =>
    rw [List.map_cons, List.map_cons, hsame _ List.mem_cons_self _ List.mem_cons_self hfirst,
      ih fun item hitem item' hitem' => hsame item (List.mem_cons_of_mem _ hitem) item' (List.mem_cons_of_mem _ hitem')]

/-- The same object has the same members, in some order. -/
theorem renderEntries_perm {entries entries' : List (Str × Json Str Num)} (hnames : (entries.map Prod.fst).Nodup)
    (hnames' : (entries'.map Prod.fst).Nodup)
    (hvalues : ∀ name, Option.Rel Same (getEntry entries name) (getEntry entries' name))
    (hsame : ∀ entry ∈ entries, ∀ entry' ∈ entries', Same entry.2 entry'.2 →
      render writer entry.2 = render writer entry'.2) :
    (renderEntries writer entries).Perm (renderEntries writer entries') := by
  have hrel : ∀ {stored stored' : Option (Json Str Num)}, Option.Rel Same stored stored' →
      Option.Rel (flip Same) stored' stored := by
    rintro _ _ (hvalue | _)
    · exact .some hvalue
    · exact .none
  have hflip := fun name => hrel (hvalues name)
  refine (List.perm_ext_iff_of_nodup (nodup_names writer hnames).of_map (nodup_names writer hnames').of_map).mpr
    fun part => ⟨mem_renderEntries hnames hvalues hsame, mem_renderEntries hnames' hflip ?_⟩
  exact fun entry' hentry' entry hentry hvalue => (hsame entry hentry entry' hentry' hvalue).symm

/-- Members with unique names are sorted the same from any order. -/
theorem sortMembers_eq_of_perm {members members' : List (PyText × PyText)} (hnames : (members.map Prod.fst).Nodup)
    (h : members.Perm members') : sortMembers members = sortMembers members' := by
  have htotal : Std.Total fun a b : PyText × PyText => a.1 ≤ b.1 := ⟨fun a b => le_total a.1 b.1⟩
  have htrans : IsTrans (PyText × PyText) fun a b => a.1 ≤ b.1 := ⟨fun _ _ _ => le_trans⟩
  refine Relational.insertionSort_eq_of_perm _ h fun a ha b hb hab hba => ?_
  exact List.inj_on_of_nodup_map hnames ha hb (le_antisymm hab hba)

/-- The same value has the same text. -/
theorem render_eq_of_same {value value' : Json Str Num} (hvalue : value.WellFormed) (hvalue' : value'.WellFormed)
    (h : Same value value') : render writer value = render writer value' := by
  induction value using Json.induction generalizing value' with
  | null =>
    cases h
    rfl
  | bool value =>
    cases h
    rfl
  | int value =>
    cases h
    rfl
  | float value =>
    cases h
    rfl
  | str value =>
    cases h
    rfl
  | arr items ih =>
    cases h with
    | arr hsame =>
      cases hvalue with
      | arr hitems =>
        cases hvalue' with
        | arr hitems' =>
          rw [render, render, renderItems_eq, renderItems_eq, map_render_eq hsame fun item hitem item' hitem' =>
            ih item hitem (hitems item hitem) (hitems' item' hitem')]
  | obj entries ih =>
    cases h with
    | @obj _ entries' hsame =>
      cases hvalue with
      | obj hnames hvalues =>
        cases hvalue' with
        | obj hnames' hvalues' =>
          have hperm := renderEntries_perm hnames hnames' hsame fun entry hentry entry' hentry' =>
            ih entry hentry (hvalues entry hentry) (hvalues' entry' hentry')
          rw [render, render, sortMembers_eq_of_perm (nodup_names writer hnames) hperm]

/-- Two values have one text exactly if they are the same. -/
theorem render_eq_iff {value value' : Json Str Num} (hvalue : value.WellFormed) (hvalue' : value'.WellFormed) :
    render writer value = render writer value' ↔ Same value value' := by
  refine ⟨fun h => ?_, render_eq_of_same hvalue hvalue'⟩
  exact (same_of_render hvalue hvalue' [] [] nofun nofun (congrArg (· ++ []) h)).1

end Rendering

section Members

/-- The members that a lookup gives for some names. -/
def submap (lookup : Str → Option (Json Str Num)) (names : List Str) : List (Str × Json Str Num) :=
  names.filterMap fun name => (lookup name).map fun value => (name, value)

/-- A submap of well-formed values is well formed. -/
theorem WellFormed.submap {lookup : Str → Option (Json Str Num)} {names : List Str} (hnames : names.Nodup)
    (hvalues : ∀ name value, lookup name = some value → value.WellFormed) :
    (Json.obj (Json.submap lookup names)).WellFormed := by
  have hmem : ∀ entry ∈ Json.submap lookup names, entry.1 ∈ names ∧ lookup entry.1 = some entry.2 := by
    intro entry hentry
    obtain ⟨name, hname, hentry⟩ := List.mem_filterMap.mp hentry
    obtain ⟨value, hvalue, rfl⟩ := Option.map_eq_some_iff.mp hentry
    exact ⟨hname, hvalue⟩
  refine .obj ?_ fun entry hentry => hvalues entry.1 entry.2 (hmem entry hentry).2
  have hsub : ((Json.submap lookup names).map Prod.fst).Sublist names := by
    clear hmem hnames
    induction names with
    | nil => exact List.Sublist.slnil
    | cons first rest ih =>
      unfold Json.submap at ih ⊢
      rw [List.filterMap_cons]
      cases lookup first with
      | none => exact ih.cons first
      | some value => exact ih.cons_cons first
  exact hsub.nodup hnames

variable [DecidableEq Str]

/-- Objects are the same if what they store under each name is. -/
theorem same_obj_iff {entries entries' : List (Str × Json Str Num)} : Same (obj entries) (obj entries') ↔
    ∀ name, Option.Rel Same (getEntry entries name) (getEntry entries' name) :=
  ⟨fun h => by cases h with | obj hvalues => exact hvalues, .obj⟩

/-- Strings are the same value only if they are equal. -/
theorem same_str_iff {value value' : Str} : Same (str value : Json Str Num) (str value') ↔ value = value' := by
  constructor
  · rintro ⟨⟩
    rfl
  · rintro rfl
    exact .str value

/-- What is stored in a submap is what the lookup gives for its names. -/
theorem getEntry_submap (lookup : Str → Option (Json Str Num)) (names : List Str) (name : Str) :
    getEntry (submap lookup names) name = if name ∈ names then lookup name else none := by
  induction names with
  | nil => rfl
  | cons first rest ih =>
    unfold submap at ih ⊢
    rw [List.filterMap_cons]
    by_cases hfirst : first = name
    · subst hfirst
      rw [if_pos List.mem_cons_self]
      cases hlookup : lookup first with
      | none =>
        rw [Option.map_none, ih, hlookup, ite_self]
      | some value => rw [Option.map_some, getEntry_cons, if_pos rfl]
    · have hmem : (name ∈ first :: rest) = (name ∈ rest) := by simp [Ne.symm hfirst]
      simp only [hmem]
      rw [← ih]
      cases lookup first with
      | none => rw [Option.map_none]
      | some value => rw [Option.map_some, getEntry_cons, if_neg hfirst]

/-- What a well-formed value stores under a name is well formed. -/
theorem WellFormed.get? {value stored : Json Str Num} (h : value.WellFormed) {name : Str}
    (hstored : value.get? name = some stored) : stored.WellFormed := by
  cases h with
  | obj hnames hvalues => exact hvalues _ (mem_of_getEntry hstored)
  | _ => cases hstored

end Members

end Json

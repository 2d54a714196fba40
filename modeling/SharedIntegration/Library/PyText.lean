import Mathlib.Data.List.DropRight

/-!
# Python strings as code points

A Python string is a sequence of code points in which surrogates may stand alone, which a
Lean `String` cannot hold. These are the operations of `str` that do not depend on the case
tables of Unicode.
-/

/-- A Python string. -/
abbrev PyText := List ℕ

namespace PyText

/-- Strings are compared by their code points. -/
instance : LawfulBEq PyText := List.instLawfulBEq

/-- The string that a Lean literal spells. -/
def of (text : String) : PyText := text.toList.map Char.toNat

/-- `str.isspace` for one character. -/
def isSpace (c : ℕ) : Bool :=
  (9 ≤ c && c ≤ 13) || (28 ≤ c && c ≤ 32) || c = 0x85 || c = 0xa0 || c = 0x1680 ||
    (0x2000 ≤ c && c ≤ 0x200a) || c = 0x2028 || c = 0x2029 || c = 0x202f || c = 0x205f || c = 0x3000

/-- `str.strip()`. -/
def strip (text : PyText) : PyText := (text.dropWhile isSpace).rdropWhile isSpace

/-- `str.isascii`. -/
def isAscii (text : PyText) : Bool := text.all (· < 128)

/-- `str.partition(" ")`, without the separator it returns in the middle. -/
def partitionSpace (text : PyText) : PyText × PyText :=
  (text.takeWhile (· ≠ 32), (text.dropWhile (· ≠ 32)).tail)

/-- The character of a code point; a surrogate is none. -/
def char? (c : ℕ) : Option Char := if c.isValidChar then some (Char.ofNat c) else none

/-- The characters of a string in which no surrogate stands alone. -/
def chars? (text : PyText) : Option (List Char) := text.mapM char?

/-- `text.split(sep, limit)`. -/
def split (sep : ℕ) : (limit : ℕ) → PyText → List PyText
  | 0, text => [text]
  | limit + 1, text =>
    match text.dropWhile (· ≠ sep) with
    | [] => [text]
    | _ :: rest => text.takeWhile (· ≠ sep) :: split sep limit rest

/-- A character is found by its code point. -/
theorem char?_toNat (c : Char) : char? c.toNat = some c := by
  have hvalid : c.toNat.isValidChar := c.valid
  rw [char?, if_pos hvalid, Char.ofNat_toNat]

/-- The characters of a literal are its own. -/
theorem chars?_map (chars : List Char) : chars? (chars.map Char.toNat) = some chars := by
  induction chars with
  | nil => rfl
  | cons c rest ih =>
    unfold chars? at ih ⊢
    rw [List.map_cons, List.mapM_cons, char?_toNat, ih]
    rfl

/-- Literals with the same code points are the same. -/
theorem of_injective : Function.Injective of := by
  intro text text' h
  have hchars := (chars?_map text.toList).symm.trans ((congrArg chars? h).trans (chars?_map text'.toList))
  exact String.toList_inj.mp (Option.some.inj hchars)

/-- `text.encode("utf-8")`; a lone surrogate cannot be encoded. -/
def encodeUtf8 (text : PyText) : Option (List UInt8) :=
  (chars? text).map fun chars => (String.ofList chars).toUTF8.data.toList

/-- The characters of a string spell it. -/
theorem map_of_chars? {text : PyText} {chars : List Char} (h : chars? text = some chars) :
    chars.map Char.toNat = text := by
  induction text generalizing chars with
  | nil =>
    cases h
    rfl
  | cons c rest ih =>
    unfold chars? at h ih
    rw [List.mapM_cons] at h
    obtain ⟨first, hfirst, h⟩ := Option.bind_eq_some_iff.mp h
    obtain ⟨tail, htail, h⟩ := Option.bind_eq_some_iff.mp h
    cases h
    unfold char? at hfirst
    split at hfirst
    · next hvalid =>
      cases hfirst
      rw [List.map_cons, ih htail, Char.ofNat, dif_pos hvalid]
      rfl
    · cases hfirst

/-- Strings with the same encoding are the same. -/
theorem encodeUtf8_injective {text text' : PyText} {bytes : List UInt8} (h : encodeUtf8 text = some bytes)
    (h' : encodeUtf8 text' = some bytes) : text = text' := by
  obtain ⟨chars, hchars, rfl⟩ := Option.map_eq_some_iff.mp h
  obtain ⟨chars', hchars', hbytes⟩ := Option.map_eq_some_iff.mp h'
  have hstrings : String.ofList chars' = String.ofList chars :=
    String.toByteArray_inj.mp (congrArg ByteArray.mk (Array.toList_inj.mp hbytes))
  rw [← map_of_chars? hchars, ← map_of_chars? hchars', String.ofList_injective hstrings]

/-- A stripped string does not begin with a space. -/
theorem strip_ne_space_cons {text rest : PyText} {c : ℕ} (h : strip text = c :: rest) :
    isSpace c = false := by
  have hne : text.dropWhile isSpace ≠ [] := by
    intro hempty
    rw [strip, hempty] at h
    cases h
  obtain ⟨suffix, hsuffix⟩ := List.rdropWhile_prefix isSpace (text.dropWhile isSpace)
  have hhead : (text.dropWhile isSpace).head hne = c := by
    have hcons : text.dropWhile isSpace = c :: (rest ++ suffix) := by
      rw [← hsuffix, ← List.cons_append, ← h, strip]
    simp [hcons]
  rw [← hhead]
  exact List.head_dropWhile_not isSpace hne

/-- A stripped string does not end with a space. -/
theorem strip_ne_concat_space {text rest : PyText} {c : ℕ} (h : strip text = rest ++ [c]) :
    isSpace c = false := by
  have hne : (text.dropWhile isSpace).rdropWhile isSpace ≠ [] := by
    rw [← strip, h]
    simp
  have hlast := List.rdropWhile_last_not isSpace (text.dropWhile isSpace) hne
  have hc : ((text.dropWhile isSpace).rdropWhile isSpace).getLast hne = c := by
    have hconcat : (text.dropWhile isSpace).rdropWhile isSpace = rest ++ [c] := h
    simp [hconcat]
  rw [hc] at hlast
  simpa using hlast

end PyText

import Mathlib.Algebra.Group.Nat.Defs
import SharedIntegration.Library.PyText

/-!
# Splitting and reading Python strings

`str.split` with a limit, `str.partition` and `int` on lists of characters. Which characters
are decimal digits, and their values, is a parameter of reading integers.
-/

namespace PyString

/-- Small letters by their code points. -/
theorem isLower_iff {c : Char} : c.isLower = true ↔ 97 ≤ c.toNat ∧ c.toNat ≤ 122 := by
  change (decide (c.val ≥ 'a'.val) && decide (c.val ≤ 'z'.val)) = true ↔ _
  rw [Bool.and_eq_true, decide_eq_true_eq, decide_eq_true_eq]
  exact Iff.rfl

/-- Letters and digits by their code points. -/
theorem isAlphanum_iff {c : Char} : c.isAlphanum = true ↔
    (65 ≤ c.toNat ∧ c.toNat ≤ 90 ∨ 97 ≤ c.toNat ∧ c.toNat ≤ 122) ∨ 48 ≤ c.toNat ∧ c.toNat ≤ 57 := by
  change ((decide (c.val ≥ 'A'.val ∧ c.val ≤ 'Z'.val) || c.isLower) ||
    (decide (c.val ≥ '0'.val) && decide (c.val ≤ '9'.val))) = true ↔ _
  rw [Bool.or_eq_true, Bool.or_eq_true, isLower_iff, Bool.and_eq_true, decide_eq_true_eq, decide_eq_true_eq,
    decide_eq_true_eq]
  exact Iff.rfl

/-- `text.strip()`. -/
def strip (text : String) : String :=
  let space := fun c : Char => PyText.isSpace c.toNat
  String.ofList ((text.toList.dropWhile space).rdropWhile space)

/-- Stripping again changes nothing. -/
theorem strip_strip (text : String) : strip (strip text) = strip text := by
  have hhead : ∀ (space : Char → Bool) (chars : List Char),
      ((chars.dropWhile space).rdropWhile space).dropWhile space = (chars.dropWhile space).rdropWhile space := by
    intro space chars
    cases hleft : (chars.dropWhile space).rdropWhile space with
    | nil => rfl
    | cons c rest =>
      -- what is left begins where the leading spaces end
      obtain ⟨last, hlast⟩ := List.rdropWhile_prefix space (chars.dropWhile space)
      have hfirst := List.head?_dropWhile_not space chars
      rw [← hlast, hleft, List.cons_append, List.head?_cons] at hfirst
      exact List.dropWhile_cons_of_neg (by simpa using hfirst)
  unfold strip
  simp only [String.toList_ofList]
  rw [hhead, List.rdropWhile_idempotent]

/-- `text[:limit]`. -/
def slice (limit : ℕ) (text : String) : String := String.ofList (text.toList.take limit)

/-- `text.split(sep, limit)`. -/
def split (sep : Char) : (limit : ℕ) → List Char → List (List Char)
  | 0, text => [text]
  | limit + 1, text =>
    match text.dropWhile (· ≠ sep) with
    | [] => [text]
    | _ :: rest => text.takeWhile (· ≠ sep) :: split sep limit rest

/-- `sep.join(parts)`. -/
def join (sep : Char) : List (List Char) → List Char
  | [] => []
  | [last] => last
  | first :: rest => first ++ sep :: join sep rest

/-- `text.partition(sep)`, or nothing if the separator does not occur. -/
def partition? (sep : Char) (text : List Char) : Option (List Char × List Char) :=
  match text.dropWhile (· ≠ sep) with
  | [] => none
  | _ :: rest => some (text.takeWhile (· ≠ sep), rest)

/-- The digits of an integer after the first; single underscores may stand between digits. -/
def readDigits (decimal : Char → Option ℕ) (value : ℕ) : List Char → Option ℕ
  | [] => some value
  | '_' :: c :: rest => (decimal c).bind fun d => readDigits decimal (value * 10 + d) rest
  | c :: rest => (decimal c).bind fun d => readDigits decimal (value * 10 + d) rest

/-- An integer without a sign. -/
def readNat (decimal : Char → Option ℕ) : List Char → Option ℕ
  | [] => none
  | c :: rest => (decimal c).bind fun d => readDigits decimal d rest

/-- The whitespace around an integer: that of `str.strip` without the separators U+001C to U+001F. -/
def isIntSpace (c : Char) : Bool := PyText.isSpace c.toNat && !(28 ≤ c.toNat && c.toNat ≤ 31)

/-- `int(text)`. -/
def int? (decimal : Char → Option ℕ) (text : List Char) : Option ℤ :=
  match (text.dropWhile isIntSpace).rdropWhile isIntSpace with
  | '+' :: rest => (readNat decimal rest).map Int.ofNat
  | '-' :: rest => (readNat decimal rest).map fun n => -Int.ofNat n
  | rest => (readNat decimal rest).map Int.ofNat

/-- Without whitespace and without a sign, an integer is its digits. -/
theorem int?_unsigned {decimal : Char → Option ℕ} {c : Char} {rest : List Char}
    (hspace : ∀ d ∈ c :: rest, isIntSpace d = false) (hplus : c ≠ '+') (hminus : c ≠ '-') :
    int? decimal (c :: rest) = (readNat decimal (c :: rest)).map Int.ofNat := by
  have hleft : (c :: rest).dropWhile isIntSpace = c :: rest :=
    List.dropWhile_cons_of_neg (by simp [hspace c List.mem_cons_self])
  have hright : (c :: rest).rdropWhile isIntSpace = c :: rest := by
    rw [List.rdropWhile_eq_self_iff]
    intro hne hlast
    rw [hspace _ (List.getLast_mem hne)] at hlast
    cases hlast
  simp only [int?, hleft, hright]
  split
  · next heq => exact absurd (List.cons.inj heq).1 hplus
  · next heq => exact absurd (List.cons.inj heq).1 hminus
  · rfl

/-- Up to the first separator. -/
theorem takeWhile_append_sep {sep : Char} {first : List Char} (h : sep ∉ first) (rest : List Char) :
    (first ++ sep :: rest).takeWhile (· ≠ sep) = first := by
  induction first with
  | nil => simp
  | cons c first ih =>
    rw [List.mem_cons, not_or] at h
    have hc : c ≠ sep := fun heq => h.1 heq.symm
    rw [List.cons_append, List.takeWhile_cons_of_pos (by simpa using hc), ih h.2]

/-- From the first separator on. -/
theorem dropWhile_append_sep {sep : Char} {first : List Char} (h : sep ∉ first) (rest : List Char) :
    (first ++ sep :: rest).dropWhile (· ≠ sep) = sep :: rest := by
  induction first with
  | nil => simp
  | cons c first ih =>
    rw [List.mem_cons, not_or] at h
    have hc : c ≠ sep := fun heq => h.1 heq.symm
    rw [List.cons_append, List.dropWhile_cons_of_pos (by simpa using hc), ih h.2]

/-- Splitting takes off a first part without separators. -/
theorem split_append {sep : Char} {first : List Char} (h : sep ∉ first) (limit : ℕ) (rest : List Char) :
    split sep (limit + 1) (first ++ sep :: rest) = first :: split sep limit rest := by
  simp only [split, dropWhile_append_sep h, takeWhile_append_sep h]

/-- Splitting recovers joined parts, of which only the last may contain the separator. -/
theorem split_join {sep : Char} (parts : List (List Char)) (last : List Char)
    (h : ∀ part ∈ parts, sep ∉ part) : split sep parts.length (join sep (parts ++ [last])) = parts ++ [last] := by
  induction parts with
  | nil => rfl
  | cons part parts ih =>
    have hjoin : join sep (part :: parts ++ [last]) = part ++ sep :: join sep (parts ++ [last]) := by
      cases parts <;> rfl
    rw [hjoin, List.length_cons, split_append (h part List.mem_cons_self),
      ih fun p hp => h p (List.mem_cons_of_mem part hp), List.cons_append]

/-- Code points are split as the characters are. -/
theorem split_map (sep : Char) (limit : ℕ) (text : List Char) :
    PyText.split sep.toNat limit (text.map Char.toNat) = (split sep limit text).map (List.map Char.toNat) := by
  have hsame : ((fun c : ℕ => decide (c ≠ sep.toNat)) ∘ Char.toNat) = fun c => decide (c ≠ sep) := by
    funext c
    simp only [Function.comp_apply, ne_eq, Char.toNat_inj]
  induction limit generalizing text with
  | zero => rfl
  | succ limit ih =>
    unfold PyText.split split
    rw [List.dropWhile_map, hsame, List.takeWhile_map, hsame]
    cases text.dropWhile (fun c => decide (c ≠ sep)) with
    | nil => rfl
    | cons c rest =>
      simp only [List.map_cons, ih]

/-- A text is partitioned at a separator behind a first part without any. -/
theorem partition?_append {sep : Char} {first : List Char} (h : sep ∉ first) (rest : List Char) :
    partition? sep (first ++ sep :: rest) = some (first, rest) := by
  simp only [partition?, dropWhile_append_sep h, takeWhile_append_sep h]

/-- The parts of a partition put the text together again. -/
theorem of_partition? {sep : Char} {text first rest : List Char}
    (h : partition? sep text = some (first, rest)) : text = first ++ sep :: rest := by
  unfold partition? at h
  split at h
  · cases h
  · next c rest' hdrop =>
    rw [Option.some.injEq, Prod.mk.injEq] at h
    obtain ⟨rfl, rfl⟩ := h
    have hall := @List.takeWhile_append_dropWhile Char (fun x => decide (x ≠ sep)) text
    have hc : c = sep := by
      have hne : text.dropWhile (fun x => decide (x ≠ sep)) ≠ [] := by
        rw [hdrop]
        exact List.cons_ne_nil c rest'
      have hhead := List.head_dropWhile_not (fun x => decide (x ≠ sep)) hne
      have hc : (text.dropWhile (fun x => decide (x ≠ sep))).head hne = c := by simp only [hdrop, List.head_cons]
      rw [hc] at hhead
      simpa using hhead
    rw [hdrop, hc] at hall
    exact hall.symm

/-- `sys.get_int_max_str_digits()`. -/
def maxStrDigits : ℕ := 4300

/-- `int(text)` of a text of any length: too many digits are an error. -/
def limitedInt? (decimal : Char → Option ℕ) (text : List Char) : Option ℤ :=
  if maxStrDigits < (text.filter fun c => (decimal c).isSome).length then none else int? decimal text

/-- A short text has not too many digits. -/
theorem limitedInt?_of_length {decimal : Char → Option ℕ} {text : List Char} (h : text.length ≤ maxStrDigits) :
    limitedInt? decimal text = int? decimal text :=
  if_neg (not_lt.mpr ((List.length_filter_le _ _).trans h))

/-- Which values the ASCII digits have. -/
def ReadsAscii (decimal : Char → Option ℕ) : Prop := ∀ n < 10, decimal (Char.ofNat (48 + n)) = some n

/-- A digit and its value. -/
theorem ReadsAscii.digit {decimal : Char → Option ℕ} (h : ReadsAscii decimal) {c : Char} (hc : c.isDigit = true) :
    decimal c = some (c.toNat - 48) := by
  simp only [Char.isDigit, Bool.and_eq_true, decide_eq_true_eq, ge_iff_le, UInt32.le_iff_toNat_le] at hc
  have hval : c.toNat = c.val.toNat := rfl
  simp at hc
  have hread := h (c.toNat - 48) (by omega)
  rwa [show 48 + (c.toNat - 48) = c.toNat by omega, Char.ofNat_toNat] at hread

/-- Digits are read from the left. -/
theorem readDigits_eq {decimal : Char → Option ℕ} (h : ReadsAscii decimal) {digits : List Char}
    (hdigits : ∀ c ∈ digits, c.isDigit = true) (value : ℕ) :
    readDigits decimal value digits = some (Nat.ofDigitChars 10 digits value) := by
  induction digits generalizing value with
  | nil => simp [readDigits]
  | cons c rest ih =>
    have hc := hdigits c List.mem_cons_self
    have hunderscore : c ≠ '_' := by
      rintro rfl
      exact absurd hc (by decide)
    have hread : readDigits decimal value (c :: rest) =
        (decimal c).bind fun d => readDigits decimal (value * 10 + d) rest := by
      rw [readDigits]
      exact fun _ _ heq => absurd heq hunderscore
    rw [hread, h.digit hc, Option.bind_some, ih fun d hd => hdigits d (List.mem_cons_of_mem c hd),
      Nat.ofDigitChars_cons, Nat.mul_comm]
    rfl

/-- The decimal text of a number is read back, unless it is too long. -/
theorem limitedInt?_repr {decimal : Char → Option ℕ} (h : ReadsAscii decimal) {n : ℕ} (hn : n < 10 ^ maxStrDigits) :
    limitedInt? decimal n.repr.toList = some (n : ℤ) := by
  have hdigits : ∀ c ∈ Nat.toDigits 10 n, c.isDigit = true :=
    fun c hc => Nat.isDigit_of_mem_toDigits (by decide) (by decide) hc
  have hlength : (Nat.toDigits 10 n).length ≤ maxStrDigits :=
    (Nat.length_toDigits_le_iff (by decide) (by decide)).mpr hn
  have hfew : ¬ maxStrDigits < ((Nat.toDigits 10 n).filter fun c => (decimal c).isSome).length :=
    not_lt.mpr ((List.length_filter_le _ _).trans hlength)
  rw [Nat.toList_repr, limitedInt?, if_neg hfew]
  cases hchars : Nat.toDigits 10 n with
  | nil => exact absurd hchars Nat.toDigits_ne_nil
  | cons c rest =>
    rw [hchars] at hdigits
    have hc := hdigits c List.mem_cons_self
    have hspace : ∀ d ∈ c :: rest, isIntSpace d = false := by
      intro d hd
      have hdigit := hdigits d hd
      simp only [Char.isDigit, Bool.and_eq_true, decide_eq_true_eq, ge_iff_le, UInt32.le_iff_toNat_le] at hdigit
      have hval : d.toNat = d.val.toNat := rfl
      simp at hdigit
      simp [isIntSpace, PyText.isSpace]
      omega
    have hplus : c ≠ '+' := by
      rintro rfl
      exact absurd hc (by decide)
    have hminus : c ≠ '-' := by
      rintro rfl
      exact absurd hc (by decide)
    have hvalue : Nat.ofDigitChars 10 (c :: rest) 0 = n := by
      rw [← hchars, Nat.ofDigitChars_ten_toDigits]
    rw [int?_unsigned hspace hplus hminus, readNat, h.digit hc, Option.bind_some,
      readDigits_eq h fun d hd => hdigits d (List.mem_cons_of_mem c hd)]
    rw [Nat.ofDigitChars_cons, Nat.mul_zero, Nat.zero_add] at hvalue
    exact congrArg (fun m : ℕ => some (m : ℤ)) hvalue

end PyString

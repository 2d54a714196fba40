import Mathlib.Data.List.DropRight
import Mathlib.Data.List.Basic

/-!
# URL-safe base64

Encoding takes three bytes to four digits and pads the last group; decoding is lenient: it
skips characters outside the alphabet, accepts both spellings of the last two digits, and
stops at a padding that completes a group. Decoding with the padding put back undoes encoding
without it, for byte strings of every length.
-/

namespace Base64

/-- The digit of a six-bit value. -/
def digit (n : ℕ) : Char :=
  if n < 26 then Char.ofNat (65 + n)
  else if n < 52 then Char.ofNat (71 + n)
  else if n < 62 then Char.ofNat (n - 4)
  else if n = 62 then '-' else '_'

/-- The value of a digit in either alphabet. -/
def value? (c : Char) : Option ℕ :=
  if 65 ≤ c.toNat ∧ c.toNat ≤ 90 then some (c.toNat - 65)
  else if 97 ≤ c.toNat ∧ c.toNat ≤ 122 then some (c.toNat - 71)
  else if 48 ≤ c.toNat ∧ c.toNat ≤ 57 then some (c.toNat + 4)
  else if c = '-' ∨ c = '+' then some 62
  else if c = '_' ∨ c = '/' then some 63
  else none

/-- The digits of a byte string, without padding. -/
def digits : List UInt8 → List Char
  | [] => []
  | [a] => [digit (a.toNat / 4), digit (a.toNat % 4 * 16)]
  | [a, b] => [digit (a.toNat / 4), digit (a.toNat % 4 * 16 + b.toNat / 16), digit (b.toNat % 16 * 4)]
  | a :: b :: c :: rest =>
    digit (a.toNat / 4) :: digit (a.toNat % 4 * 16 + b.toNat / 16) ::
      digit (b.toNat % 16 * 4 + c.toNat / 64) :: digit (c.toNat % 64) :: digits rest

/-- The padding that completes the last group. -/
def padding (length : ℕ) : List Char := List.replicate ((4 - length % 4) % 4) '='

/-- `urlsafe_b64encode`. -/
def encode (bytes : List UInt8) : List Char := digits bytes ++ padding (digits bytes).length

/-- The loop of the decoder: the position in a group, the bits left over from the digit before,
and the paddings seen since. -/
def decodeFrom (position left pads : ℕ) : List Char → Option (List UInt8)
  | [] => if position = 0 then some [] else none
  | c :: rest =>
    if c = '=' then
      if 2 ≤ position then
        if 4 ≤ position + (pads + 1) then some [] else decodeFrom position left (pads + 1) rest
      else decodeFrom position left pads rest
    else
      match value? c with
      | none => decodeFrom position left pads rest
      | some v =>
        match position with
        | 0 => decodeFrom 1 v 0 rest
        | 1 => (decodeFrom 2 (v % 16) 0 rest).map (UInt8.ofNat (left * 4 + v / 16) :: ·)
        | 2 => (decodeFrom 3 (v % 4) 0 rest).map (UInt8.ofNat (left * 16 + v / 4) :: ·)
        | _ => (decodeFrom 0 0 0 rest).map (UInt8.ofNat (left * 64 + v) :: ·)

/-- `urlsafe_b64decode`; text outside ASCII is an error. -/
def decode (text : List Char) : Option (List UInt8) :=
  if text.all fun c => c.toNat < 128 then decodeFrom 0 0 0 text else none

/-- Digits are read back. -/
theorem value?_digit {n : ℕ} (h : n < 64) : value? (digit n) = some n := by
  have hall : ∀ n < 64, value? (digit n) = some n := by decide
  exact hall n h

/-- No digit is the padding. -/
theorem digit_ne_pad {n : ℕ} (h : n < 64) : digit n ≠ '=' := by
  have hall : ∀ n < 64, digit n ≠ '=' := by decide
  exact hall n h

/-- Digits are ASCII. -/
theorem digit_ascii {n : ℕ} (h : n < 64) : (digit n).toNat < 128 := by
  have hall : ∀ n < 64, (digit n).toNat < 128 := by decide
  exact hall n h

/-- The digits of a byte string are digits of six-bit values. -/
theorem exists_of_mem_digits {bytes : List UInt8} {c : Char} (h : c ∈ digits bytes) :
    ∃ n < 64, c = digit n := by
  induction bytes using digits.induct with
  | case1 => cases h
  | case2 a =>
    have ha := a.toNat_lt
    simp only [digits, List.mem_cons, List.not_mem_nil, or_false] at h
    rcases h with rfl | rfl
    · exact ⟨_, by omega, rfl⟩
    · exact ⟨_, by omega, rfl⟩
  | case3 a b =>
    have ha := a.toNat_lt
    have hb := b.toNat_lt
    simp only [digits, List.mem_cons, List.not_mem_nil, or_false] at h
    rcases h with rfl | rfl | rfl
    · exact ⟨_, by omega, rfl⟩
    · exact ⟨_, by omega, rfl⟩
    · exact ⟨_, by omega, rfl⟩
  | case4 a b c' rest ih =>
    have ha := a.toNat_lt
    have hb := b.toNat_lt
    have hc := c'.toNat_lt
    simp only [digits, List.mem_cons] at h
    rcases h with rfl | rfl | rfl | rfl | hrest
    · exact ⟨_, by omega, rfl⟩
    · exact ⟨_, by omega, rfl⟩
    · exact ⟨_, by omega, rfl⟩
    · exact ⟨_, by omega, rfl⟩
    · exact ih hrest

/-- Stripping the padding of an encoded byte string leaves its digits. -/
theorem rdropWhile_encode (bytes : List UInt8) :
    (encode bytes).rdropWhile (· = '=') = digits bytes := by
  have hpad : ∀ n, (digits bytes ++ List.replicate n '=').rdropWhile (· = '=') =
      (digits bytes).rdropWhile (· = '=') := by
    intro n
    induction n with
    | zero => rw [List.replicate_zero, List.append_nil]
    | succ n ih =>
      rw [List.replicate_succ', ← List.append_assoc, List.rdropWhile_concat_pos _ _ _ (by decide), ih]
  rw [encode, padding, hpad, List.rdropWhile_eq_self_iff]
  intro hne hlast
  obtain ⟨n, hn, hdigit⟩ := exists_of_mem_digits (List.getLast_mem hne)
  exact digit_ne_pad hn (hdigit ▸ of_decide_eq_true hlast)

/-- The decoder reads one digit. -/
theorem decodeFrom_digit {n : ℕ} (hn : n < 64) (position left pads : ℕ) (rest : List Char) :
    decodeFrom position left pads (digit n :: rest) =
      match position with
      | 0 => decodeFrom 1 n 0 rest
      | 1 => (decodeFrom 2 (n % 16) 0 rest).map (UInt8.ofNat (left * 4 + n / 16) :: ·)
      | 2 => (decodeFrom 3 (n % 4) 0 rest).map (UInt8.ofNat (left * 16 + n / 4) :: ·)
      | _ => (decodeFrom 0 0 0 rest).map (UInt8.ofNat (left * 64 + n) :: ·) := by
  rw [decodeFrom, if_neg (digit_ne_pad hn), value?_digit hn]

/-- A byte put together from its bits. -/
theorem ofNat_eq {a : UInt8} {n : ℕ} (h : n = a.toNat) : UInt8.ofNat n = a := by
  rw [h, UInt8.ofNat_toNat]

/-- Decoding the padded digits of a byte string gives it back. -/
theorem decodeFrom_digits (bytes : List UInt8) :
    decodeFrom 0 0 0 (digits bytes ++ padding (digits bytes).length) = some bytes := by
  induction bytes using digits.induct with
  | case1 => rfl
  | case2 a =>
    have ha := a.toNat_lt
    have hbyte : UInt8.ofNat (a.toNat / 4 * 4 + a.toNat % 4 * 16 / 16) = a := ofNat_eq (by omega)
    simp only [digits, List.cons_append, List.nil_append, decodeFrom_digit (show a.toNat / 4 < 64 by omega),
      decodeFrom_digit (show a.toNat % 4 * 16 < 64 by omega), hbyte]
    rfl
  | case3 a b =>
    have ha := a.toNat_lt
    have hb := b.toNat_lt
    have hfirst : UInt8.ofNat (a.toNat / 4 * 4 + (a.toNat % 4 * 16 + b.toNat / 16) / 16) = a :=
      ofNat_eq (by omega)
    have hsecond : UInt8.ofNat ((a.toNat % 4 * 16 + b.toNat / 16) % 16 * 16 + b.toNat % 16 * 4 / 4) = b :=
      ofNat_eq (by omega)
    simp only [digits, List.cons_append, List.nil_append, decodeFrom_digit (show a.toNat / 4 < 64 by omega),
      decodeFrom_digit (show a.toNat % 4 * 16 + b.toNat / 16 < 64 by omega),
      decodeFrom_digit (show b.toNat % 16 * 4 < 64 by omega), hfirst, hsecond]
    rfl
  | case4 a b c rest ih =>
    have ha := a.toNat_lt
    have hb := b.toNat_lt
    have hc := c.toNat_lt
    have hfirst : UInt8.ofNat (a.toNat / 4 * 4 + (a.toNat % 4 * 16 + b.toNat / 16) / 16) = a :=
      ofNat_eq (by omega)
    have hsecond : UInt8.ofNat ((a.toNat % 4 * 16 + b.toNat / 16) % 16 * 16 +
        (b.toNat % 16 * 4 + c.toNat / 64) / 4) = b := ofNat_eq (by omega)
    have hthird : UInt8.ofNat ((b.toNat % 16 * 4 + c.toNat / 64) % 4 * 64 + c.toNat % 64) = c :=
      ofNat_eq (by omega)
    have hlength : padding (digits (a :: b :: c :: rest)).length = padding (digits rest).length := by
      simp only [padding, digits, List.length_cons]
      congr 1
      omega
    rw [hlength]
    simp only [digits, List.cons_append, decodeFrom_digit (show a.toNat / 4 < 64 by omega),
      decodeFrom_digit (show a.toNat % 4 * 16 + b.toNat / 16 < 64 by omega),
      decodeFrom_digit (show b.toNat % 16 * 4 + c.toNat / 64 < 64 by omega),
      decodeFrom_digit (show c.toNat % 64 < 64 by omega), hfirst, hsecond, hthird, ih, Option.map_some]

/-- Decoding with the padding put back undoes encoding without it. -/
theorem decode_digits (bytes : List UInt8) :
    decode (digits bytes ++ padding (digits bytes).length) = some bytes := by
  rw [decode, if_pos, decodeFrom_digits]
  rw [List.all_eq_true]
  intro c hc
  rw [decide_eq_true_eq]
  rcases List.mem_append.mp hc with hdigit | hpad
  · obtain ⟨n, hn, rfl⟩ := exists_of_mem_digits hdigit
    exact digit_ascii hn
  · rw [List.eq_of_mem_replicate hpad]
    decide

end Base64

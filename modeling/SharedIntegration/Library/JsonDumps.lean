import SharedIntegration.Library.CanonicalJson

/-!
# JSON texts read back

`json.dumps` without sorting, with either pair of separators and with or without `ensure_ascii`, and
`json.loads` behind it. Every value comes back as it was: a string ends at its closing quote, a
container at its bracket, and a number before whatever may follow a value. Floats are carried as
the texts that Python writes for them, which is why a float needs a text that is read as one.
-/

namespace Json

/-- The keyword arguments of `json.dumps` in use: whether the separators are the default ones, which have
a space behind them, and whether characters outside ASCII are escaped. -/
structure Layout where
  spaced : Bool
  ensureAscii : Bool

/-- `separators=(",", ":")` and `ensure_ascii=False`. -/
def Layout.compact : Layout := ⟨false, false⟩

namespace Layout

variable (layout : Layout)

/-- What stands behind a separator. -/
def pad : PyText := if layout.spaced then [32] else []

/-- A code unit as an escape. -/
def unicodeEscape (unit : ℕ) : PyText :=
  [92, 117, hexDigit (unit / 4096), hexDigit (unit / 256 % 16), hexDigit (unit / 16 % 16), hexDigit (unit % 16)]

/-- One character inside quotes. -/
def escape (c : ℕ) : PyText :=
  if layout.ensureAscii = false ∨ c < 127 then Json.escape c
  else if c < 0x10000 then unicodeEscape c
  else unicodeEscape (0xd800 + (c - 0x10000) / 0x400) ++ unicodeEscape (0xdc00 + (c - 0x10000) % 0x400)

/-- A string in quotes. -/
def quote (text : PyText) : PyText := 34 :: (text.flatMap layout.escape ++ [34])

/-- Parts with commas between them. -/
def join : List PyText → PyText
  | [] => []
  | [last] => last
  | first :: rest => first ++ 44 :: (layout.pad ++ join rest)

/-- A member of an object, with the text of its value. -/
def member (name value : PyText) : PyText := layout.quote name ++ 58 :: (layout.pad ++ value)

end Layout

mutual

/-- The text of a value. -/
def write (layout : Layout) : JsonValue → PyText
  | null => .of "null"
  | bool value => if value then .of "true" else .of "false"
  | int value => intText value
  | float literal => literal
  | str text => layout.quote text
  | arr items => 91 :: (layout.join (writeItems layout items) ++ [93])
  | obj entries => 123 :: (layout.join (writeMembers layout entries) ++ [125])

/-- The texts of items. -/
def writeItems (layout : Layout) : List JsonValue → List PyText
  | [] => []
  | item :: rest => write layout item :: writeItems layout rest

/-- The texts of members. -/
def writeMembers (layout : Layout) : List (PyText × JsonValue) → List PyText
  | [] => []
  | (name, value) :: rest => layout.member name (write layout value) :: writeMembers layout rest

end

/-- `json.dumps`; nothing means that it raises. -/
def dumpsText (layout : Layout) (nesting : ℕ) (value : JsonValue) : Option PyText :=
  if value.writable nesting then some (write layout value) else none

/-- No character is a surrogate. -/
def IsScalar (text : PyText) : Prop := ∀ c ∈ text, c.isValidChar

/-- The text is that of a float. -/
def IsFloat (literal : PyText) : Prop := JsonText.scanAtom literal = .ok (.float literal, [])

/-- Strings are well-formed texts, floats have texts of floats, and names are unique in every object. -/
inductive Readable : JsonValue → Prop
  | null : Readable null
  | bool (value : Bool) : Readable (bool value)
  | int (value : Int) : Readable (int value)
  | float {literal : PyText} (hliteral : IsFloat literal) : Readable (float literal)
  | str {text : PyText} (htext : IsScalar text) : Readable (str text)
  | arr {items : List JsonValue} (hitems : ∀ item ∈ items, Readable item) : Readable (arr items)
  | obj {entries : List (PyText × JsonValue)} (hnames : (entries.map Prod.fst).Nodup)
    (hscalar : ∀ entry ∈ entries, IsScalar entry.1) (hvalues : ∀ entry ∈ entries, Readable entry.2) :
    Readable (obj entries)

/-! ### Strings -/

/-- A hexadecimal digit is read as its value. -/
theorem hexDigit?_hexDigit {n : ℕ} (h : n < 16) : JsonText.hexDigit? (hexDigit n) = some n := by
  have hall : ∀ n < 16, JsonText.hexDigit? (hexDigit n) = some n := by decide
  exact hall n h

/-- An escaped code unit is read as that unit. -/
theorem scanPieces_unicodeEscape {unit : ℕ} (h : unit < 0x10000) (rest : PyText) :
    JsonText.scanPieces (Layout.unicodeEscape unit ++ rest) =
      (JsonText.scanPieces rest).map fun scanned => ((true, unit) :: scanned.1, scanned.2) := by
  have hunit : JsonText.codeUnit? (hexDigit (unit / 4096)) (hexDigit (unit / 256 % 16))
      (hexDigit (unit / 16 % 16)) (hexDigit (unit % 16)) = some unit := by
    simp only [JsonText.codeUnit?, hexDigit?_hexDigit (show unit / 4096 < 16 by omega),
      hexDigit?_hexDigit (Nat.mod_lt _ (show 0 < 16 by decide)), Option.bind_eq_bind, Option.bind_some,
      Option.pure_def, Option.some.injEq]
    omega
  simp only [Layout.unicodeEscape, List.cons_append, List.nil_append]
  rw [JsonText.scanPieces, hunit, Option.map_eq_bind]
  rfl

/-- A character that is no surrogate is not joined with what follows it. -/
theorem joinSurrogates_cons {c : ℕ} (hc : c.isValidChar) (escaped : Bool) (more : List (Bool × ℕ)) :
    JsonText.joinSurrogates ((escaped, c) :: more) = c :: JsonText.joinSurrogates more := by
  have hplain : ¬ (0xd800 ≤ c ∧ c ≤ 0xdbff) := by
    simp only [Nat.isValidChar] at hc
    omega
  cases escaped with
  | false => cases more <;> rfl
  | true =>
    cases more with
    | nil => rfl
    | cons second more =>
      obtain ⟨escaped', c'⟩ := second
      cases escaped' with
      | false => rfl
      | true => rw [JsonText.joinSurrogates, if_neg fun h => hplain h.1]

/-- An escaped character is read as pieces that are joined to that character. -/
theorem scanPieces_layout (layout : Layout) {c : ℕ} (hc : c.isValidChar) (rest : PyText) : ∃ pieces,
    JsonText.scanPieces (layout.escape c ++ rest) =
      (JsonText.scanPieces rest).map (fun scanned => (pieces ++ scanned.1, scanned.2)) ∧
    ∀ more, JsonText.joinSurrogates (pieces ++ more) = c :: JsonText.joinSurrogates more := by
  unfold Layout.escape
  split_ifs with hplain hbasic
  · obtain ⟨escaped, hescape⟩ := scanPieces_escape c rest
    exact ⟨[(escaped, c)], hescape, joinSurrogates_cons hc escaped⟩
  · exact ⟨[(true, c)], scanPieces_unicodeEscape hbasic rest, joinSurrogates_cons hc true⟩
  · have hlast : c < 0x110000 := by
      simp only [Nat.isValidChar] at hc
      omega
    refine ⟨[(true, 0xd800 + (c - 0x10000) / 0x400), (true, 0xdc00 + (c - 0x10000) % 0x400)], ?_, fun more => ?_⟩
    · rw [List.append_assoc, scanPieces_unicodeEscape (by omega), scanPieces_unicodeEscape (by omega), Option.map_map]
      rfl
    · simp only [List.cons_append, List.nil_append]
      have hpair : 0x10000 + (0xd800 + (c - 0x10000) / 0x400 - 0xd800) * 0x400 +
          (0xdc00 + (c - 0x10000) % 0x400 - 0xdc00) = c := by
        omega
      rw [JsonText.joinSurrogates, if_pos (by omega), hpair]

/-- A string in quotes is read back. -/
theorem scanString_layout (layout : Layout) {text : PyText} (htext : IsScalar text) (rest : PyText) :
    JsonText.scanString (text.flatMap layout.escape ++ 34 :: rest) = .ok (text, rest) := by
  have hpieces : ∃ pieces, JsonText.scanPieces (text.flatMap layout.escape ++ 34 :: rest) = some (pieces, rest) ∧
      JsonText.joinSurrogates pieces = text := by
    induction text with
    | nil => exact ⟨[], by simp [JsonText.scanPieces], rfl⟩
    | cons c text ih =>
      obtain ⟨tail, hscan, hjoin⟩ := ih fun d hd => htext d (List.mem_cons_of_mem c hd)
      obtain ⟨pieces, hescape, hpieces⟩ := scanPieces_layout layout (htext c List.mem_cons_self)
        (text.flatMap layout.escape ++ 34 :: rest)
      refine ⟨pieces ++ tail, ?_, by rw [hpieces, hjoin]⟩
      rw [List.flatMap_cons, List.append_assoc, hescape, hscan, Option.map_some]
  obtain ⟨pieces, hscan, hjoin⟩ := hpieces
  rw [JsonText.scanString, hscan, ← hjoin]

/-! ### Numbers -/

/-- What may follow a value. -/
def Ends (rest : PyText) : Prop := ∀ c ∈ rest.head?, c = 44 ∨ c = 93 ∨ c = 125

/-- No digit follows a value. -/
theorem Ends.not_digit {rest : PyText} (h : Ends rest) : ∀ c ∈ rest.head?, JsonText.isDigit c = false := by
  intro c hc
  rcases h c hc with rfl | rfl | rfl <;> rfl

/-- A comma or the bracket of a container may follow a value. -/
theorem ends_cons {c : ℕ} (h : c = 44 ∨ c = 93 ∨ c = 125) (rest : PyText) : Ends (c :: rest) := by
  intro d hd
  cases hd
  exact h

/-- Digits end before what may follow a value. -/
theorem spanDigits_append {rest : PyText} (hrest : Ends rest) (text : PyText) :
    JsonText.spanDigits (text ++ rest) =
      ((JsonText.spanDigits text).1, (JsonText.spanDigits text).2 ++ rest) := by
  induction text with
  | nil =>
    cases rest with
    | nil => rfl
    | cons c rest =>
      have hc := hrest.not_digit c rfl
      simp [JsonText.spanDigits, hc]
  | cons c text ih =>
    simp only [JsonText.spanDigits, Prod.mk.injEq] at ih ⊢
    by_cases hc : JsonText.isDigit c = true
    · simp [hc, ih.1, ih.2]
    · simp [hc]

/-- The integer part ends before what may follow a value. -/
theorem scanInteger_append {text digits tail rest : PyText} (hrest : Ends rest)
    (h : JsonText.scanInteger text = some (digits, tail)) :
    JsonText.scanInteger (text ++ rest) = some (digits, tail ++ rest) := by
  unfold JsonText.scanInteger at h
  split at h
  · cases h
    rfl
  · next d more hzero =>
    split at h
    · next hd =>
      rw [Option.some.injEq] at h
      rw [List.cons_append, JsonText.scanInteger, if_pos hd, ← List.cons_append, spanDigits_append hrest, h]
      exact fun hd => hzero hd
    · cases h
  · cases h

/-- So does the fraction. -/
theorem scanFraction_append {rest : PyText} (hrest : Ends rest) (text : PyText) :
    JsonText.scanFraction (text ++ rest) =
      ((JsonText.scanFraction text).1, (JsonText.scanFraction text).2 ++ rest) := by
  match text with
  | [] =>
    cases rest with
    | nil => rfl
    | cons c rest =>
      rcases hrest c rfl with rfl | rfl | rfl <;> rfl
  | [c] =>
    by_cases hc : c = 46
    · subst hc
      cases rest with
      | nil => rfl
      | cons d rest =>
        have hd := hrest.not_digit d rfl
        simp [JsonText.scanFraction, hd]
    · rw [List.singleton_append, JsonText.scanFraction, JsonText.scanFraction]
      · rfl
      · exact fun _ _ h => hc (List.cons.inj h).1
      · exact fun _ _ h => hc (List.cons.inj h).1
  | c :: d :: text =>
    by_cases hc : c = 46
    · subst hc
      by_cases hd : JsonText.isDigit d = true
      · simp only [List.cons_append, JsonText.scanFraction, if_pos hd]
        rw [← List.cons_append, spanDigits_append hrest]
      · simp [JsonText.scanFraction, hd]
    · rw [List.cons_append, JsonText.scanFraction, JsonText.scanFraction]
      · rfl
      · exact fun _ _ h => hc (List.cons.inj h).1
      · exact fun _ _ h => hc (List.cons.inj h).1

/-- So does the sign of an exponent. -/
theorem scanSign_append {rest : PyText} (hrest : Ends rest) (text : PyText) :
    JsonText.scanSign (text ++ rest) = ((JsonText.scanSign text).1, (JsonText.scanSign text).2 ++ rest) := by
  cases text with
  | nil =>
    cases rest with
    | nil => rfl
    | cons c rest => rcases hrest c rfl with rfl | rfl | rfl <;> rfl
  | cons c text =>
    rw [List.cons_append]
    unfold JsonText.scanSign
    split
    · next h =>
      cases h
      rfl
    · next h =>
      cases h
      rfl
    · next hplus hminus =>
      split
      · next h =>
        cases h
        exact absurd rfl (hplus _)
      · next h =>
        cases h
        exact absurd rfl (hminus _)
      · rfl

/-- So does the exponent. -/
theorem scanExponent_append {rest : PyText} (hrest : Ends rest) (text : PyText) :
    JsonText.scanExponent (text ++ rest) =
      ((JsonText.scanExponent text).1, (JsonText.scanExponent text).2 ++ rest) := by
  cases text with
  | nil =>
    cases rest with
    | nil => rfl
    | cons c rest => rcases hrest c rfl with rfl | rfl | rfl <;> simp [JsonText.scanExponent]
  | cons e text =>
    simp only [List.cons_append, JsonText.scanExponent, scanSign_append hrest, spanDigits_append hrest]
    split <;> rfl

/-- A number without its sign ends before what may follow a value. -/
theorem scanUnsigned_append {negative : Bool} {text tail rest : PyText} {value : JsonValue} (hrest : Ends rest)
    (h : JsonText.scanUnsigned negative text = .ok (value, tail)) :
    JsonText.scanUnsigned negative (text ++ rest) = .ok (value, tail ++ rest) := by
  unfold JsonText.scanUnsigned at h ⊢
  cases hinteger : JsonText.scanInteger text with
  | none =>
    rw [hinteger] at h
    cases h
  | some scanned =>
    obtain ⟨digits, after⟩ := scanned
    rw [hinteger] at h
    rw [scanInteger_append hrest hinteger]
    simp only [scanFraction_append hrest, scanExponent_append hrest] at h ⊢
    split at h
    · next hfloat =>
      cases h
      rw [if_pos hfloat]
    · next hint =>
      rw [if_neg hint]
      split at h
      · cases h
      · next hdigits =>
        cases h
        rw [if_neg hdigits]

/-- A number ends before what may follow a value. -/
theorem scanNumber_append {text tail rest : PyText} {value : JsonValue} (hrest : Ends rest)
    (h : JsonText.scanNumber text = .ok (value, tail)) :
    JsonText.scanNumber (text ++ rest) = .ok (value, tail ++ rest) := by
  unfold JsonText.scanNumber at h
  split at h
  · exact scanUnsigned_append hrest h
  · next hminus =>
    cases text with
    | nil => cases h
    | cons c text =>
      rw [List.cons_append, JsonText.scanNumber, ← List.cons_append]
      · exact scanUnsigned_append hrest h
      · rintro _ hc
        cases hc
        exact hminus _ rfl

/-- A text that begins with a digit, behind a minus or not, is no word. -/
theorem find_constants {text : PyText} (h : ∃ c rest, JsonText.isDigit c = true ∧ (text = c :: rest ∨ text = 45 :: c :: rest)) :
    (JsonText.constants.find? fun constant => constant.1.isPrefixOf text) = none := by
  obtain ⟨c, rest, hdigit, htext⟩ := h
  have hbounds : 48 ≤ c ∧ c ≤ 57 := by simpa [JsonText.isDigit] using hdigit
  rw [List.find?_eq_none]
  intro constant hconstant
  have hwords : ∀ word ∈ JsonText.constants.map Prod.fst,
      2 ≤ word.length ∧ (57 < word.headD 0 ∨ word.headD 0 = 45) ∧ 57 < word.tail.headD 0 := by
    decide
  obtain ⟨hlength, ha, hb⟩ := hwords _ (List.mem_map_of_mem hconstant)
  obtain ⟨a, b, more, hword⟩ : ∃ a b more, constant.1 = a :: b :: more := by
    obtain ⟨a, rest, hrest⟩ := List.exists_cons_of_length_pos (by omega : 0 < constant.1.length)
    rw [hrest, List.length_cons] at hlength
    obtain ⟨b, more, hmore⟩ := List.exists_cons_of_length_pos (by omega : 0 < rest.length)
    exact ⟨a, b, more, by rw [hrest, hmore]⟩
  rw [hword] at ha hb ⊢
  simp only [List.headD_cons, List.tail_cons] at ha hb
  rcases htext with rfl | rfl
  · have hne : a ≠ c := by omega
    simp [List.isPrefixOf, hne]
  · have hne : b ≠ c := by omega
    simp [List.isPrefixOf, hne]

/-- A number begins with a digit, behind a minus or not. -/
theorem starts_of_scanNumber {text tail : PyText} {value : JsonValue} (h : JsonText.scanNumber text = .ok (value, tail)) :
    ∃ c rest, JsonText.isDigit c = true ∧ (text = c :: rest ∨ text = 45 :: c :: rest) := by
  have hunsigned : ∀ {negative text}, JsonText.scanUnsigned negative text = .ok (value, tail) →
      ∃ c rest, JsonText.isDigit c = true ∧ text = c :: rest := by
    intro negative text h
    unfold JsonText.scanUnsigned at h
    cases hinteger : JsonText.scanInteger text with
    | none =>
      rw [hinteger] at h
      cases h
    | some scanned =>
      unfold JsonText.scanInteger at hinteger
      split at hinteger
      · exact ⟨48, _, rfl, rfl⟩
      · next d more _ =>
        split at hinteger
        · next hd => exact ⟨d, more, hd, rfl⟩
        · cases hinteger
      · cases hinteger
  unfold JsonText.scanNumber at h
  split at h
  · obtain ⟨c, rest, hc, rfl⟩ := hunsigned h
    exact ⟨c, rest, hc, .inr rfl⟩
  · obtain ⟨c, rest, hc, rfl⟩ := hunsigned h
    exact ⟨c, rest, hc, .inl rfl⟩

/-- A number is a word or a number. -/
theorem scanAtom_number {text tail rest : PyText} {value : JsonValue} (hrest : Ends rest)
    (h : JsonText.scanNumber text = .ok (value, tail)) :
    JsonText.scanAtom (text ++ rest) = .ok (value, tail ++ rest) := by
  have hnumber := scanNumber_append hrest h
  rw [JsonText.scanAtom, find_constants (starts_of_scanNumber hnumber), hnumber]

/-- The text of a float is read as that float, wherever it stands. -/
theorem scanAtom_float {literal rest : PyText} (hliteral : IsFloat literal) (hrest : Ends rest) :
    JsonText.scanAtom (literal ++ rest) = .ok (.float literal, rest) := by
  have hscan : JsonText.scanAtom literal = .ok (.float literal, []) := hliteral
  rw [JsonText.scanAtom] at hscan
  split at hscan
  · next word value hfind =>
    obtain ⟨⟨rfl⟩, hdrop⟩ := Prod.mk.inj (Except.ok.inj hscan)
    have hprefix : word.isPrefixOf literal = true :=
      @List.find?_some _ (fun constant : PyText × JsonValue => constant.1.isPrefixOf literal) _ _ hfind
    obtain ⟨more, hmore⟩ := List.isPrefixOf_iff_prefix.mp hprefix
    have hword : word = literal := by
      rw [← hmore, List.drop_left] at hdrop
      rw [← hmore, hdrop, List.append_nil]
    have hmem := List.mem_of_find?_eq_some hfind
    rw [hword] at hmem
    simp only [JsonText.constants, List.mem_cons, Prod.mk.injEq, reduceCtorEq, and_false, false_or,
      Json.float.injEq, and_self, List.not_mem_nil, or_false] at hmem
    rcases hmem with rfl | rfl | rfl <;> rfl
  · have hnumber := scanAtom_number hrest hscan
    rwa [List.nil_append] at hnumber

/-- Digits are scanned to their end. -/
theorem spanDigits_of_digits {digits : PyText} (h : ∀ c ∈ digits, JsonText.isDigit c = true) :
    JsonText.spanDigits digits = (digits, []) := by
  rw [JsonText.spanDigits, List.takeWhile_eq_self_iff.mpr h, List.dropWhile_eq_nil_iff.mpr h]

/-- A positive number has no leading zero. -/
theorem head_toDigits {n : ℕ} (hn : 0 < n) : (Nat.toDigits 10 n).head? ≠ some '0' := by
  induction n using Nat.strongRecOn with
  | ind n ih =>
    rw [Nat.toDigits_eq_if (by decide)]
    split
    · next hsmall =>
      have hall : ∀ n < 10, 0 < n → n.digitChar ≠ '0' := by decide
      simpa using hall n hsmall hn
    · next hlarge =>
      rw [List.head?_append_of_ne_nil _ Nat.toDigits_ne_nil]
      exact ih (n / 10) (by omega) (by omega)

/-- The digits of a natural number are an integer part. -/
theorem scanInteger_digits (n : ℕ) : JsonText.scanInteger ((Nat.toDigits 10 n).map Char.toNat) =
    some ((Nat.toDigits 10 n).map Char.toNat, []) := by
  rcases Nat.eq_zero_or_pos n with rfl | hn
  · rfl
  · cases hdigits : (Nat.toDigits 10 n).map Char.toNat with
    | nil => exact absurd (List.map_eq_nil_iff.mp hdigits) Nat.toDigits_ne_nil
    | cons c rest =>
      have hall : ∀ d ∈ c :: rest, JsonText.isDigit d = true := fun d hd => isDigit_of_mem_digits (hdigits ▸ hd)
      have hzero : c ≠ 48 := by
        rintro rfl
        apply head_toDigits hn
        cases hchars : Nat.toDigits 10 n with
        | nil => exact absurd hchars Nat.toDigits_ne_nil
        | cons d more =>
          rw [hchars, List.map_cons] at hdigits
          exact congrArg some (Char.toNat_inj.mp (List.cons.inj hdigits).1)
      rw [JsonText.scanInteger, if_pos (hall c List.mem_cons_self), spanDigits_of_digits hall]
      exact fun h => hzero h

/-- The digits of a natural number denote it. -/
theorem natOfDigits_digits (n : ℕ) : JsonText.natOfDigits ((Nat.toDigits 10 n).map Char.toNat) = n := by
  have hfold : ∀ (chars : List Char) (start : ℕ), (chars.map Char.toNat).foldl (fun value d => value * 10 + (d - 48)) start =
      Nat.ofDigitChars 10 chars start := by
    intro chars
    induction chars with
    | nil => exact fun start => Nat.ofDigitChars_nil.symm
    | cons c chars ih =>
      intro start
      rw [List.map_cons, List.foldl_cons, ih, Nat.ofDigitChars_cons, Nat.mul_comm start 10]
      rfl
  rw [JsonText.natOfDigits, hfold, Nat.ofDigitChars_ten_toDigits]

/-- Digits that are not too many are read as the number they denote. -/
theorem scanUnsigned_digits (negative : Bool) {n : ℕ} (hn : n < 10 ^ JsonText.maxDigits) :
    JsonText.scanUnsigned negative ((Nat.toDigits 10 n).map Char.toNat) =
      .ok (.int (if negative then -n else n), []) := by
  have hlength : ((Nat.toDigits 10 n).map Char.toNat).length ≤ JsonText.maxDigits := by
    rw [List.length_map]
    exact (Nat.length_toDigits_le_iff (by decide) (by decide)).mpr hn
  simp only [JsonText.scanUnsigned, scanInteger_digits, JsonText.scanFraction, JsonText.scanExponent,
    List.append_nil, ne_eq, not_true_eq_false, if_false, natOfDigits_digits]
  rw [if_neg (Nat.not_lt.mpr hlength)]

/-- The text of an integer is read as that integer. -/
theorem scanNumber_intText {value : ℤ} (hvalue : value.natAbs < 10 ^ JsonText.maxDigits) :
    JsonText.scanNumber (intText value) = .ok (.int value, []) := by
  cases value with
  | ofNat n =>
    have hminus : ∀ rest, intText (Int.ofNat n) ≠ 45 :: rest := by
      intro rest h
      have hmem : 45 ∈ intText (Int.ofNat n) := h ▸ List.mem_cons_self
      exact absurd (isDigit_of_mem_digits hmem) (by decide)
    rw [JsonText.scanNumber]
    · exact scanUnsigned_digits false hvalue
    · exact hminus
  | negSucc n => exact scanUnsigned_digits true hvalue

/-! ### Containers -/

/-- Separators are followed by space at most. -/
theorem skipSpace_pad (layout : Layout) (text : PyText) :
    JsonText.skipSpace (layout.pad ++ text) = JsonText.skipSpace text := by
  unfold Layout.pad
  split <;> rfl

/-- A text that begins with a character other than a space keeps it. -/
theorem skipSpace_cons {c : ℕ} (hc : JsonText.isSpace c = false) (text : PyText) :
    JsonText.skipSpace (c :: text) = c :: text := by
  rw [JsonText.skipSpace, List.dropWhile_cons_of_neg (by rw [hc]; exact Bool.false_ne_true)]

/-- What may follow a value is no space. -/
theorem skipSpace_ends {rest : PyText} (h : Ends rest) : JsonText.skipSpace rest = rest := by
  cases rest with
  | nil => rfl
  | cons c rest =>
    rcases h c rfl with rfl | rfl | rfl <;> exact skipSpace_cons rfl rest

/-- A float begins with a character that is neither a space nor a bracket nor a quote. -/
theorem float_starts {literal : PyText} (h : IsFloat literal) :
    ∃ c rest, literal = c :: rest ∧ JsonText.isSpace c = false ∧ c ∉ [34, 91, 93, 123, 125, 0xfeff] := by
  have hscan : JsonText.scanAtom literal = .ok (.float literal, []) := h
  rw [JsonText.scanAtom] at hscan
  split at hscan
  · next word value hfind =>
    obtain ⟨⟨rfl⟩, -⟩ := Prod.mk.inj (Except.ok.inj hscan)
    have hmem := List.mem_of_find?_eq_some hfind
    simp only [JsonText.constants, List.mem_cons, Prod.mk.injEq, reduceCtorEq, and_false, false_or,
      Json.float.injEq, List.not_mem_nil, or_false] at hmem
    rcases hmem with ⟨-, rfl⟩ | ⟨-, rfl⟩ | ⟨-, rfl⟩ <;> exact ⟨_, _, rfl, rfl, by decide⟩
  · obtain ⟨c, rest, hdigit, htext⟩ := starts_of_scanNumber hscan
    have hbounds : 48 ≤ c ∧ c ≤ 57 := by simpa [JsonText.isDigit] using hdigit
    rcases htext with rfl | rfl
    · refine ⟨c, rest, rfl, ?_, ?_⟩
      · simp [JsonText.isSpace]
        omega
      · simp
        omega
    · exact ⟨45, _, rfl, rfl, by decide⟩

/-- A value begins with a character that is neither a space nor a closing bracket. -/
theorem write_starts (layout : Layout) {value : JsonValue} (h : value.Readable) : ∃ c rest,
    write layout value = c :: rest ∧ JsonText.isSpace c = false ∧ c ∉ [93, 125, 0xfeff] := by
  have hword : ∀ word : PyText, (∃ c rest, word = c :: rest ∧ JsonText.isSpace c = false ∧ c ∉ [34, 91, 93, 123, 125, 0xfeff]) →
      ∃ c rest, word = c :: rest ∧ JsonText.isSpace c = false ∧ c ∉ [93, 125, 0xfeff] := by
    rintro word ⟨c, rest, htext, hspace, hc⟩
    refine ⟨c, rest, htext, hspace, fun hmem => hc ?_⟩
    simp only [List.mem_cons, List.not_mem_nil, or_false] at hmem ⊢
    omega
  cases h with
  | null => exact ⟨_, _, rfl, rfl, by decide⟩
  | bool value => cases value <;> exact ⟨_, _, rfl, rfl, by decide⟩
  | int value =>
    obtain ⟨c, rest, htext, hstart, -⟩ := intText_starts value
    refine ⟨c, rest, htext, ?_, ?_⟩ <;> rcases hstart with hdigit | rfl
    · have hbounds : 48 ≤ c ∧ c ≤ 57 := by simpa [JsonText.isDigit] using hdigit
      simp [JsonText.isSpace]
      omega
    · rfl
    · have hbounds : 48 ≤ c ∧ c ≤ 57 := by simpa [JsonText.isDigit] using hdigit
      simp
      omega
    · decide
  | float hliteral => exact hword _ (float_starts hliteral)
  | str htext => exact ⟨34, _, rfl, rfl, by decide⟩
  | arr hitems => exact ⟨91, _, by rw [write], rfl, by decide⟩
  | obj hnames hscalar hvalues => exact ⟨123, _, by rw [write], rfl, by decide⟩

/-- The texts of items, one by one. -/
theorem writeItems_eq (layout : Layout) (items : List JsonValue) :
    writeItems layout items = items.map (write layout) := by
  induction items with
  | nil => rfl
  | cons item rest ih => rw [writeItems, ih, List.map_cons]

/-- The text of a member. -/
def writeMember (layout : Layout) (entry : PyText × JsonValue) : PyText :=
  layout.member entry.1 (write layout entry.2)

/-- The texts of members, one by one. -/
theorem writeMembers_eq (layout : Layout) (entries : List (PyText × JsonValue)) :
    writeMembers layout entries = entries.map (writeMember layout) := by
  induction entries with
  | nil => rfl
  | cons entry rest ih => rw [writeMembers, ih, List.map_cons, writeMember]

/-- A part other than the last one is followed by a comma. -/
theorem join_cons_cons (layout : Layout) (first second : PyText) (rest : List PyText) :
    layout.join (first :: second :: rest) = first ++ 44 :: (layout.pad ++ layout.join (second :: rest)) := rfl

/-- Parts that begin with no space are joined to a text that begins with none. -/
theorem join_starts (layout : Layout) {first : PyText} {c : ℕ} {tail : PyText} (h : first = c :: tail)
    (rest : List PyText) : ∃ more, layout.join (first :: rest) = c :: more := by
  subst h
  cases rest with
  | nil => exact ⟨tail, rfl⟩
  | cons second rest => exact ⟨_, rfl⟩

/-- Every part but one brings a comma. -/
theorem length_join (layout : Layout) (parts : List PyText) : parts.length ≤ (layout.join parts).length + 1 := by
  induction parts with
  | nil => exact Nat.zero_le _
  | cons first rest ih =>
    cases rest with
    | nil => exact Nat.succ_le_succ (Nat.zero_le _)
    | cons second rest =>
      rw [join_cons_cons]
      simp only [List.length_cons, List.length_append] at ih ⊢
      omega

section Containers

variable {scanValue : PyText → Except JsonError (JsonValue × PyText)} {layout : Layout}

/-- A value is scanned up to where it ends. -/
def Scans (scanValue : PyText → Except JsonError (JsonValue × PyText)) (layout : Layout) (value : JsonValue) : Prop :=
  ∀ rest, Ends rest → scanValue (write layout value ++ rest) = .ok (value, rest)

/-- Items are scanned up to the bracket behind them. -/
theorem scanItems_write {item : JsonValue} {items acc : List JsonValue} {fuel : ℕ} (hfuel : items.length < fuel)
    (hscan : ∀ value ∈ item :: items, Scans scanValue layout value)
    (hreadable : ∀ value ∈ item :: items, value.Readable) (rest : PyText) :
    JsonText.scanItems scanValue fuel acc (layout.join ((item :: items).map (write layout)) ++ 93 :: rest) =
      .ok (.arr (acc ++ item :: items), rest) := by
  induction items generalizing item acc fuel with
  | nil =>
    obtain ⟨fuel, rfl⟩ : ∃ n, fuel = n + 1 := ⟨fuel - 1, by omega⟩
    have hclose : Ends (93 :: rest) := ends_cons (.inr (.inl rfl)) rest
    simp only [List.map_cons, List.map_nil, Layout.join, JsonText.scanItems]
    rw [hscan item List.mem_cons_self _ hclose]
    simp only [Except.bind, bind, skipSpace_ends hclose]
    rfl
  | cons second items ih =>
    obtain ⟨fuel, rfl⟩ : ∃ n, fuel = n + 1 := ⟨fuel - 1, by omega⟩
    rw [List.map_cons, List.map_cons, join_cons_cons, ← List.map_cons, List.append_assoc, List.cons_append,
      List.append_assoc, JsonText.scanItems]
    have hcomma : Ends (44 :: (layout.pad ++ (layout.join ((second :: items).map (write layout)) ++ 93 :: rest))) :=
      ends_cons (.inl rfl) _
    obtain ⟨c, tail, htext, hspace, -⟩ := write_starts layout (hreadable second (by simp))
    obtain ⟨more, hmore⟩ := join_starts layout htext (items.map (write layout))
    have hskip : JsonText.skipSpace (layout.pad ++ (layout.join ((second :: items).map (write layout)) ++ 93 :: rest)) =
        layout.join ((second :: items).map (write layout)) ++ 93 :: rest := by
      rw [skipSpace_pad, List.map_cons, hmore, List.cons_append, skipSpace_cons hspace]
    rw [hscan item List.mem_cons_self _ hcomma]
    simp only [Except.bind, bind, skipSpace_ends hcomma, hskip]
    rw [ih (by simpa using hfuel) (fun value hvalue => hscan value (List.mem_cons_of_mem item hvalue))
      (fun value hvalue => hreadable value (List.mem_cons_of_mem item hvalue)), List.append_assoc]
    rfl

/-- A member is scanned up to where its value ends. -/
theorem scanMember_write {entry : PyText × JsonValue} (hname : IsScalar entry.1)
    (hvalue : entry.2.Readable) (hscan : Scans scanValue layout entry.2) {rest : PyText} (hrest : Ends rest) :
    JsonText.scanMember scanValue (writeMember layout entry ++ rest) = .ok (entry, rest) := by
  have hshape : writeMember layout entry ++ rest = 34 :: (entry.1.flatMap layout.escape ++
      34 :: 58 :: (layout.pad ++ (write layout entry.2 ++ rest))) := by
    simp [writeMember, Layout.member, Layout.quote]
  obtain ⟨c, tail, htext, hspace, -⟩ := write_starts layout hvalue
  have hskip : JsonText.skipSpace (layout.pad ++ (write layout entry.2 ++ rest)) = write layout entry.2 ++ rest := by
    rw [skipSpace_pad, htext, List.cons_append, skipSpace_cons hspace]
  have hcolon : JsonText.skipSpace (58 :: (layout.pad ++ (write layout entry.2 ++ rest))) =
      58 :: (layout.pad ++ (write layout entry.2 ++ rest)) := skipSpace_cons rfl _
  rw [hshape, JsonText.scanMember, scanString_layout layout hname]
  simp only [Except.bind, bind, hcolon, hskip, hscan rest hrest]
  rfl

/-- An assignment of a new name appends it. -/
theorem setEntry_new {entries : List (PyText × JsonValue)} {name : PyText} {value : JsonValue}
    (h : name ∉ entries.map Prod.fst) : setEntry entries name value = entries ++ [(name, value)] := by
  rw [setEntry, if_neg]
  intro hany
  obtain ⟨entry, hentry, hname⟩ := List.any_eq_true.mp hany
  rw [decide_eq_true_eq] at hname
  exact h (hname ▸ List.mem_map_of_mem hentry)

/-- Members are scanned up to the brace behind them. -/
theorem scanMembers_write {entry : PyText × JsonValue} {entries acc : List (PyText × JsonValue)} {fuel : ℕ}
    (hfuel : entries.length < fuel) (hnames : ((acc ++ entry :: entries).map Prod.fst).Nodup)
    (hscalar : ∀ member ∈ entry :: entries, IsScalar member.1)
    (hreadable : ∀ member ∈ entry :: entries, member.2.Readable)
    (hscan : ∀ member ∈ entry :: entries, Scans scanValue layout member.2) (rest : PyText) :
    JsonText.scanMembers scanValue fuel acc (layout.join ((entry :: entries).map (writeMember layout)) ++ 125 :: rest) =
      .ok (.obj (acc ++ entry :: entries), rest) := by
  induction entries generalizing entry acc fuel with
  | nil =>
    obtain ⟨fuel, rfl⟩ : ∃ n, fuel = n + 1 := ⟨fuel - 1, by omega⟩
    have hclose : Ends (125 :: rest) := ends_cons (.inr (.inr rfl)) rest
    have hnew : entry.1 ∉ acc.map Prod.fst := by
      rw [List.map_append, List.nodup_append] at hnames
      exact fun hmem => hnames.2.2 _ hmem _ List.mem_cons_self rfl
    simp only [List.map_cons, List.map_nil, Layout.join, JsonText.scanMembers]
    rw [scanMember_write (hscalar entry List.mem_cons_self) (hreadable entry List.mem_cons_self)
      (hscan entry List.mem_cons_self) hclose]
    simp only [Except.bind, bind, skipSpace_ends hclose, setEntry_new hnew]
    rfl
  | cons second entries ih =>
    obtain ⟨fuel, rfl⟩ : ∃ n, fuel = n + 1 := ⟨fuel - 1, by omega⟩
    have hnew : entry.1 ∉ acc.map Prod.fst := by
      rw [List.map_append, List.nodup_append] at hnames
      exact fun hmem => hnames.2.2 _ hmem _ List.mem_cons_self rfl
    rw [List.map_cons, List.map_cons, join_cons_cons, ← List.map_cons, List.append_assoc, List.cons_append,
      List.append_assoc, JsonText.scanMembers]
    have hcomma : Ends (44 :: (layout.pad ++
        (layout.join ((second :: entries).map (writeMember layout)) ++ 125 :: rest))) := ends_cons (.inl rfl) _
    obtain ⟨more, hmore⟩ := join_starts layout (show writeMember layout second = 34 :: _ from rfl)
      (entries.map (writeMember layout))
    have hskip : JsonText.skipSpace (layout.pad ++ (layout.join ((second :: entries).map (writeMember layout)) ++ 125 :: rest)) =
        layout.join ((second :: entries).map (writeMember layout)) ++ 125 :: rest := by
      rw [skipSpace_pad, List.map_cons, hmore, List.cons_append, skipSpace_cons rfl]
    rw [scanMember_write (hscalar entry List.mem_cons_self) (hreadable entry List.mem_cons_self)
      (hscan entry List.mem_cons_self) hcomma]
    simp only [Except.bind, bind, skipSpace_ends hcomma, hskip, setEntry_new hnew]
    rw [ih (by simpa using hfuel) (by simpa using hnames)
      (fun member hmember => hscalar member (List.mem_cons_of_mem entry hmember))
      (fun member hmember => hreadable member (List.mem_cons_of_mem entry hmember))
      (fun member hmember => hscan member (List.mem_cons_of_mem entry hmember)), List.append_assoc]
    rfl

/-- An array that does not close at once has items. -/
theorem scanArray_eq_scanItems {text : PyText} {c : ℕ} (hc : c ≠ 93) (h : JsonText.skipSpace text = c :: text.tail) :
    JsonText.scanArray scanValue text = JsonText.scanItems scanValue ((c :: text.tail).length + 1) [] (c :: text.tail) := by
  rw [JsonText.scanArray, h]
  split
  · next hclose => exact absurd (List.cons.inj hclose).1 hc
  · rfl

/-- An object that does not close at once has members. -/
theorem scanObject_eq_scanMembers {text : PyText} {c : ℕ} (hc : c ≠ 125) (h : JsonText.skipSpace text = c :: text.tail) :
    JsonText.scanObject scanValue text = JsonText.scanMembers scanValue ((c :: text.tail).length + 1) [] (c :: text.tail) := by
  rw [JsonText.scanObject, h]
  split
  · next hclose => exact absurd (List.cons.inj hclose).1 hc
  · rfl

/-- The text of an array is scanned behind its bracket. -/
theorem scanArray_write {items : List JsonValue} (hscan : ∀ item ∈ items, Scans scanValue layout item)
    (hreadable : ∀ item ∈ items, item.Readable) (rest : PyText) :
    JsonText.scanArray scanValue (layout.join (items.map (write layout)) ++ 93 :: rest) = .ok (.arr items, rest) := by
  cases items with
  | nil => rfl
  | cons item items =>
    obtain ⟨c, tail, htext, hspace, hc⟩ := write_starts layout (hreadable item List.mem_cons_self)
    obtain ⟨more, hmore⟩ := join_starts layout htext (items.map (write layout))
    have hbracket : c ≠ 93 := fun h => hc (h ▸ List.mem_cons_self)
    have hlength := length_join layout ((item :: items).map (write layout))
    rw [List.map_cons, hmore] at hlength ⊢
    rw [List.cons_append, scanArray_eq_scanItems hbracket (skipSpace_cons hspace _)]
    have hitems := @scanItems_write scanValue layout item items [] ((c :: more ++ 93 :: rest).length + 1)
      (by simp at hlength ⊢; omega) hscan hreadable rest
    rw [List.map_cons, hmore] at hitems
    exact hitems

/-- The text of an object is scanned behind its brace. -/
theorem scanObject_write {entries : List (PyText × JsonValue)} (hnames : (entries.map Prod.fst).Nodup)
    (hscalar : ∀ entry ∈ entries, IsScalar entry.1) (hreadable : ∀ entry ∈ entries, entry.2.Readable)
    (hscan : ∀ entry ∈ entries, Scans scanValue layout entry.2) (rest : PyText) :
    JsonText.scanObject scanValue (layout.join (entries.map (writeMember layout)) ++ 125 :: rest) =
      .ok (.obj entries, rest) := by
  cases entries with
  | nil => rfl
  | cons entry entries =>
    obtain ⟨more, hmore⟩ := join_starts layout (show writeMember layout entry = 34 :: _ from rfl)
      (entries.map (writeMember layout))
    have hlength := length_join layout ((entry :: entries).map (writeMember layout))
    rw [List.map_cons, hmore] at hlength ⊢
    rw [List.cons_append, scanObject_eq_scanMembers (by decide) (skipSpace_cons rfl _)]
    have hmembers := @scanMembers_write scanValue layout entry entries [] ((34 :: more ++ 125 :: rest).length + 1)
      (by simp at hlength ⊢; omega) hnames hscalar hreadable hscan rest
    rw [List.map_cons, hmore] at hmembers
    exact hmembers

end Containers

/-! ### Values -/

/-- Items can be written if each of them can. -/
theorem writableItems_iff {items : List JsonValue} {nesting : ℕ} :
    writableItems items nesting = true ↔ ∀ item ∈ items, item.writable nesting = true := by
  induction items with
  | nil => simp [writableItems]
  | cons item rest ih => simp [writableItems, ih]

/-- Members can be written if the value of each of them can. -/
theorem writableEntries_iff {entries : List (PyText × JsonValue)} {nesting : ℕ} :
    writableEntries entries nesting = true ↔ ∀ entry ∈ entries, entry.2.writable nesting = true := by
  induction entries with
  | nil => simp [writableEntries]
  | cons entry rest ih => simp [writableEntries, ih]

/-- A text that begins like no string and no container is that of a word or a number. -/
theorem scanOnce_atom (depth : ℕ) {c : ℕ} (hc : c ∉ [34, 91, 123]) (rest : PyText) :
    JsonText.scanOnce depth (c :: rest) = JsonText.scanAtom (c :: rest) := by
  simp only [List.mem_cons, List.not_mem_nil, or_false, not_or] at hc
  unfold JsonText.scanOnce
  split
  · next h => exact absurd (List.cons.inj h).1 hc.1
  · next h => exact absurd (List.cons.inj h).1 hc.2.2
  · next h => exact absurd (List.cons.inj h).1 hc.2.1
  · next h => exact absurd (List.cons.inj h).1 hc.2.2
  · next h => exact absurd (List.cons.inj h).1 hc.2.1
  · rfl

/-- The text of a value is scanned as that value, up to its end. -/
theorem scanOnce_write (layout : Layout) (value : JsonValue) : ∀ {nesting depth : ℕ}, nesting ≤ depth →
    value.Readable → value.writable nesting = true → Scans (JsonText.scanOnce depth) layout value := by
  induction value using induction with
  | null =>
    intro nesting depth _ _ _ rest _
    exact scanOnce_atom depth (by decide) _
  | bool value =>
    intro nesting depth _ _ _ rest _
    cases value <;> exact scanOnce_atom depth (by decide) _
  | int value =>
    intro nesting depth _ _ hwritable rest hrest
    have hsmall : value.natAbs < 10 ^ JsonText.maxDigits := by simpa [writable] using hwritable
    obtain ⟨c, tail, htext, hstart, -⟩ := intText_starts value
    have hc : c ∉ [34, 91, 123] := by
      rcases hstart with hdigit | rfl
      · have hbounds : 48 ≤ c ∧ c ≤ 57 := by simpa [JsonText.isDigit] using hdigit
        simp
        omega
      · decide
    have hatom := scanAtom_number hrest (scanNumber_intText hsmall)
    rw [write]
    rw [htext, List.cons_append] at hatom ⊢
    rw [scanOnce_atom depth hc, hatom]
    rfl
  | float literal =>
    intro nesting depth _ hreadable _ rest hrest
    cases hreadable with
    | float hliteral =>
      obtain ⟨c, tail, htext, -, hc⟩ := float_starts hliteral
      have hatom := scanAtom_float hliteral hrest
      have hother : c ∉ [34, 91, 123] := by
        intro hmem
        simp only [List.mem_cons, List.not_mem_nil, or_false] at hmem hc
        omega
      rw [write, htext, List.cons_append, scanOnce_atom depth hother, ← List.cons_append, ← htext, hatom]
  | str text =>
    intro nesting depth _ hreadable _ rest _
    cases hreadable with
    | str htext =>
      have hstring := scanString_layout layout htext rest
      simp only [write, Layout.quote, List.cons_append, List.append_assoc, List.nil_append]
      unfold JsonText.scanOnce
      simp only [hstring]
      rfl
  | arr items ih =>
    intro nesting depth hdepth hreadable hwritable rest hrest
    simp only [writable, Bool.and_eq_true, decide_eq_true_eq, writableItems_iff] at hwritable
    obtain ⟨depth, rfl⟩ : ∃ n, depth = n + 1 := ⟨depth - 1, by omega⟩
    cases hreadable with
    | arr hitems =>
      have hscan : ∀ item ∈ items, Scans (JsonText.scanOnce depth) layout item := fun item hitem =>
        ih item hitem (by omega) (hitems item hitem) (hwritable.2 item hitem)
      simp only [write, writeItems_eq, List.cons_append, List.append_assoc, List.nil_append]
      exact scanArray_write hscan hitems rest
  | obj entries ih =>
    intro nesting depth hdepth hreadable hwritable rest hrest
    simp only [writable, Bool.and_eq_true, decide_eq_true_eq, writableEntries_iff] at hwritable
    obtain ⟨depth, rfl⟩ : ∃ n, depth = n + 1 := ⟨depth - 1, by omega⟩
    cases hreadable with
    | obj hnames hscalar hvalues =>
      have hscan : ∀ entry ∈ entries, Scans (JsonText.scanOnce depth) layout entry.2 := fun entry hentry =>
        ih entry hentry (by omega) (hvalues entry hentry) (hwritable.2 entry hentry)
      simp only [write, writeMembers_eq, List.cons_append, List.append_assoc, List.nil_append]
      exact scanObject_write hnames hscalar hvalues hscan rest

/-- `json.loads` undoes `json.dumps`. -/
theorem loads_write (layout : Layout) {value : JsonValue} {nesting : ℕ} (hreadable : value.Readable)
    (hwritable : value.writable nesting = true) : JsonText.loads nesting (write layout value) = .ok value := by
  obtain ⟨c, rest, htext, hspace, hc⟩ := write_starts layout hreadable
  have hends : Ends [] := fun _ h => nomatch h
  have hscan := scanOnce_write layout value (Nat.le_succ nesting) hreadable hwritable [] hends
  have hmark : (write layout value).head? ≠ some 0xfeff := by
    rw [htext]
    rintro h
    cases h
    exact hc (by decide)
  rw [List.append_nil] at hscan
  have hskip : JsonText.skipSpace (write layout value) = write layout value := by
    rw [htext, skipSpace_cons hspace]
  rw [JsonText.loads, if_neg hmark, hskip, hscan]
  rfl

/-- `json.loads` undoes `json.dumps` where that does not raise. -/
theorem loads_dumpsText {layout : Layout} {value : JsonValue} {nesting : ℕ} {text : PyText}
    (hreadable : value.Readable) (h : dumpsText layout nesting value = some text) :
    JsonText.loads nesting text = .ok value := by
  unfold dumpsText at h
  split at h
  · next hwritable =>
    cases h
    exact loads_write layout hreadable hwritable
  · cases h

end Json

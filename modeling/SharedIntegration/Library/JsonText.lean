import SharedIntegration.Library.Json
import SharedIntegration.Library.PyText
import Mathlib.Data.List.TakeWhile

/-!
# Decoding JSON texts

`json.loads` of the Python standard library on a string, as a recursive descent over code
points. It takes more texts than the JSON standard: `NaN` and the infinities are numbers, a
repeated key overwrites, and a lone surrogate may be escaped. Floats keep their literal,
since no value is computed from them here. Nesting is bounded by the recursion limit of the
interpreter, which is a parameter.
-/

/-- A JSON value over Python strings; a float is the literal it was read from. -/
abbrev JsonValue := Json PyText PyText

/-- Why a text is not decoded: it is malformed, an integer has too many digits, the values are
nested too deeply, or a loop of the decoder was cut short. -/
inductive JsonError
  | decode
  | intTooLarge
  | tooDeep
  | outOfFuel
deriving DecidableEq, Repr

namespace JsonText

/-- The whitespace between tokens. -/
def isSpace (c : ℕ) : Bool := c = 32 || c = 9 || c = 10 || c = 13

/-- Skip whitespace. -/
def skipSpace (text : PyText) : PyText := text.dropWhile isSpace

/-- An ASCII digit. -/
def isDigit (c : ℕ) : Bool := 48 ≤ c && c ≤ 57

/-- The value of a hexadecimal digit. -/
def hexDigit? (c : ℕ) : Option ℕ :=
  if isDigit c then some (c - 48)
  else if 97 ≤ c && c ≤ 102 then some (c - 87)
  else if 65 ≤ c && c ≤ 70 then some (c - 55)
  else none

/-- The code unit written by four hexadecimal digits. -/
def codeUnit? (a b c d : ℕ) : Option ℕ := do
  let a ← hexDigit? a
  let b ← hexDigit? b
  let c ← hexDigit? c
  let d ← hexDigit? d
  return ((a * 16 + b) * 16 + c) * 16 + d

/-- The character behind a backslash, other than `u`. -/
def escape? : ℕ → Option ℕ
  | 34 => some 34
  | 92 => some 92
  | 47 => some 47
  | 98 => some 8
  | 102 => some 12
  | 110 => some 10
  | 114 => some 13
  | 116 => some 9
  | _ => none

/-- Scan a string behind its opening quote into characters, each marked if it was written as a
`\u` escape, and the text behind the closing quote. -/
def scanPieces : PyText → Option (List (Bool × ℕ) × PyText)
  | [] => none
  | 34 :: rest => some ([], rest)
  | 92 :: 117 :: a :: b :: c :: d :: rest => do
    let unit ← codeUnit? a b c d
    let (pieces, rest) ← scanPieces rest
    return ((true, unit) :: pieces, rest)
  | 92 :: e :: rest => do
    let c ← escape? e
    let (pieces, rest) ← scanPieces rest
    return ((false, c) :: pieces, rest)
  | c :: rest =>
    if c ≤ 31 ∨ c = 92 then none
    else do
      let (pieces, rest) ← scanPieces rest
      return ((false, c) :: pieces, rest)

/-- Join escaped surrogate pairs; other surrogates stay alone. -/
def joinSurrogates : List (Bool × ℕ) → PyText
  | [] => []
  | (true, high) :: (true, low) :: rest =>
    if (0xd800 ≤ high ∧ high ≤ 0xdbff) ∧ (0xdc00 ≤ low ∧ low ≤ 0xdfff) then
      (0x10000 + (high - 0xd800) * 0x400 + (low - 0xdc00)) :: joinSurrogates rest
    else high :: joinSurrogates ((true, low) :: rest)
  | (_, c) :: rest => c :: joinSurrogates rest

/-- Scan a string behind its opening quote. -/
def scanString (text : PyText) : Except JsonError (PyText × PyText) :=
  match scanPieces text with
  | some (pieces, rest) => .ok (joinSurrogates pieces, rest)
  | none => .error .decode

/-- Split the digits off the front. -/
def spanDigits (text : PyText) : PyText × PyText := (text.takeWhile isDigit, text.dropWhile isDigit)

/-- The fraction of a number, which needs a digit behind its point. -/
def scanFraction : PyText → PyText × PyText
  | 46 :: d :: rest =>
    if isDigit d then (46 :: (spanDigits (d :: rest)).1, (spanDigits (d :: rest)).2)
    else ([], 46 :: d :: rest)
  | text => ([], text)

/-- The sign of an exponent. -/
def scanSign : PyText → PyText × PyText
  | 43 :: rest => ([43], rest)
  | 45 :: rest => ([45], rest)
  | text => ([], text)

/-- The exponent of a number, which needs a digit. -/
def scanExponent : PyText → PyText × PyText
  | e :: rest =>
    let (sign, tail) := scanSign rest
    let (digits, tail) := spanDigits tail
    if (e = 101 ∨ e = 69) ∧ digits ≠ [] then (e :: (sign ++ digits), tail) else ([], e :: rest)
  | [] => ([], [])

/-- The integer part of a number: one zero, or digits that begin with another digit. -/
def scanInteger : PyText → Option (PyText × PyText)
  | 48 :: rest => some ([48], rest)
  | d :: rest => if isDigit d then some (spanDigits (d :: rest)) else none
  | [] => none

/-- The number that decimal digits denote. -/
def natOfDigits (digits : PyText) : ℕ := digits.foldl (fun value d => value * 10 + (d - 48)) 0

/-- `sys.int_info.default_max_str_digits`. -/
def maxDigits : ℕ := 4300

/-- Scan a number without its sign. -/
def scanUnsigned (negative : Bool) (text : PyText) : Except JsonError (JsonValue × PyText) :=
  match scanInteger text with
  | none => .error .decode
  | some (digits, rest) =>
    let (fraction, rest) := scanFraction rest
    let (exponent, rest) := scanExponent rest
    if fraction ++ exponent ≠ [] then
      .ok (.float ((if negative then [45] else []) ++ digits ++ fraction ++ exponent), rest)
    else if maxDigits < digits.length then .error .intTooLarge
    else .ok (.int (if negative then - natOfDigits digits else natOfDigits digits), rest)

/-- Scan a number. -/
def scanNumber : PyText → Except JsonError (JsonValue × PyText)
  | 45 :: rest => scanUnsigned true rest
  | text => scanUnsigned false text

/-- The words that stand for a value. -/
def constants : List (PyText × JsonValue) :=
  [(.of "null", .null), (.of "true", .bool true), (.of "false", .bool false),
    (.of "NaN", .float (.of "NaN")), (.of "Infinity", .float (.of "Infinity")),
    (.of "-Infinity", .float (.of "-Infinity"))]

/-- Scan a word or a number. -/
def scanAtom (text : PyText) : Except JsonError (JsonValue × PyText) :=
  match constants.find? fun constant => constant.1.isPrefixOf text with
  | some (word, value) => .ok (value, text.drop word.length)
  | none => scanNumber text

section Containers

variable (scanValue : PyText → Except JsonError (JsonValue × PyText))

/-- Scan one member of an object: its name, a colon and its value. -/
def scanMember : PyText → Except JsonError ((PyText × JsonValue) × PyText)
  | 34 :: rest => do
    let (name, rest) ← scanString rest
    match skipSpace rest with
    | 58 :: rest =>
      let (value, rest) ← scanValue (skipSpace rest)
      return ((name, value), rest)
    | _ => .error .decode
  | _ => .error .decode

/-- Scan the remaining members of an object. -/
def scanMembers : ℕ → List (PyText × JsonValue) → PyText → Except JsonError (JsonValue × PyText)
  | 0, _, _ => .error .outOfFuel
  | fuel + 1, entries, text => do
    let ((name, value), rest) ← scanMember scanValue text
    match skipSpace rest with
    | 125 :: rest => return (.obj (Json.setEntry entries name value), rest)
    | 44 :: rest => scanMembers fuel (Json.setEntry entries name value) (skipSpace rest)
    | _ => .error .decode

/-- Scan the remaining items of an array. -/
def scanItems : ℕ → List JsonValue → PyText → Except JsonError (JsonValue × PyText)
  | 0, _, _ => .error .outOfFuel
  | fuel + 1, items, text => do
    let (value, rest) ← scanValue text
    match skipSpace rest with
    | 93 :: rest => return (.arr (items ++ [value]), rest)
    | 44 :: rest => scanItems fuel (items ++ [value]) (skipSpace rest)
    | _ => .error .decode

/-- Scan an object behind its brace. -/
def scanObject (text : PyText) : Except JsonError (JsonValue × PyText) :=
  match skipSpace text with
  | 125 :: rest => .ok (.obj [], rest)
  | rest => scanMembers scanValue (rest.length + 1) [] rest

/-- Scan an array behind its bracket. -/
def scanArray (text : PyText) : Except JsonError (JsonValue × PyText) :=
  match skipSpace text with
  | 93 :: rest => .ok (.arr [], rest)
  | rest => scanItems scanValue (rest.length + 1) [] rest

end Containers

/-- Scan one value whose containers are nested at most to the given depth. -/
def scanOnce : ℕ → PyText → Except JsonError (JsonValue × PyText)
  | _, 34 :: rest => do
    let (text, rest) ← scanString rest
    return (.str text, rest)
  | 0, 123 :: _ | 0, 91 :: _ => .error .tooDeep
  | depth + 1, 123 :: rest => scanObject (scanOnce depth) rest
  | depth + 1, 91 :: rest => scanArray (scanOnce depth) rest
  | _, text => scanAtom text

/-- `json.loads` of a string, where containers may be nested `nesting` deep inside another. -/
def loads (nesting : ℕ) (text : PyText) : Except JsonError JsonValue :=
  if text.head? = some 0xfeff then .error .decode
  else do
    let (value, rest) ← scanOnce (nesting + 1) (skipSpace text)
    if skipSpace rest = [] then return value else .error .decode

/-! ## No loop is cut short -/

/-- The outcome of a scan that was not cut short and leaves at most so many characters. -/
def Consumes {Value : Type} (bound : ℕ) : Except JsonError (Value × PyText) → Prop
  | .ok (_, rest) => rest.length ≤ bound
  | .error error => error ≠ .outOfFuel

/-- A scan that goes on where another one has stopped. -/
theorem Consumes.bind {Value Value' : Type} {bound bound' : ℕ} {scan : Except JsonError (Value × PyText)}
    {next : Value × PyText → Except JsonError (Value' × PyText)} (h : Consumes bound scan)
    (hnext : ∀ value rest, rest.length ≤ bound → Consumes bound' (next (value, rest))) :
    Consumes bound' (scan >>= next) := by
  cases scan with
  | ok result => exact hnext result.1 result.2 h
  | error error => exact h

/-- A larger bound. -/
theorem Consumes.mono {Value : Type} {bound bound' : ℕ} {scan : Except JsonError (Value × PyText)}
    (h : Consumes bound scan) (hle : bound ≤ bound') : Consumes bound' scan := by
  cases scan with
  | ok result => exact Nat.le_trans h hle
  | error error => exact h

theorem length_skipSpace_le (text : PyText) : (skipSpace text).length ≤ text.length :=
  List.length_dropWhile_le isSpace text

/-- Scanning a string leaves no more than it was given. -/
theorem scanPieces_length {text rest : PyText} {pieces : List (Bool × ℕ)}
    (h : scanPieces text = some (pieces, rest)) : rest.length ≤ text.length := by
  fun_induction scanPieces text generalizing pieces with
  | case1 => cases h
  | case2 tail =>
    cases h
    exact Nat.le_succ _
  | case3 a b c d tail ih =>
    obtain ⟨unit, -, h⟩ := Option.bind_eq_some_iff.mp h
    obtain ⟨⟨pieces', rest'⟩, hscan, h⟩ := Option.bind_eq_some_iff.mp h
    cases h
    have hle := ih hscan
    simp only [List.length_cons]
    omega
  | case4 e tail _ ih =>
    obtain ⟨c, -, h⟩ := Option.bind_eq_some_iff.mp h
    obtain ⟨⟨pieces', rest'⟩, hscan, h⟩ := Option.bind_eq_some_iff.mp h
    cases h
    have hle := ih hscan
    simp only [List.length_cons]
    omega
  | case5 => cases h
  | case6 c tail _ _ _ _ ih =>
    obtain ⟨⟨pieces', rest'⟩, hscan, h⟩ := Option.bind_eq_some_iff.mp h
    cases h
    have hle := ih hscan
    simp only [List.length_cons]
    omega

/-- A string is scanned to its end. -/
theorem scanString_consumes (text : PyText) : Consumes text.length (scanString text) := by
  unfold scanString
  split
  · next hscan => exact scanPieces_length hscan
  · exact fun h => nomatch h

theorem length_spanDigits_le (text : PyText) : (spanDigits text).2.length ≤ text.length :=
  List.length_dropWhile_le isDigit text

theorem length_scanFraction_le (text : PyText) : (scanFraction text).2.length ≤ text.length := by
  unfold scanFraction
  split
  · next d rest =>
    split
    · have hle := length_spanDigits_le (d :: rest)
      simp only [List.length_cons] at hle ⊢
      omega
    · exact Nat.le_refl _
  · exact Nat.le_refl _

theorem length_scanSign_le (text : PyText) : (scanSign text).2.length ≤ text.length := by
  unfold scanSign
  split
  · exact Nat.le_succ _
  · exact Nat.le_succ _
  · exact Nat.le_refl _

theorem length_scanExponent_le (text : PyText) : (scanExponent text).2.length ≤ text.length := by
  unfold scanExponent
  split
  · next e rest =>
    have hsign := length_scanSign_le rest
    have hdigits := length_spanDigits_le (scanSign rest).2
    dsimp only
    split
    · simp only [List.length_cons]
      omega
    · exact Nat.le_refl _
  · exact Nat.le_refl _

theorem length_scanInteger_le {text digits rest : PyText} (h : scanInteger text = some (digits, rest)) :
    rest.length ≤ text.length := by
  unfold scanInteger at h
  split at h
  · cases h
    exact Nat.le_succ _
  · next d tail _ =>
    split at h
    · rw [Option.some.injEq] at h
      have hle := length_spanDigits_le (d :: tail)
      rwa [h] at hle
    · cases h
  · cases h

/-- A number is scanned to its end. -/
theorem scanUnsigned_consumes (negative : Bool) (text : PyText) :
    Consumes text.length (scanUnsigned negative text) := by
  unfold scanUnsigned
  split
  · exact fun h => nomatch h
  · next digits rest hinteger =>
    have hrest := length_scanInteger_le hinteger
    have hfraction := length_scanFraction_le rest
    have hexponent := length_scanExponent_le (scanFraction rest).2
    dsimp only
    split
    · change (scanExponent (scanFraction rest).2).2.length ≤ text.length
      omega
    · split
      · exact fun h => nomatch h
      · change (scanExponent (scanFraction rest).2).2.length ≤ text.length
        omega

/-- A word or a number is scanned to its end. -/
theorem scanAtom_consumes (text : PyText) : Consumes text.length (scanAtom text) := by
  unfold scanAtom
  split
  · next word value _ =>
    change (text.drop word.length).length ≤ text.length
    rw [List.length_drop]
    omega
  · unfold scanNumber
    split
    · exact (scanUnsigned_consumes true _).mono (Nat.le_succ _)
    · exact scanUnsigned_consumes false text

section Containers

variable {scanValue : PyText → Except JsonError (JsonValue × PyText)}
  (hvalue : ∀ text, Consumes text.length (scanValue text))

include hvalue

/-- A member is scanned to its end. -/
theorem scanMember_consumes (text : PyText) : Consumes text.length (scanMember scanValue text) := by
  unfold scanMember
  split
  · next tail =>
    refine (scanString_consumes tail).bind fun name rest hrest => ?_
    have hspace := length_skipSpace_le rest
    dsimp only
    split
    · next rest' hcolon =>
      rw [hcolon, List.length_cons] at hspace
      have hspace' := length_skipSpace_le rest'
      refine (hvalue (skipSpace rest')).bind fun value rest'' hrest'' => ?_
      change rest''.length ≤ (34 :: tail).length
      rw [List.length_cons]
      omega
    · exact fun h => nomatch h
  · exact fun h => nomatch h

/-- The loop over members ends before its fuel does. -/
theorem scanMembers_consumes (fuel : ℕ) (entries : List (PyText × JsonValue)) (text : PyText)
    (hfuel : text.length < fuel) : Consumes text.length (scanMembers scanValue fuel entries text) := by
  induction fuel generalizing entries text with
  | zero => omega
  | succ fuel ih =>
    refine (scanMember_consumes hvalue text).bind fun member rest hrest => ?_
    have hspace := length_skipSpace_le rest
    dsimp only
    split
    · next rest' hbrace =>
      rw [hbrace, List.length_cons] at hspace
      change rest'.length ≤ text.length
      omega
    · next rest' hcomma =>
      rw [hcomma, List.length_cons] at hspace
      have hspace' := length_skipSpace_le rest'
      exact (ih _ _ (by omega)).mono (by omega)
    · exact fun h => nomatch h

/-- The loop over items ends before its fuel does. -/
theorem scanItems_consumes (fuel : ℕ) (items : List JsonValue) (text : PyText)
    (hfuel : text.length < fuel) : Consumes text.length (scanItems scanValue fuel items text) := by
  induction fuel generalizing items text with
  | zero => omega
  | succ fuel ih =>
    refine (hvalue text).bind fun value rest hrest => ?_
    have hspace := length_skipSpace_le rest
    dsimp only
    split
    · next rest' hbracket =>
      rw [hbracket, List.length_cons] at hspace
      change rest'.length ≤ text.length
      omega
    · next rest' hcomma =>
      rw [hcomma, List.length_cons] at hspace
      have hspace' := length_skipSpace_le rest'
      exact (ih _ _ (by omega)).mono (by omega)
    · exact fun h => nomatch h

/-- An object is scanned to its end. -/
theorem scanObject_consumes (text : PyText) : Consumes text.length (scanObject scanValue text) := by
  have hspace := length_skipSpace_le text
  unfold scanObject
  split
  · next rest hbrace =>
    rw [hbrace, List.length_cons] at hspace
    change rest.length ≤ text.length
    omega
  · exact (scanMembers_consumes hvalue _ _ _ (Nat.lt_succ_self _)).mono hspace

/-- An array is scanned to its end. -/
theorem scanArray_consumes (text : PyText) : Consumes text.length (scanArray scanValue text) := by
  have hspace := length_skipSpace_le text
  unfold scanArray
  split
  · next rest hbracket =>
    rw [hbracket, List.length_cons] at hspace
    change rest.length ≤ text.length
    omega
  · exact (scanItems_consumes hvalue _ _ _ (Nat.lt_succ_self _)).mono hspace

end Containers

/-- Every value is scanned to its end, at every depth. -/
theorem scanOnce_consumes (depth : ℕ) (text : PyText) : Consumes text.length (scanOnce depth text) := by
  induction depth generalizing text with
  | zero =>
    unfold scanOnce
    split
    · next rest =>
      refine (scanString_consumes rest).bind fun value rest' hrest => ?_
      exact Nat.le_succ_of_le hrest
    · exact fun h => nomatch h
    · exact fun h => nomatch h
    · next hdepth => cases hdepth
    · next hdepth => cases hdepth
    · exact scanAtom_consumes _
  | succ depth ih =>
    unfold scanOnce
    split
    · next rest =>
      refine (scanString_consumes rest).bind fun value rest' hrest => ?_
      exact Nat.le_succ_of_le hrest
    · next hdepth => cases hdepth
    · next hdepth => cases hdepth
    · next rest hdepth =>
      cases hdepth
      exact (scanObject_consumes ih rest).mono (Nat.le_succ _)
    · next rest hdepth =>
      cases hdepth
      exact (scanArray_consumes ih rest).mono (Nat.le_succ _)
    · exact scanAtom_consumes _

/-- Decoding a text is never cut short. -/
theorem loads_ne_outOfFuel (nesting : ℕ) (text : PyText) : loads nesting text ≠ .error .outOfFuel := by
  have hscan := scanOnce_consumes (nesting + 1) (skipSpace text)
  unfold loads
  split
  · exact fun h => nomatch h
  · cases hresult : scanOnce (nesting + 1) (skipSpace text) with
    | error error =>
      rw [hresult] at hscan
      intro h
      cases h
      exact hscan rfl
    | ok result =>
      change (if skipSpace result.2 = [] then _ else _) ≠ _
      split <;> exact fun h => nomatch h

/-! ## Texts of the empty object -/

/-- A word or a number is no object. -/
theorem scanAtom_ne_obj {text rest : PyText} {entries : List (PyText × JsonValue)} :
    scanAtom text ≠ .ok (.obj entries, rest) := by
  unfold scanAtom
  split
  · next word value hfind =>
    intro h
    have hmem := List.mem_of_find?_eq_some hfind
    cases h
    simp [constants] at hmem
  · have hnumber : ∀ negative text, scanUnsigned negative text ≠ .ok (.obj entries, rest) := by
      intro negative text
      unfold scanUnsigned
      split
      · exact fun h => nomatch h
      · dsimp only
        split
        · exact fun h => nomatch h
        · split <;> exact fun h => nomatch h
    unfold scanNumber
    split
    · exact hnumber _ _
    · exact hnumber _ _

section Containers

variable {scanValue : PyText → Except JsonError (JsonValue × PyText)}

/-- An object with a member is not empty. -/
theorem scanMembers_ne_empty (fuel : ℕ) (entries : List (PyText × JsonValue)) (text rest : PyText) :
    scanMembers scanValue fuel entries text ≠ .ok (.obj [], rest) := by
  induction fuel generalizing entries text with
  | zero => exact fun h => nomatch h
  | succ fuel ih =>
    unfold scanMembers
    cases scanMember scanValue text with
    | error error => exact fun h => nomatch h
    | ok result =>
      obtain ⟨⟨name, value⟩, tail⟩ := result
      change (match skipSpace tail with
        | 125 :: rest => _
        | 44 :: rest => _
        | _ => _) ≠ _
      split
      · intro h
        have hobj := (Prod.mk.inj (Except.ok.inj h)).1
        exact Json.setEntry_ne_nil _ _ _ (Json.obj.inj hobj)
      · exact ih _ _
      · exact fun h => nomatch h

/-- The items of an array make no object. -/
theorem scanItems_ne_obj (fuel : ℕ) (items : List JsonValue) (text rest : PyText)
    {entries : List (PyText × JsonValue)} :
    scanItems scanValue fuel items text ≠ .ok (.obj entries, rest) := by
  induction fuel generalizing items text with
  | zero => exact fun h => nomatch h
  | succ fuel ih =>
    unfold scanItems
    cases scanValue text with
    | error error => exact fun h => nomatch h
    | ok result =>
      obtain ⟨value, tail⟩ := result
      change (match skipSpace tail with
        | 93 :: rest => _
        | 44 :: rest => _
        | _ => _) ≠ _
      split
      · exact fun h => nomatch h
      · exact ih _ _
      · exact fun h => nomatch h

end Containers

/-- Splitting leading whitespace off a text. -/
theorem exists_eq_append_skipSpace (text : PyText) :
    ∃ spaces, (∀ c ∈ spaces, isSpace c = true) ∧ text = spaces ++ skipSpace text :=
  ⟨text.takeWhile isSpace, fun _ h => List.mem_takeWhile_imp h, List.takeWhile_append_dropWhile.symm⟩

/-- Only a pair of braces with whitespace between them is scanned as the empty object. -/
theorem scanOnce_eq_empty {depth : ℕ} {text rest : PyText}
    (h : scanOnce depth text = .ok (.obj [], rest)) :
    ∃ spaces, (∀ c ∈ spaces, isSpace c = true) ∧ text = 123 :: (spaces ++ 125 :: rest) := by
  unfold scanOnce at h
  split at h
  · next tail =>
    cases hstring : scanString tail with
    | error error =>
      rw [hstring] at h
      cases h
    | ok result =>
      rw [hstring] at h
      cases h
  · cases h
  · cases h
  · next depth tail =>
    unfold scanObject at h
    split at h
    · next tail' hbrace =>
      cases h
      obtain ⟨spaces, hspaces, htail⟩ := exists_eq_append_skipSpace tail
      exact ⟨spaces, hspaces, by rw [htail, hbrace]⟩
    · exact absurd h (scanMembers_ne_empty _ _ _ _)
  · unfold scanArray at h
    split at h
    · cases h
    · exact absurd h (scanItems_ne_obj _ _ _ _)
  · exact absurd h scanAtom_ne_obj

/-- Whitespace in front of a text that does not begin with any is all that is skipped. -/
theorem skipSpace_append {spaces text : PyText} (hspaces : ∀ c ∈ spaces, isSpace c = true) :
    skipSpace (spaces ++ text) = skipSpace text :=
  List.dropWhile_append_of_pos hspaces

/-- A text is decoded to the empty object exactly if it is a pair of braces with nothing but
whitespace before, between and behind them. -/
theorem loads_eq_empty_iff (nesting : ℕ) (text : PyText) :
    loads nesting text = .ok (.obj []) ↔
      ∃ before middle after, (∀ c ∈ before ++ middle ++ after, isSpace c = true) ∧
        text = before ++ 123 :: (middle ++ 125 :: after) := by
  constructor
  · intro h
    unfold loads at h
    split at h
    · cases h
    · cases hscan : scanOnce (nesting + 1) (skipSpace text) with
      | error error =>
        rw [hscan] at h
        cases h
      | ok result =>
        obtain ⟨value, rest⟩ := result
        rw [hscan] at h
        change (if skipSpace rest = [] then Except.ok value else Except.error JsonError.decode) = _ at h
        split at h
        · next hrest =>
          cases h
          obtain ⟨before, hbefore, htext⟩ := exists_eq_append_skipSpace text
          obtain ⟨middle, hmiddle, hobject⟩ := scanOnce_eq_empty hscan
          have hafter : ∀ c ∈ rest, isSpace c = true := List.dropWhile_eq_nil_iff.mp hrest
          refine ⟨before, middle, rest, ?_, by rw [← hobject, ← htext]⟩
          intro c hc
          rcases List.mem_append.mp hc with hc | hc
          · rcases List.mem_append.mp hc with hc | hc
            · exact hbefore c hc
            · exact hmiddle c hc
          · exact hafter c hc
        · cases h
  · rintro ⟨before, middle, after, hspaces, rfl⟩
    have hbefore : ∀ c ∈ before, isSpace c = true := fun c hc => hspaces c (by simp [hc])
    have hmiddle : ∀ c ∈ middle, isSpace c = true := fun c hc => hspaces c (by simp [hc])
    have hafter : skipSpace after = [] :=
      List.dropWhile_eq_nil_iff.mpr fun c hc => hspaces c (by simp [hc])
    have hmark : (before ++ 123 :: (middle ++ 125 :: after)).head? ≠ some 0xfeff := by
      cases before with
      | nil => simp
      | cons c before =>
        have hc := hbefore c List.mem_cons_self
        rintro ⟨⟩
        cases hc
    have hscan : scanOnce (nesting + 1) (skipSpace (before ++ 123 :: (middle ++ 125 :: after))) =
        .ok (.obj [], after) := by
      rw [skipSpace_append hbefore]
      change scanObject (scanOnce nesting) (middle ++ 125 :: after) = _
      unfold scanObject
      rw [skipSpace_append hmiddle]
      rfl
    rw [loads, if_neg hmark, hscan]
    change (if skipSpace after = [] then _ else _) = _
    rw [if_pos hafter]
    rfl

end JsonText

import SharedIntegration.Core
import SharedIntegration.Library.JsonStrings

/-!
# What columns take

Surrogates may stand alone in a Python string, as `json.loads` leaves them, and such a string has no
encoding. The strings of the model have none, so a spelling says which Python string each of them stands
for. A database takes a text or a document only if the driver can encode it and its type has room for it.
-/

namespace SharedIntegration

/-- The Python strings and floats that the values of the model stand for; ASCII stands for itself. -/
structure Spelling extends Json.Writer String PyFloat where
  ascii : ∀ value : String, (∀ c ∈ value.toList, c.toNat < 128) → text value = .of value

/-- The document that a value of the model stands for. -/
def Spelling.document (spelling : Spelling) (value : Document) : JsonValue := value.spelled spelling.toWriter

/-- The types of the columns of a database: the texts of a `String` and of a `Text` column, the documents of
a `JSON` column, and the numbers of an `Integer` column. -/
structure ColumnTypes where
  string : (width : ℕ) → PyText → Bool
  text : PyText → Bool
  json : JsonValue → Bool
  integer : ℕ → Bool

namespace ColumnTypes

/-- SQLite: a text has to be encoded but may have any length, and a document is written in ASCII. -/
def sqlite (nesting : ℕ) : ColumnTypes where
  string _ value := (PyText.encodeUtf8 value).isSome
  text value := (PyText.encodeUtf8 value).isSome
  json value := value.writable nesting
  integer value := value < 2 ^ 63

/-- A text that PostgreSQL stores: it can be encoded, and has no null character. -/
def postgresqlText (value : PyText) : Bool := (PyText.encodeUtf8 value).isSome && !value.contains 0

/-- PostgreSQL: only spaces may stand beyond the width of a text, and the strings of a `JSONB` document are texts
too. -/
def postgresql (nesting : ℕ) : ColumnTypes where
  string width value := ((value.drop width).all fun c => c = 32) && postgresqlText value
  text := postgresqlText
  json value :=
    match (Json.dumpsText ⟨true, true⟩ nesting value).map (JsonText.loads nesting) with
    | some (.ok read) => read.allStrings postgresqlText
    | _ => false
  integer value := value < 2 ^ 31

end ColumnTypes

/-- The spelling of documents: strings by their characters, and floats by `float.__repr__`. -/
def documentWriter (floats : Json.NumberWriter PyFloat) : Json.Writer String PyFloat :=
  { floats with
    text := .of
    text_injective := PyText.of_injective }

namespace FindingDict

/-- Floats by numerator and denominator, which is `float.__repr__` on those without a fraction. -/
def floatText : PyFloat → PyText
  | .rational value => Json.intText value.num ++ 46 :: (Nat.toDigits 10 (value.den - 1)).map Char.toNat
  | .negativeZero => .of "-0.0"

/-- The part before the point. -/
theorem takeWhile_point (value : ℤ) (rest : PyText) :
    (Json.intText value ++ 46 :: rest).takeWhile (· ≠ 46) = Json.intText value := by
  rw [List.takeWhile_append_of_pos]
  · exact List.append_nil _
  · intro c hc
    obtain ⟨first, tail, htext, hstart, htail⟩ := Json.intText_starts value
    have hplain : JsonText.isDigit c = true ∨ c = 45 := by
      rcases List.mem_cons.mp (htext ▸ hc) with rfl | hc
      · exact hstart
      · exact .inl (htail c hc)
    rcases hplain with hdigit | rfl
    · simp [JsonText.isDigit] at hdigit
      simp
      omega
    · rfl

/-- No integer is spelled as a negative zero. -/
theorem intText_ne_negativeZero (value : ℤ) : Json.intText value ≠ [45, 48] := by
  intro h
  cases value with
  | ofNat n =>
    have hmem : 45 ∈ Json.intText (Int.ofNat n) := h ▸ List.mem_cons_self
    exact absurd (Json.isDigit_of_mem_digits hmem) (by decide)
  | negSucc n =>
    have hzero : n + 1 = 0 := Json.digits_injective (List.cons.inj h).2
    omega

/-- Different floats are spelled differently. -/
theorem floatText_injective : Function.Injective floatText := by
  intro value value' h
  have htake := congrArg (List.takeWhile (· ≠ 46)) h
  cases value with
  | rational value =>
    cases value' with
    | rational value' =>
      simp only [floatText, takeWhile_point] at htake
      simp only [floatText, htake, List.append_cancel_left_eq, List.cons.injEq, true_and] at h
      have hden : value.den - 1 = value'.den - 1 := Json.digits_injective h
      have hpos := value.den_pos
      have hpos' := value'.den_pos
      rw [Rat.ext (Json.intText_injective htake) (by omega)]
    | negativeZero =>
      simp only [floatText, takeWhile_point] at htake
      exact absurd htake (intText_ne_negativeZero value.num)
  | negativeZero =>
    cases value' with
    | rational value' =>
      simp only [floatText, takeWhile_point] at htake
      exact absurd htake.symm (intText_ne_negativeZero value'.num)
    | negativeZero => rfl

/-- The instance of the spelling of floats. -/
def floatWriter : Json.NumberWriter PyFloat where
  number := floatText
  number_injective := floatText_injective
  number_starts value := by
    cases value with
    | rational value =>
      obtain ⟨c, rest, htext, hstart, -⟩ := Json.intText_starts value.num
      exact ⟨c, _, by rw [floatText, htext, List.cons_append], hstart⟩
    | negativeZero => exact ⟨45, _, rfl, .inr rfl⟩
  number_chars value c hc := by
    cases value with
    | rational value =>
      rcases List.mem_append.mp hc with hc | hc
      · obtain ⟨first, rest, htext, hstart, hrest⟩ := Json.intText_starts value.num
        rcases List.mem_cons.mp (htext ▸ hc) with rfl | hc
        · exact hstart.imp_right fun hminus => .inr (.inl hminus)
        · exact .inl (hrest c hc)
      · rcases List.mem_cons.mp hc with rfl | hc
        · exact .inr (.inr (.inr (.inl rfl)))
        · exact .inl (Json.isDigit_of_mem_digits hc)
    | negativeZero =>
      have hall : ∀ c ∈ PyText.of "-0.0", JsonText.isDigit c = true ∨ c = 43 ∨ c = 45 ∨ c = 46 ∨ c = 101 := by decide
      exact hall c hc
  number_float value := by
    cases value with
    | rational value => exact .inl (List.mem_append_right _ List.mem_cons_self)
    | negativeZero => exact .inl (by decide)

/-- Text without surrogates is spelled by its characters. -/
def plainSpelling : Spelling := { documentWriter floatWriter with ascii := fun _ _ => rfl }

/-- The replacement character for a lone surrogate, and other texts for themselves. -/
def surrogateText (value : String) : PyText := if value = "\ufffd" then [0xd800] else .of value

/-- Different texts are spelled differently. -/
theorem surrogateText_injective : Function.Injective surrogateText := by
  have hlone : ∀ value : String, PyText.of value ≠ [0xd800] := by
    intro value h
    have hchars := PyText.chars?_map value.toList
    rw [show value.toList.map Char.toNat = [0xd800] from h] at hchars
    cases hchars
  intro value value' h
  unfold surrogateText at h
  split_ifs at h with hvalue hvalue'
  · exact hvalue.trans hvalue'.symm
  · exact absurd h.symm (hlone value')
  · exact absurd h (hlone value)
  · exact PyText.of_injective h

/-- The spelling in which the replacement character stands for a lone surrogate. -/
def surrogateSpelling : Spelling :=
  { floatWriter with
    text := surrogateText
    text_injective := surrogateText_injective
    ascii := fun value hascii => by
      refine if_neg ?_
      rintro rfl
      exact absurd (hascii '\ufffd' (by decide)) (by decide) }

end FindingDict

end SharedIntegration

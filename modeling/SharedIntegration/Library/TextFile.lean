import SharedIntegration.Library.JsonChars

/-!
# Text files

`Path.read_text` of the Python standard library: the bytes are decoded, and line ends of every kind
become newlines. A text without carriage returns is read as it was encoded.
-/

namespace PyText

/-- `data.decode("utf-8")`; malformed data is refused. -/
def decodeUtf8 (bytes : List UInt8) : Option PyText := (String.fromUTF8? ⟨bytes.toArray⟩).map of

/-- Line ends of every kind, as newlines. -/
def universalNewlines : PyText → PyText
  | 13 :: 10 :: rest => 10 :: universalNewlines rest
  | 13 :: rest => 10 :: universalNewlines rest
  | c :: rest => c :: universalNewlines rest
  | [] => []

/-- `path.read_text(encoding="utf-8")` of a file with the given bytes. -/
def readText (bytes : List UInt8) : Option PyText := (decodeUtf8 bytes).map universalNewlines

/-- Text without carriage returns keeps its line ends. -/
theorem universalNewlines_eq_self {text : PyText} (h : 13 ∉ text) : universalNewlines text = text := by
  induction text with
  | nil => rfl
  | cons c rest ih =>
    have hc : c ≠ 13 := fun hc => h (hc ▸ List.mem_cons_self)
    rw [universalNewlines, ih fun hrest => h (List.mem_cons_of_mem c hrest)]
    · exact fun _ hcons => absurd hcons hc
    · exact fun hcons => absurd hcons hc

/-- A text without surrogates can be encoded. -/
theorem exists_encodeUtf8 {text : PyText} (h : Json.IsScalar text) : ∃ bytes, encodeUtf8 text = some bytes := by
  have hchars : ∃ chars, chars? text = some chars := by
    induction text with
    | nil => exact ⟨[], rfl⟩
    | cons c rest ih =>
      obtain ⟨chars, hchars⟩ := ih fun d hd => h d (List.mem_cons_of_mem c hd)
      unfold chars? at hchars ⊢
      refine ⟨Char.ofNat c :: chars, ?_⟩
      rw [List.mapM_cons, char?, if_pos (h c List.mem_cons_self), hchars]
      rfl
  obtain ⟨chars, hchars⟩ := hchars
  exact ⟨_, by rw [encodeUtf8, hchars, Option.map_some]⟩

/-- Decoding undoes encoding. -/
theorem decodeUtf8_of_encodeUtf8 {text : PyText} {bytes : List UInt8} (h : encodeUtf8 text = some bytes) :
    decodeUtf8 bytes = some text := by
  obtain ⟨chars, hchars, rfl⟩ := Option.map_eq_some_iff.mp h
  have hbytes : (⟨(String.ofList chars).toUTF8.data.toList.toArray⟩ : ByteArray) = (String.ofList chars).toByteArray := rfl
  rw [decodeUtf8, hbytes, String.fromUTF8?, dif_pos (String.ofList chars).isValidUTF8, Option.map_some]
  refine congrArg some ?_
  have hstring : String.fromUTF8 (String.ofList chars).toByteArray (String.ofList chars).isValidUTF8 =
    String.ofList chars := rfl
  rw [hstring, of, String.toList_ofList, map_of_chars? hchars]

/-- A JSON text can be encoded, and is read back from a text file. -/
theorem readText_write (layout : Json.Layout) {value : JsonValue} (h : value.Readable) :
    ∃ bytes, encodeUtf8 (Json.write layout value) = some bytes ∧ readText bytes = some (Json.write layout value) := by
  have hchars := Json.write_chars layout h
  obtain ⟨bytes, hbytes⟩ := exists_encodeUtf8 fun c hc => (hchars c hc).2
  refine ⟨bytes, hbytes, ?_⟩
  have hreturn : 13 ∉ Json.write layout value := fun hmem => absurd (hchars 13 hmem).1 (by decide)
  rw [readText, decodeUtf8_of_encodeUtf8 hbytes, Option.map_some, universalNewlines_eq_self hreturn]

/-- The text of a string in which no surrogate stands alone. -/
def text (text : PyText) : String := String.ofList (text.map Char.ofNat)

/-- A literal is read as itself. -/
@[simp] theorem text_of (text : String) : (of text).text = text := by
  rw [PyText.text, of, List.map_map, ← String.toList_inj, String.toList_ofList]
  exact (List.map_congr_left fun c _ => Char.ofNat_toNat c).trans (List.map_id _)

end PyText

import SharedIntegration.Library.JsonDumps

/-!
# The characters of JSON texts

Whatever `json.dumps` writes is free of control characters and of surrogates: a control character in a
string is escaped, and every other character of a text is printed ASCII or a character of a string. So a
text is one line, it can be encoded, and reading it from a text file changes nothing.
-/

namespace Json

/-- A character of ASCII that is printed. -/
def Printable (c : ℕ) : Prop := 32 ≤ c ∧ c < 127

/-- A digit is printed. -/
theorem printable_of_isDigit {c : ℕ} (h : JsonText.isDigit c = true) : Printable c := by
  have hbounds : 48 ≤ c ∧ c ≤ 57 := by simpa [JsonText.isDigit] using h
  exact ⟨by omega, by omega⟩

/-- Digits are printed. -/
theorem printable_spanDigits {text : PyText} : ∀ c ∈ (JsonText.spanDigits text).1, Printable c := fun _ hc =>
  printable_of_isDigit (List.mem_takeWhile_imp hc)

/-- A fraction is printed. -/
theorem printable_scanFraction {text : PyText} : ∀ c ∈ (JsonText.scanFraction text).1, Printable c := by
  unfold JsonText.scanFraction
  split
  · split
    · intro c hc
      rcases List.mem_cons.mp hc with rfl | hc
      · exact ⟨by decide, by decide⟩
      · exact printable_spanDigits c hc
    · exact fun _ h => nomatch h
  · exact fun _ h => nomatch h

/-- An exponent is printed. -/
theorem printable_scanExponent {text : PyText} : ∀ c ∈ (JsonText.scanExponent text).1, Printable c := by
  have hsign : ∀ (text : PyText), ∀ c ∈ (JsonText.scanSign text).1, Printable c := by
    intro text
    unfold JsonText.scanSign
    split
    · exact fun c hc => List.mem_singleton.mp hc ▸ ⟨by decide, by decide⟩
    · exact fun c hc => List.mem_singleton.mp hc ▸ ⟨by decide, by decide⟩
    · exact fun _ h => nomatch h
  unfold JsonText.scanExponent
  split
  · next e rest =>
    dsimp only
    split
    · next he =>
      intro c hc
      rcases List.mem_cons.mp hc with rfl | hc
      · rcases he.1 with rfl | rfl <;> exact ⟨by decide, by decide⟩
      · rcases List.mem_append.mp hc with hc | hc
        · exact hsign _ c hc
        · exact printable_spanDigits c hc
    · exact fun _ h => nomatch h
  · exact fun _ h => nomatch h

/-- The integer part of a number is printed. -/
theorem printable_scanInteger {text digits rest : PyText} (h : JsonText.scanInteger text = some (digits, rest)) :
    ∀ c ∈ digits, Printable c := by
  unfold JsonText.scanInteger at h
  split at h
  · cases h
    exact fun c hc => List.mem_singleton.mp hc ▸ ⟨by decide, by decide⟩
  · split at h
    · rw [Option.some.injEq] at h
      intro c hc
      rw [show digits = _ from (congrArg Prod.fst h).symm] at hc
      exact printable_spanDigits c hc
    · cases h
  · cases h

/-- The text of a float is printed. -/
theorem printable_float {literal : PyText} (h : IsFloat literal) : ∀ c ∈ literal, Printable c := by
  have hunsigned : ∀ {negative : Bool} {text : PyText},
      JsonText.scanUnsigned negative text = .ok (.float literal, []) → ∀ c ∈ literal, Printable c := by
    intro negative text h
    unfold JsonText.scanUnsigned at h
    cases hinteger : JsonText.scanInteger text with
    | none =>
      rw [hinteger] at h
      cases h
    | some scanned =>
      obtain ⟨digits, rest⟩ := scanned
      simp only [hinteger] at h
      split at h
      · have hliteral : _ = literal := Json.float.inj (Prod.mk.inj (Except.ok.inj h)).1
        rw [← hliteral]
        intro c hc
        simp only [List.mem_append] at hc
        rcases hc with ((hc | hc) | hc) | hc
        · cases negative with
          | false => cases hc
          | true => exact List.mem_singleton.mp hc ▸ ⟨by decide, by decide⟩
        · exact printable_scanInteger hinteger c hc
        · exact printable_scanFraction c hc
        · exact printable_scanExponent c hc
      · split at h <;> cases h
  have hscan : JsonText.scanAtom literal = .ok (.float literal, []) := h
  rw [JsonText.scanAtom] at hscan
  split at hscan
  · next word value hfind =>
    obtain ⟨⟨rfl⟩, -⟩ := Prod.mk.inj (Except.ok.inj hscan)
    have hmem := List.mem_of_find?_eq_some hfind
    simp only [JsonText.constants, List.mem_cons, Prod.mk.injEq, reduceCtorEq, and_false, false_or,
      Json.float.injEq, List.not_mem_nil, or_false] at hmem
    have hall : ∀ word ∈ [PyText.of "NaN", PyText.of "Infinity", PyText.of "-Infinity"],
        ∀ c ∈ word, 32 ≤ c ∧ c < 127 := by
      decide
    rcases hmem with ⟨-, rfl⟩ | ⟨-, rfl⟩ | ⟨-, rfl⟩
    · exact hall _ (by simp)
    · exact hall _ (by simp)
    · exact hall _ (by simp)
  · unfold JsonText.scanNumber at hscan
    split at hscan
    · exact hunsigned hscan
    · exact hunsigned hscan

/-- The text of an integer is printed. -/
theorem printable_intText (value : ℤ) : ∀ c ∈ intText value, Printable c := by
  obtain ⟨c, rest, htext, hstart, hrest⟩ := intText_starts value
  rw [htext]
  intro d hd
  rcases List.mem_cons.mp hd with rfl | hd
  · rcases hstart with hdigit | rfl
    · exact printable_of_isDigit hdigit
    · exact ⟨by decide, by decide⟩
  · exact printable_of_isDigit (hrest d hd)

section Forall

variable {P : ℕ → Prop} (hprintable : ∀ c, Printable c → P c) (layout : Layout)

include hprintable

/-- What holds of printed characters holds of what stands behind a separator. -/
theorem forall_mem_pad : ∀ c ∈ layout.pad, P c := by
  unfold Layout.pad
  split
  · exact fun c hc => List.mem_singleton.mp hc ▸ hprintable 32 ⟨by decide, by decide⟩
  · exact fun _ h => nomatch h

/-- What holds of the characters of all parts holds of those of the parts with commas between them. -/
theorem forall_mem_join {parts : List PyText} (h : ∀ part ∈ parts, ∀ c ∈ part, P c) :
    ∀ c ∈ layout.join parts, P c := by
  induction parts with
  | nil => exact fun _ h => nomatch h
  | cons first rest ih =>
    have hrest := ih fun part hpart => h part (List.mem_cons_of_mem first hpart)
    cases rest with
    | nil => exact h first List.mem_cons_self
    | cons second rest =>
      rw [join_cons_cons]
      intro c hc
      simp only [List.mem_append, List.mem_cons] at hc
      rcases hc with hc | rfl | hc | hc
      · exact h first List.mem_cons_self c hc
      · exact hprintable 44 ⟨by decide, by decide⟩
      · exact forall_mem_pad hprintable layout c hc
      · exact hrest c hc

/-- What holds of the characters inside brackets holds of those of the container. -/
theorem forall_mem_brackets {left right : ℕ} {text : PyText} (hleft : Printable left) (hright : Printable right)
    (htext : ∀ c ∈ text, P c) : ∀ c ∈ left :: (text ++ [right]), P c := by
  intro c hc
  simp only [List.mem_cons, List.mem_append, List.not_mem_nil, or_false] at hc
  rcases hc with rfl | hc | rfl
  · exact hprintable c hleft
  · exact htext c hc
  · exact hprintable c hright

/-- What holds of all escapes holds of every character of a string in quotes. -/
theorem forall_mem_quote (hescape : ∀ c, c.isValidChar → ∀ d ∈ layout.escape c, P d) {text : PyText}
    (htext : IsScalar text) : ∀ c ∈ layout.quote text, P c := by
  refine forall_mem_brackets hprintable ⟨by decide, by decide⟩ ⟨by decide, by decide⟩ fun c hc => ?_
  obtain ⟨d, hd, hc⟩ := List.mem_flatMap.mp hc
  exact hescape d (htext d hd) c hc

/-- What holds of printed characters and of all escapes holds of every character of a text. -/
theorem forall_mem_write (hescape : ∀ c, c.isValidChar → ∀ d ∈ layout.escape c, P d) (value : JsonValue) :
    value.Readable → ∀ c ∈ write layout value, P c := by
  have hword : ∀ word ∈ [PyText.of "null", PyText.of "true", PyText.of "false"], ∀ c ∈ word, P c := by
    have hall : ∀ word ∈ [PyText.of "null", PyText.of "true", PyText.of "false"], ∀ c ∈ word, 32 ≤ c ∧ c < 127 := by
      decide
    exact fun word hword c hc => hprintable c (hall word hword c hc)
  induction value using induction with
  | null => exact fun _ => hword (.of "null") (by simp)
  | bool value =>
    intro _
    cases value with
    | false => exact hword (.of "false") (by simp)
    | true => exact hword (.of "true") (by simp)
  | int value => exact fun _ c hc => hprintable c (printable_intText value c hc)
  | float literal =>
    intro hreadable c hc
    cases hreadable with
    | float hliteral => exact hprintable c (printable_float hliteral c hc)
  | str text =>
    intro hreadable
    cases hreadable with
    | str htext => exact forall_mem_quote hprintable layout hescape htext
  | arr items ih =>
    intro hreadable
    cases hreadable with
    | arr hitems =>
      rw [write, writeItems_eq]
      refine forall_mem_brackets hprintable ⟨by decide, by decide⟩ ⟨by decide, by decide⟩
        (forall_mem_join hprintable layout fun part hpart => ?_)
      obtain ⟨item, hitem, rfl⟩ := List.mem_map.mp hpart
      exact ih item hitem (hitems item hitem)
  | obj entries ih =>
    intro hreadable
    cases hreadable with
    | obj hnames hscalar hvalues =>
      rw [write, writeMembers_eq]
      refine forall_mem_brackets hprintable ⟨by decide, by decide⟩ ⟨by decide, by decide⟩
        (forall_mem_join hprintable layout fun part hpart c hc => ?_)
      obtain ⟨entry, hentry, rfl⟩ := List.mem_map.mp hpart
      simp only [writeMember, Layout.member, List.mem_append, List.mem_cons] at hc
      rcases hc with hc | rfl | hc | hc
      · exact forall_mem_quote hprintable layout hescape (hscalar entry hentry) c hc
      · exact hprintable 58 ⟨by decide, by decide⟩
      · exact forall_mem_pad hprintable layout c hc
      · exact ih entry hentry (hvalues entry hentry) c hc

end Forall

/-- An escaped character has no control characters and no surrogates in it. -/
theorem escape_chars (layout : Layout) {c : ℕ} (hc : c.isValidChar) :
    ∀ d ∈ layout.escape c, 32 ≤ d ∧ d.isValidChar := by
  have hvalid : ∀ {d : ℕ}, 32 ≤ d → d < 0xd800 → 32 ≤ d ∧ d.isValidChar := fun h h' => ⟨h, .inl h'⟩
  have hhex : ∀ n < 16, 48 ≤ hexDigit n ∧ hexDigit n ≤ 102 := by decide
  have hunicode : ∀ {unit : ℕ}, unit < 0x10000 → ∀ d ∈ Layout.unicodeEscape unit, 32 ≤ d ∧ d.isValidChar := by
    intro unit hunit d hd
    have h1 := hhex (unit / 4096) (by omega)
    have h2 := hhex (unit / 256 % 16) (Nat.mod_lt _ (by decide))
    have h3 := hhex (unit / 16 % 16) (Nat.mod_lt _ (by decide))
    have h4 := hhex (unit % 16) (Nat.mod_lt _ (by decide))
    simp only [Layout.unicodeEscape, List.mem_cons, List.not_mem_nil, or_false] at hd
    exact hvalid (by omega) (by omega)
  intro d hd
  unfold Layout.escape at hd
  split_ifs at hd with hplain hbasic
  · by_cases hcontrol : c < 32
    · have hescaped : ∀ c < 32, ∀ d ∈ Json.escape c, 32 ≤ d ∧ d < 0xd800 := by decide
      exact hvalid (hescaped c hcontrol d hd).1 (hescaped c hcontrol d hd).2
    · have hshort : d = c ∨ d = 92 := by
        unfold Json.escape at hd
        split_ifs at hd <;> simp at hd <;> omega
      rcases hshort with rfl | rfl
      · exact ⟨by omega, hc⟩
      · exact hvalid (by decide) (by decide)
  · exact hunicode hbasic d hd
  · have hlast : c < 0x110000 := by
      simp only [Nat.isValidChar] at hc
      omega
    rcases List.mem_append.mp hd with hd | hd
    · exact hunicode (by omega) d hd
    · exact hunicode (by omega) d hd

/-- A text has no control characters and no surrogates in it. -/
theorem write_chars (layout : Layout) {value : JsonValue} (h : value.Readable) :
    ∀ c ∈ write layout value, 32 ≤ c ∧ c.isValidChar :=
  forall_mem_write (fun _ hc => ⟨hc.1, .inl (Nat.lt_trans hc.2 (by decide))⟩) layout
    (fun _ hc => escape_chars layout hc) value h

end Json

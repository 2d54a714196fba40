import SharedIntegration.FindingColumns
import SharedIntegration.Secrets

/-!
# The texts of page cursors

`_encode_cursor` and `_decode_cursor`: the base64 of a decimal number without its padding. Decoding
passes through lenient base64, UTF-8 and `int`, and turns every error of theirs into a `ValueError`.
-/

namespace SharedIntegration

open Relational

namespace FindingLifecycle

/-- `_encode_cursor`. -/
def encodeCursor (rowId : ℕ) : String := String.ofList (b64encode (toString rowId).toUTF8.data.toList)

/-- `_decode_cursor`; nothing is a `ValueError`. -/
def decodeCursor (decimal : Char → Option ℕ) (cursor : String) : Option ℕ := do
  let bytes ← b64decode cursor.toList
  let text ← String.fromUTF8? ⟨bytes.toArray⟩
  let value ← PyString.limitedInt? decimal text.toList
  if value < 1 then none else some value.toNat

/-- The bytes of a string are its string. -/
theorem fromUTF8?_toUTF8 (text : String) : String.fromUTF8? ⟨text.toUTF8.data.toList.toArray⟩ = some text := by
  have hbytes : (⟨text.toUTF8.data.toList.toArray⟩ : ByteArray) = text.toByteArray := rfl
  rw [hbytes, String.fromUTF8?, dif_pos text.isValidUTF8]
  rfl

/-- Decoding an encoded cursor gives back its row id. -/
theorem decodeCursor_encodeCursor {decimal : Char → Option ℕ} (hdecimal : PyString.ReadsAscii decimal) {rowId : ℕ}
    (hpos : 1 ≤ rowId) (hshort : rowId < 10 ^ PyString.maxStrDigits) :
    decodeCursor decimal (encodeCursor rowId) = some rowId := by
  have hread := PyString.limitedInt?_repr hdecimal hshort
  have hlarge : ¬ (rowId : ℤ) < 1 := by omega
  rw [decodeCursor, encodeCursor, String.toList_ofList, b64decode_b64encode, Option.bind_eq_bind, Option.bind_some,
    fromUTF8?_toUTF8, Option.bind_eq_bind, Option.bind_some]
  change ((PyString.limitedInt? decimal rowId.repr.toList).bind fun value =>
    if value < 1 then none else some value.toNat) = some rowId
  rw [hread, Option.bind_some, if_neg hlarge]
  rfl

/-- What a listing raises: a `ValueError`, or the error of a database driver that is asked to bind an integer
outside the signed 64-bit range. -/
inductive ListingError
  | valueError (message : String)
  | outOfRange (value : ℤ)

/-- One more than the largest signed 64-bit integer. -/
def integerBound : ℕ := 2 ^ 63

/-- The integer is in the signed 64-bit range. -/
def fitsInteger : ℤ → Bool
  | .ofNat n | .negSucc n => n < integerBound

/-- The driver binds an integer parameter. -/
def bindInteger (value : ℤ) : Except ListingError ℤ :=
  if fitsInteger value then .ok value else .error (.outOfRange value)

/-- The row id that a page starts below, as the statement gets it. -/
def pageStart (decimal : Char → Option ℕ) : Option String → Except ListingError (Option ℕ)
  | none => .ok none
  | some cursor => do
    let rowId ← ((decodeCursor decimal cursor).map Except.ok).getD (.error (.valueError "invalid finding cursor"))
    let _ ← bindInteger rowId
    return some rowId

/-- `list_page`. -/
def listPageAt (core : CoreLibrary) (decimal : Char → Option ℕ) (db : Database) (tenantId : String)
    (cursor : Option String) (limit : ℕ) (source : Option FindingSource) (severity : Option FindingSeverity)
    (status : Option FindingStatus) : Except ListingError (List FindingLifecycleRecord × Option String) := do
  let start ← pageStart decimal cursor
  let (records, next) := listPage core db tenantId start limit source severity status
  return (records, next.map encodeCursor)

/-- Which natural numbers are bound. -/
theorem bindInteger_ok_iff (value : ℕ) : (∃ bound, bindInteger value = .ok bound) ↔ value < integerBound := by
  have hfits : fitsInteger value = true ↔ value < integerBound := decide_eq_true_iff
  rw [← hfits, bindInteger]
  split
  · next hin => exact ⟨fun _ => hin, fun _ => ⟨_, rfl⟩⟩
  · next hout => exact ⟨fun ⟨_, hok⟩ => (by cases hok), fun hin => absurd hin hout⟩

/-- What binding raises. -/
theorem bindInteger_error {value : ℤ} {error : ListingError} (h : bindInteger value = .error error) :
    error = .outOfRange value := by
  unfold bindInteger at h
  split at h
  · cases h
  · exact (Except.error.inj h).symm

/-- A cursor that decodes and can be bound. -/
theorem pageStart_ok {decimal : Char → Option ℕ} {cursor : String} {rowId : ℕ}
    (hdecode : decodeCursor decimal cursor = some rowId) (hbound : rowId < integerBound) :
    pageStart decimal (some cursor) = .ok (some rowId) := by
  obtain ⟨bound, hbind⟩ := (bindInteger_ok_iff rowId).mpr hbound
  simp only [pageStart, hdecode, Option.map_some, Option.getD_some, bind, Except.bind, hbind]
  rfl

/-- A cursor that does not decode. -/
theorem pageStart_invalid {decimal : Char → Option ℕ} {cursor : String} (hdecode : decodeCursor decimal cursor = none) :
    pageStart decimal (some cursor) = .error (.valueError "invalid finding cursor") := by
  simp only [pageStart, hdecode, Option.map_none, Option.getD_none, bind, Except.bind]

/-- A cursor that cannot be bound. -/
theorem pageStart_outOfRange {decimal : Char → Option ℕ} {cursor : String} {rowId : ℕ}
    (hdecode : decodeCursor decimal cursor = some rowId) (hbound : ¬ rowId < integerBound) :
    pageStart decimal (some cursor) = .error (.outOfRange rowId) := by
  have hbind : bindInteger rowId = .error (.outOfRange rowId) := by
    cases hbind : bindInteger rowId with
    | ok bound => exact absurd ((bindInteger_ok_iff rowId).mp ⟨bound, hbind⟩) hbound
    | error error => rw [bindInteger_error hbind]
  simp only [pageStart, hdecode, Option.map_some, Option.getD_some, bind, Except.bind, hbind]

/-- The page behind a start that was accepted. -/
theorem listPageAt_ok {core : CoreLibrary} {decimal : Char → Option ℕ} {cursor : Option String} {start : Option ℕ}
    (hstart : pageStart decimal cursor = .ok start) (db : Database) (tenantId : String) (limit : ℕ)
    (source : Option FindingSource) (severity : Option FindingSeverity) (status : Option FindingStatus) :
    listPageAt core decimal db tenantId cursor limit source severity status =
      .ok ((listPage core db tenantId start limit source severity status).1,
        (listPage core db tenantId start limit source severity status).2.map encodeCursor) := by
  simp only [listPageAt, hstart, bind, Except.bind]
  rfl

/-- An error of the start is that of the page. -/
theorem listPageAt_error {core : CoreLibrary} {decimal : Char → Option ℕ} {cursor : Option String}
    {error : ListingError} (hstart : pageStart decimal cursor = .error error) (db : Database) (tenantId : String)
    (limit : ℕ) (source : Option FindingSource) (severity : Option FindingSeverity) (status : Option FindingStatus) :
    listPageAt core decimal db tenantId cursor limit source severity status = .error error := by
  simp only [listPageAt, hstart, bind, Except.bind]

end FindingLifecycle

end SharedIntegration

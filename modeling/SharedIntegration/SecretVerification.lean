import SharedIntegration.ExchangeSafety
import SharedIntegration.Library.Fallible

/-!
# Verifying stored hashes

`_verify_secret` with the exceptions of the functions that it calls. The stored value may be any string,
also one that `_hash_secret` never wrote. The handler takes type errors and value errors for a refusal
and would let every other exception through.
-/

namespace SharedIntegration

/-- The class of an exception; `UnicodeError` and `binascii.Error` are value errors. -/
inductive PyException
  | typeError
  | valueError
  | other (name : String)
deriving DecidableEq, Repr

/-- A function that raises a `ValueError` where it has no result. -/
def orValueError {α : Type} : Option α → Except PyException α
  | some value => .ok value
  | none => .error .valueError

/-- `hashlib.scrypt`, which may raise unless it is given the parameters of this repository. -/
structure Scrypt (lib : SecretLibrary) where
  derive : (secret salt : List UInt8) → (n r p : ℤ) → (dklen : ℕ) → Except PyException (List UInt8)
  derive_fixed : ∀ (secret : String) (salt : List UInt8),
    derive secret.toUTF8.data.toList salt 16384 8 1 32 = .ok (lib.scrypt secret salt)

namespace SecretVerification

variable (lib : SecretLibrary)

/-- `int(text)`. -/
def parseInt (text : PyText) : Except PyException ℤ :=
  orValueError (text.chars?.bind (PyString.limitedInt? lib.decimal))

/-- `_b64decode`. -/
def decodeText (text : PyText) : Except PyException (List UInt8) := orValueError (text.chars?.bind b64decode)

/-- The body of `_verify_secret`. -/
def verifyFields (scrypt : Scrypt lib) (secret : String) (encoded : PyText) : Except PyException Bool :=
  match PyText.split '$'.toNat 5 encoded with
  | [algorithm, n, r, p, salt, expected] =>
    if algorithm ≠ .of "scrypt" then .ok false
    else do
      let n ← parseInt lib n
      let r ← parseInt lib r
      let p ← parseInt lib p
      if (n, r, p) ≠ scryptParameters then return false
      let salt ← decodeText salt
      let digest ← scrypt.derive secret.toUTF8.data.toList salt n r p 32
      let expected ← decodeText expected
      return digest = expected
  | _ => .error .valueError

/-- `_verify_secret`. -/
def verify (scrypt : Scrypt lib) (secret : String) (encoded : PyText) : Except PyException Bool :=
  match verifyFields lib scrypt secret encoded with
  | .ok verified => .ok verified
  | .error .typeError | .error .valueError => .ok false
  | .error (.other name) => .error (.other name)

variable {lib} {scrypt : Scrypt lib} {secret : String}

/-- Where a function has no result, the error is a value error. -/
theorem orValueError_error {α : Type} {result : Option α} {error : PyException}
    (h : orValueError result = .error error) : error = .valueError := by
  cases result with
  | some value => cases h
  | none =>
    cases h
    rfl

/-- Only value errors reach the handler, since `scrypt` is called with the fixed parameters alone. -/
theorem verifyFields_error {encoded : PyText} {error : PyException}
    (h : verifyFields lib scrypt secret encoded = .error error) : error = .valueError := by
  unfold verifyFields at h
  split at h
  · next algorithm n r p salt expected =>
    split at h
    · cases h
    · obtain hn | ⟨nValue, -, h⟩ := Fallible.bind_eq_error.mp h
      · exact orValueError_error hn
      obtain hr | ⟨rValue, -, h⟩ := Fallible.bind_eq_error.mp h
      · exact orValueError_error hr
      obtain hp | ⟨pValue, -, h⟩ := Fallible.bind_eq_error.mp h
      · exact orValueError_error hp
      split at h
      · cases h
      · next hfixed =>
        rw [not_not, scryptParameters, Prod.mk.injEq, Prod.mk.injEq] at hfixed
        obtain ⟨rfl, rfl, rfl⟩ := hfixed
        obtain hsalt | ⟨saltBytes, -, h⟩ := Fallible.bind_eq_error.mp h
        · exact orValueError_error hsalt
        obtain hdigest | ⟨digest, -, h⟩ := Fallible.bind_eq_error.mp h
        · rw [scrypt.derive_fixed] at hdigest
          cases hdigest
        obtain hexpected | ⟨expectedBytes, -, h⟩ := Fallible.bind_eq_error.mp h
        · exact orValueError_error hexpected
        cases h
  · cases h
    rfl

/-- `_verify_secret` never raises. -/
theorem exists_verify_eq (encoded : PyText) : ∃ verified, verify lib scrypt secret encoded = .ok verified := by
  unfold verify
  cases hfields : verifyFields lib scrypt secret encoded with
  | ok verified => exact ⟨verified, rfl⟩
  | error error =>
    rw [verifyFields_error hfields]
    exact ⟨false, rfl⟩

/-- The code points of characters are read as the characters are. -/
theorem chars?_bind {α : Type} (read : List Char → Option α) (chars : List Char) :
    (PyText.chars? (chars.map Char.toNat)).bind read = read chars := by
  rw [PyText.chars?_map, Option.bind_some]

/-- Code points spell a literal exactly if the characters do. -/
theorem map_toNat_eq_of {chars : List Char} {text : String} :
    chars.map Char.toNat = PyText.of text ↔ chars = text.toList :=
  (List.map_injective_iff.mpr fun _ _ => Char.toNat_inj.mp).eq_iff

/-- On a stored value without lone surrogates the exceptions are the refusals of `verifySecret`. -/
theorem verify_of (encoded : String) :
    verify lib scrypt secret (.of encoded) = .ok (verifySecret lib secret encoded) := by
  unfold verify verifyFields verifySecret
  rw [PyText.of, PyString.split_map]
  generalize PyString.split '$' 5 encoded.toList = fields
  rcases fields with _ | ⟨algorithm, _ | ⟨n, _ | ⟨r, _ | ⟨p, _ | ⟨salt, _ | ⟨expected, _ | ⟨more, rest⟩⟩⟩⟩⟩⟩⟩
  · rfl
  · rfl
  · rfl
  · rfl
  · rfl
  · rfl
  · simp only [List.map_cons, List.map_nil, parseInt, decodeText, chars?_bind, ne_eq, map_toNat_eq_of]
    by_cases halgorithm : algorithm = "scrypt".toList
    · simp only [halgorithm, not_true_eq_false, if_false, decide_true, Bool.true_and]
      cases PyString.limitedInt? lib.decimal n with
      | none => rfl
      | some n =>
        cases PyString.limitedInt? lib.decimal r with
        | none => rfl
        | some r =>
          cases PyString.limitedInt? lib.decimal p with
          | none => rfl
          | some p =>
            by_cases hfixed : (n, r, p) = scryptParameters
            · obtain ⟨rfl, rfl, rfl⟩ : n = 16384 ∧ r = 8 ∧ p = 1 := by
                simpa only [scryptParameters, Prod.mk.injEq] using hfixed
              cases b64decode salt with
              | none => rfl
              | some salt =>
                have hdigest := scrypt.derive_fixed secret salt
                cases b64decode expected with
                | none =>
                  simp only [orValueError, bind, Except.bind, hdigest]
                  rfl
                | some expected =>
                  simp only [orValueError, bind, Except.bind, hdigest]
                  rfl
            · simp only [orValueError, bind, Except.bind, hfixed, not_false_eq_true, if_true, decide_false,
                Bool.false_and]
              rfl
    · simp only [halgorithm, not_false_eq_true, if_true, decide_false, Bool.false_and]
  · rfl

end SecretVerification

/-- What stored hashes are for: a hash verifies its own secret and no other, its fields and their bytes are
recovered, and no stored value makes the verification raise. -/
structure HashesVerify (lib : SecretLibrary) (scrypt : Scrypt lib) : Prop where
  verifies : ∀ (secret secret' : String) (salt : List UInt8),
    SecretVerification.verify lib scrypt secret' (.of (hashSecret lib salt secret)) = .ok true ↔ secret' = secret
  decodes : ∀ value : List UInt8, SecretVerification.decodeText (.of (String.ofList (b64encode value))) = .ok value
  fields : ∀ (secret : String) (salt : List UInt8),
    PyText.split '$'.toNat 5 (.of (hashSecret lib salt secret)) =
      ["scrypt", "16384", "8", "1", String.ofList (b64encode salt),
        String.ofList (b64encode (lib.scrypt secret salt))].map PyText.of
  returns : ∀ (secret : String) (encoded : PyText),
    ∃ verified, SecretVerification.verify lib scrypt secret encoded = .ok verified

/-- Stored hashes verify exactly the secret they were made from, for every salt and every two secrets, and
every other stored value is answered without an error. -/
theorem stored_hashes_verify (lib : SecretLibrary) (scrypt : Scrypt lib) : HashesVerify lib scrypt where
  verifies secret secret' salt := by
    rw [SecretVerification.verify_of, Except.ok.injEq]
    exact verifySecret_hashSecret lib salt secret secret'
  decodes value := by
    rw [SecretVerification.decodeText, PyText.of, String.toList_ofList, SecretVerification.chars?_bind,
      b64decode_b64encode]
    rfl
  fields secret salt := by
    rw [PyText.of, PyString.split_map, split_hashSecret]
    simp only [List.map_cons, List.map_nil, PyText.of, String.toList_ofList]
  returns secret encoded := SecretVerification.exists_verify_eq encoded

/-- Digests that keep their argument, with the parameters that `hashlib.scrypt` refuses. -/
def SecretVerification.plainScrypt : Scrypt Exchange.plainDigests where
  derive secret _ n r p _ := if 1 < n ∧ 0 < r ∧ 0 < p then .ok secret else .error .valueError
  derive_fixed _ _ := rfl

/-- The theorem applies to such digests: a hash verifies its secret and no other one. -/
theorem stored_hashes_verify_plainScrypt :
    let hash := PyText.of (hashSecret Exchange.plainDigests (List.replicate 16 7) "secret")
    SecretVerification.verify Exchange.plainDigests SecretVerification.plainScrypt "secret" hash = .ok true ∧
      SecretVerification.verify Exchange.plainDigests SecretVerification.plainScrypt "Secret" hash ≠ .ok true := by
  have hverifies := (stored_hashes_verify Exchange.plainDigests SecretVerification.plainScrypt).verifies "secret"
  refine ⟨(hverifies "secret" _).mpr rfl, fun hother => ?_⟩
  exact absurd ((hverifies "Secret" _).mp hother) (by decide)

/-- A separator before a parameter is not the whitespace of an integer. -/
example : SecretVerification.verify Exchange.plainDigests SecretVerification.plainScrypt "secret"
    (.of "scrypt$\x1c16384$8$1$$") = .ok false := by
  decide +kernel

end SharedIntegration

import SharedIntegration.Library.Base64
import SharedIntegration.Library.PyString

/-!
# Tokens and the hashes stored for them

API keys and identity clients are found by a public prefix and checked against a salted scrypt
hash; user sessions are found by the SHA-256 digest of the whole token. The two digests are
parameters that never send two secrets to one value.
-/

namespace SharedIntegration

/-- The digests of `hashlib`, and the decimal digits that `int` reads. -/
structure SecretLibrary where
  scrypt : (secret : String) → (salt : List UInt8) → List UInt8
  sha256 : String → String
  decimal : Char → Option ℕ
  scrypt_injective : ∀ salt, Function.Injective fun secret => scrypt secret salt
  sha256_injective : Function.Injective sha256
  decimal_digit : ∀ n < 10, decimal (Char.ofNat (48 + n)) = some n

/-- A digit of `token_hex`. -/
def isHex (c : Char) : Bool := c.isDigit || ('a' ≤ c && c ≤ 'f')

/-- A character of `token_urlsafe`. -/
def isUrlsafe (c : Char) : Bool := c.isAlphanum || c = '-' || c = '_'

/-- What `secrets.token_hex(12)` returns. -/
structure HexToken where
  chars : List Char
  length_eq : chars.length = 24
  isHex_of_mem : ∀ c ∈ chars, isHex c = true

/-- What `secrets.token_urlsafe(32)` returns. -/
structure UrlsafeToken where
  chars : List Char
  length_eq : chars.length = 43
  isUrlsafe_of_mem : ∀ c ∈ chars, isUrlsafe c = true

/-- `_b64encode`. -/
def b64encode (value : List UInt8) : List Char := (Base64.encode value).rdropWhile (· = '=')

/-- `_b64decode`. -/
def b64decode (value : List Char) : Option (List UInt8) :=
  Base64.decode (value ++ Base64.padding value.length)

/-- `_SCRYPT_N`, `_SCRYPT_R` and `_SCRYPT_P`. -/
def scryptParameters : ℤ × ℤ × ℤ := (16384, 8, 1)

/-- `_hash_secret`; the salt is what `token_bytes` draws. -/
def hashSecret (lib : SecretLibrary) (salt : List UInt8) (secret : String) : String :=
  String.ofList (PyString.join '$' ["scrypt".toList, "16384".toList, "8".toList, "1".toList,
    b64encode salt, b64encode (lib.scrypt secret salt)])

/-- `_verify_secret`; a `ValueError` on the way means that nothing is verified. -/
def verifySecret (lib : SecretLibrary) (secret encoded : String) : Bool :=
  match PyString.split '$' 5 encoded.toList with
  | [algorithm, n, r, p, salt, expected] =>
    algorithm = "scrypt".toList &&
      match PyString.limitedInt? lib.decimal n, PyString.limitedInt? lib.decimal r,
          PyString.limitedInt? lib.decimal p with
      | some n, some r, some p =>
        (n, r, p) = scryptParameters &&
          match b64decode salt, b64decode expected with
          | some salt, some expected => lib.scrypt secret salt = expected
          | _, _ => false
      | _, _, _ => false
  | _ => false

/-- `_hash_session_token`. -/
def hashSessionToken (lib : SecretLibrary) (token : String) : String := lib.sha256 token

/-- `_KEY_PREFIX` and `_IDENTITY_CLIENT_PREFIX`: four characters and 24 hexadecimal digits. -/
def isPrefix (kind : String) (text : List Char) : Bool :=
  kind.toList.isPrefixOf text && (text.drop kind.length).length = 24 && (text.drop kind.length).all isHex

/-- The parts of a token with such a prefix. -/
def parseToken (kind token : String) : Option (String × String) :=
  if 128 < token.length then none
  else match PyString.partition? '.' token.toList with
    | none => none
    | some (first, secret) =>
      if isPrefix kind first && 32 ≤ secret.length && secret.length ≤ 64 then
        some (String.ofList first, String.ofList secret)
      else none

/-- `_parse_api_key`. -/
def parseApiKey : String → Option (String × String) := parseToken "igw_"

/-- `_parse_identity_client_key`. -/
def parseIdentityClientKey : String → Option (String × String) := parseToken "igb_"

/-- `_USER_SESSION_TOKEN`. -/
def isSessionToken (token : String) : Bool :=
  "igs_".toList.isPrefixOf token.toList && 40 ≤ (token.toList.drop 4).length &&
    (token.toList.drop 4).length ≤ 64 && (token.toList.drop 4).all isUrlsafe

/-- The prefix that a key or client is found by. -/
def keyPrefix (kind : String) (hex : HexToken) : String := kind ++ String.ofList hex.chars

/-- The token handed out for a prefix and a secret. -/
def joinToken (first secret : String) : String := first ++ "." ++ secret

/-- The secret part of a token. -/
def UrlsafeToken.text (token : UrlsafeToken) : String := String.ofList token.chars

/-- The token of a new user session. -/
def sessionToken (token : UrlsafeToken) : String := "igs_" ++ token.text

/-- Encoded bytes are base64 digits. -/
theorem b64encode_eq (value : List UInt8) : b64encode value = Base64.digits value :=
  Base64.rdropWhile_encode value

/-- Decoding undoes encoding. -/
theorem b64decode_b64encode (value : List UInt8) : b64decode (b64encode value) = some value := by
  rw [b64encode_eq, b64decode, Base64.decode_digits]

/-- Encoded bytes contain no separator. -/
theorem dollar_notMem_b64encode (value : List UInt8) : '$' ∉ b64encode value := by
  rw [b64encode_eq]
  intro hmem
  obtain ⟨n, hn, hdollar⟩ := Base64.exists_of_mem_digits hmem
  have hall : ∀ n < 64, '$' ≠ Base64.digit n := by decide
  exact hall n hn hdollar

/-- The fields of a hash are recovered. -/
theorem split_hashSecret (lib : SecretLibrary) (salt : List UInt8) (secret : String) :
    PyString.split '$' 5 (hashSecret lib salt secret).toList =
      ["scrypt".toList, "16384".toList, "8".toList, "1".toList, b64encode salt,
        b64encode (lib.scrypt secret salt)] := by
  rw [hashSecret, String.toList_ofList]
  refine PyString.split_join ["scrypt".toList, "16384".toList, "8".toList, "1".toList, b64encode salt]
    (b64encode (lib.scrypt secret salt)) ?_
  intro part hpart
  simp only [List.mem_cons, List.not_mem_nil, or_false] at hpart
  rcases hpart with rfl | rfl | rfl | rfl | rfl
  · decide
  · decide
  · decide
  · decide
  · exact dollar_notMem_b64encode salt

/-- The parameters of a hash are read back. -/
theorem limitedInt?_parameters (lib : SecretLibrary) :
    PyString.limitedInt? lib.decimal "16384".toList = some 16384 ∧
      PyString.limitedInt? lib.decimal "8".toList = some 8 ∧
      PyString.limitedInt? lib.decimal "1".toList = some 1 := by
  have h1 : lib.decimal '1' = some 1 := lib.decimal_digit 1 (by decide)
  have h3 : lib.decimal '3' = some 3 := lib.decimal_digit 3 (by decide)
  have h4 : lib.decimal '4' = some 4 := lib.decimal_digit 4 (by decide)
  have h6 : lib.decimal '6' = some 6 := lib.decimal_digit 6 (by decide)
  have h8 : lib.decimal '8' = some 8 := lib.decimal_digit 8 (by decide)
  have hn : "16384".toList = ['1', '6', '3', '8', '4'] := by decide
  have hr : "8".toList = ['8'] := by decide
  have hp : "1".toList = ['1'] := by decide
  rw [hn, hr, hp, PyString.limitedInt?_of_length (by decide), PyString.limitedInt?_of_length (by decide),
    PyString.limitedInt?_of_length (by decide)]
  refine ⟨?_, ?_, ?_⟩
  · rw [PyString.int?_unsigned (by simp [PyString.isIntSpace, PyText.isSpace]) (by decide) (by decide)]
    simp [PyString.readNat, PyString.readDigits, h1, h3, h4, h6, h8]
  · rw [PyString.int?_unsigned (by simp [PyString.isIntSpace, PyText.isSpace]) (by decide) (by decide)]
    simp [PyString.readNat, PyString.readDigits, h8]
  · rw [PyString.int?_unsigned (by simp [PyString.isIntSpace, PyText.isSpace]) (by decide) (by decide)]
    simp [PyString.readNat, PyString.readDigits, h1]

/-- A stored hash verifies exactly the secret it was made from. -/
theorem verifySecret_hashSecret (lib : SecretLibrary) (salt : List UInt8) (secret secret' : String) :
    verifySecret lib secret' (hashSecret lib salt secret) = true ↔ secret' = secret := by
  obtain ⟨hn, hr, hp⟩ := limitedInt?_parameters lib
  have hverify : verifySecret lib secret' (hashSecret lib salt secret) =
      decide (lib.scrypt secret' salt = lib.scrypt secret salt) := by
    simp only [verifySecret, split_hashSecret, hn, hr, hp, b64decode_b64encode, scryptParameters, decide_true,
      Bool.true_and]
  rw [hverify, decide_eq_true_eq]
  exact ⟨fun h => lib.scrypt_injective salt h, fun h => by rw [h]⟩

@[simp] theorem UrlsafeToken.toList_text (token : UrlsafeToken) : token.text.toList = token.chars :=
  String.toList_ofList

@[simp] theorem toList_keyPrefix (kind : String) (hex : HexToken) :
    (keyPrefix kind hex).toList = kind.toList ++ hex.chars := by
  simp [keyPrefix]

@[simp] theorem toList_joinToken (first secret : String) :
    (joinToken first secret).toList = first.toList ++ '.' :: secret.toList := by
  simp [joinToken]

/-- A prefix of four characters and its digits are recognised. -/
theorem isPrefix_keyPrefix (kind : String) (hex : HexToken) :
    isPrefix kind (keyPrefix kind hex).toList = true := by
  have hdrop : (kind.toList ++ hex.chars).drop kind.length = hex.chars := by
    rw [← String.length_toList, List.drop_left]
  rw [toList_keyPrefix, isPrefix, hdrop, hex.length_eq, List.all_eq_true.mpr hex.isHex_of_mem]
  simp

/-- A prefix contains no dot. -/
theorem dot_notMem_keyPrefix {kind : String} (hdot : '.' ∉ kind.toList) (hex : HexToken) :
    '.' ∉ (keyPrefix kind hex).toList := by
  rw [toList_keyPrefix, List.mem_append, not_or]
  refine ⟨hdot, fun hmem => ?_⟩
  have hhex := hex.isHex_of_mem _ hmem
  revert hhex
  decide

/-- A token that was handed out is taken apart again. -/
theorem parseToken_joinToken {kind : String} (hkind : kind.length = 4) (hdot : '.' ∉ kind.toList)
    (hex : HexToken) (secret : UrlsafeToken) :
    parseToken kind (joinToken (keyPrefix kind hex) secret.text) = some (keyPrefix kind hex, secret.text) := by
  have hlength : (joinToken (keyPrefix kind hex) secret.text).length = 72 := by
    have hhex := hex.length_eq
    have hsecret := secret.length_eq
    rw [← String.length_toList, toList_joinToken, toList_keyPrefix, UrlsafeToken.toList_text]
    simp only [List.length_append, List.length_cons, String.length_toList]
    omega
  rw [parseToken, if_neg (by omega), toList_joinToken,
    PyString.partition?_append (dot_notMem_keyPrefix hdot hex)]
  simp only [isPrefix_keyPrefix, UrlsafeToken.toList_text, secret.length_eq, String.ofList_toList]
  rfl

/-- A token is put together from its parts. -/
theorem eq_of_parseToken {kind token first secret : String}
    (h : parseToken kind token = some (first, secret)) : token = joinToken first secret := by
  unfold parseToken at h
  split at h
  · cases h
  · split at h
    · cases h
    · next first' secret' hpartition =>
      split at h
      · rw [Option.some.injEq, Prod.mk.injEq] at h
        rw [← h.1, ← h.2, ← String.toList_inj, toList_joinToken, String.toList_ofList, String.toList_ofList]
        exact PyString.of_partition? hpartition
      · cases h

/-- A session token that was handed out is well formed. -/
theorem isSessionToken_sessionToken (token : UrlsafeToken) :
    isSessionToken (sessionToken token) = true := by
  have hchars : (sessionToken token).toList = 'i' :: 'g' :: 's' :: '_' :: token.chars := by
    simp [sessionToken]
  have hall := List.all_eq_true.mpr token.isUrlsafe_of_mem
  simp [isSessionToken, hchars, token.length_eq, hall]

end SharedIntegration

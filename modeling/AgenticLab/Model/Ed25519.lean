import AgenticLab.Library.TextFile
import AgenticLab.Model.Fields

/-! # Ed25519 keys and signatures (`app/root_signature_trust.py`, `app/signature_trust.py`) -/

namespace AgenticLab

/-! ## Base64 -/

def b64Value? (character : Char) : Option ℕ :=
  if 'A' ≤ character ∧ character ≤ 'Z' then some (character.toNat - 'A'.toNat)
  else if 'a' ≤ character ∧ character ≤ 'z' then some (character.toNat - 'a'.toNat + 26)
  else if '0' ≤ character ∧ character ≤ '9' then some (character.toNat - '0'.toNat + 52)
  else if character = '+' then some 62
  else if character = '/' then some 63
  else none

/-- `base64.b64decode(value, validate=True)`, which is strict about padding. -/
def b64decode? : List Char → Option (List UInt8)
  | [] => some []
  | [a, b, '=', '='] => do
      let x ← b64Value? a
      let y ← b64Value? b
      return [UInt8.ofNat (x * 4 + y / 16)]
  | [a, b, c, '='] => do
      let x ← b64Value? a
      let y ← b64Value? b
      let z ← b64Value? c
      return [UInt8.ofNat (x * 4 + y / 16), UInt8.ofNat (y % 16 * 16 + z / 4)]
  | a :: b :: c :: d :: rest => do
      let x ← b64Value? a
      let y ← b64Value? b
      let z ← b64Value? c
      let w ← b64Value? d
      let bytes ← b64decode? rest
      return UInt8.ofNat (x * 4 + y / 16) :: UInt8.ofNat (y % 16 * 16 + z / 4) ::
        UInt8.ofNat (z % 4 * 64 + w) :: bytes
  | _ => none

def b64Digit (value : ℕ) : Char :=
  "ABCDEFGHIJKLMNOPQRSTUVWXYZabcdefghijklmnopqrstuvwxyz0123456789+/".toList.getD value '='

def b64encode : List UInt8 → List Char
  | [] => []
  | [x] => [b64Digit (x.toNat / 4), b64Digit (x.toNat % 4 * 16), '=', '=']
  | [x, y] => [b64Digit (x.toNat / 4), b64Digit (x.toNat % 4 * 16 + y.toNat / 16),
      b64Digit (y.toNat % 16 * 4), '=']
  | x :: y :: z :: rest =>
    b64Digit (x.toNat / 4) :: b64Digit (x.toNat % 4 * 16 + y.toNat / 16) ::
      b64Digit (y.toNat % 16 * 4 + z.toNat / 64) :: b64Digit (z.toNat % 64) :: b64encode rest

/-- `_decode_b64(value, expected_size=size)` -/
def decodeB64? (size : ℕ) (text : String) : Option (List UInt8) :=
  (b64decode? text.toList).filter fun bytes => bytes.length == size

def ed25519PublicKeyBytes : ℕ := 32
def ed25519SignatureBytes : ℕ := 64

/-- A field checked by `_decode_public_key_b64`; every 32 bytes make a key object. -/
abbrev PublicKeyB64 := {text : String // (decodeB64? ed25519PublicKeyBytes text).isSome = true}

/-- A field checked by `_decode_signature_b64`. -/
abbrev SignatureB64 := {text : String // (decodeB64? ed25519SignatureBytes text).isSome = true}

def PublicKeyB64.bytes (key : PublicKeyB64) : List UInt8 :=
  (decodeB64? ed25519PublicKeyBytes key.val).get key.property

def SignatureB64.bytes (signature : SignatureB64) : List UInt8 :=
  (decodeB64? ed25519SignatureBytes signature.val).get signature.property

theorem length_of_decodeB64? {size : ℕ} {text : String} {bytes : List UInt8}
    (h : decodeB64? size text = some bytes) : bytes.length = size := by
  obtain ⟨_, hlength⟩ := Option.filter_eq_some_iff.mp h
  simpa using hlength

theorem PublicKeyB64.length_bytes (key : PublicKeyB64) : key.bytes.length = ed25519PublicKeyBytes :=
  length_of_decodeB64? (Option.some_get key.property).symm

def publicKeyB64? (text : String) : Option PublicKeyB64 :=
  if h : (decodeB64? ed25519PublicKeyBytes text).isSome = true then some ⟨text, h⟩ else none

/-! ## Signatures -/

/-- `Ed25519PrivateKey` and `Ed25519PublicKey` on raw keys. -/
structure Ed25519 where
  publicKey : List UInt8 → List UInt8
  sign : List UInt8 → List UInt8 → List UInt8
  verify : (publicKey signature message : List UInt8) → Bool

structure TrustPlatform extends Platform where
  ed25519 : Ed25519

theorem TrustPlatform.hexdigest_valid (p : TrustPlatform) (bytes : List UInt8) :
    isValidSha256Digest (p.sha256.hexdigest bytes) = true :=
  p.sha256.hexdigest_valid bytes

structure KnownSignature where
  privateKey : List UInt8
  publicKey : List UInt8
  message : List UInt8
  signature : List UInt8

def Ed25519.ofKnown (known : List KnownSignature) : Ed25519 where
  publicKey privateKey :=
    ((known.find? fun entry => entry.privateKey == privateKey).map (·.publicKey)).getD []
  sign privateKey message :=
    ((known.find? fun entry => entry.privateKey == privateKey && entry.message == message).map
      (·.signature)).getD []
  verify publicKey signature message :=
    known.any fun entry => entry.publicKey == publicKey && entry.signature == signature &&
      entry.message == message

abbrev referenceTrustPlatform (known : List KnownSignature) : TrustPlatform where
  sha256 := hashlibSha256
  datetimes := utcDatetimes
  ed25519 := .ofKnown known

def fingerprintPublicKey (sha256 : Sha256) (publicKeyBytes : List UInt8) : Sha256Digest :=
  ⟨sha256.hexdigest publicKeyBytes, sha256.hexdigest_valid _⟩

structure TrustedRootSigningPublicKey (sha256 : Sha256) where
  keyId : KeyId
  publicKeyBytes : List UInt8
  publicKeyFingerprint : Sha256Digest
  length_eq : publicKeyBytes.length = ed25519PublicKeyBytes
  fingerprint_eq : publicKeyFingerprint = fingerprintPublicKey sha256 publicKeyBytes

/-- `str(value).encode("ascii")`, behind a JSON dump that has accepted the number. -/
def decimalBytes (value : ℕ) : List UInt8 := asciiBytes (toString value)

/-- `b"\0".join(parts)` -/
def joinZero (parts : List (List UInt8)) : List UInt8 := [0].intercalate parts

def canonicalBytes (members : Fields) : Except Raised (List UInt8) := do
  let text ← jsonDumps Json.compact (Json.Value.obj members).sortKeys
  return TextFile.encode text

/-- The characters that `str.strip` removes. -/
def isStrippedChar (character : Char) : Bool :=
  (9 ≤ character.toNat && character.toNat ≤ 13) || (28 ≤ character.toNat && character.toNat ≤ 32) ||
    [0x85, 0xA0, 0x1680, 0x2028, 0x2029, 0x202F, 0x205F, 0x3000].contains character.toNat ||
    (0x2000 ≤ character.toNat && character.toNat ≤ 0x200A)

/-- `_is_safe_json_filename`; the last character is that of the suffix. -/
def isSafeJsonFilename (value : String) : Bool :=
  ".json".toList.isSuffixOf value.toList &&
    !(value.toList.head?.any isStrippedChar) &&
    value.toList.all fun character => character != '/' && character != '\\' && character.toNat != 0

abbrev JsonFilename := {value : String // isSafeJsonFilename value = true}

/-- The last microsecond a `datetime` can hold. -/
def maxTicks : ℕ := (UtcDatetime.mk 9999 12 31 23 59 59 999999 (by decide)).ticks

def overflowFailure : Raised := ⟨.overflowError, "date value out of range"⟩

/-- `moment + skew` -/
def addSkew (moment : UtcDatetime) (skew : ℕ) : Except Raised ℕ :=
  if maxTicks < moment.ticks + skew then .error overflowFailure else .ok (moment.ticks + skew)

end AgenticLab

import AgenticLab.Library.Sha256

/-! # SHA-256 digests as the source handles them: lower-case hexadecimal text -/

namespace AgenticLab

def hexAlphabet : List Char := "0123456789abcdef".toList

/-- `is_valid_sha256_digest` on text values. -/
def isValidSha256Digest (value : String) : Bool :=
  value.length == 64 && value.toList.all (fun character => hexAlphabet.contains character)

/-- `hashlib.sha256(data).hexdigest()`: some function from byte strings to digests. -/
structure Sha256 where
  hexdigest : List UInt8 → String
  hexdigest_valid : ∀ data, isValidSha256Digest (hexdigest data) = true

/-- `hashlib.sha256` itself. -/
def hashlibSha256 : Sha256 where
  hexdigest data := String.ofList (Sha2.hexdigest data)
  hexdigest_valid data := by
    have hall : ∀ character ∈ Sha2.hexdigest data, character ∈ hexAlphabet :=
      fun _ h => Sha2.mem_hexdigest h
    simpa [isValidSha256Digest] using hall

/-- The value of one hexadecimal digit, as `bytes.fromhex` reads it. -/
def hexDigit? (character : Char) : Option ℕ :=
  if '0' ≤ character ∧ character ≤ '9' then some (character.toNat - '0'.toNat)
  else if 'a' ≤ character ∧ character ≤ 'f' then some (character.toNat - 'a'.toNat + 10)
  else if 'A' ≤ character ∧ character ≤ 'F' then some (character.toNat - 'A'.toNat + 10)
  else none

/-- `bytes.fromhex` on digit pairs. Its callers pass validated digests only, so the
blanks it also skips never occur. -/
def bytesFromHex? : List Char → Option (List UInt8)
  | [] => some []
  | [_] => none
  | high :: low :: rest => do
      let h ← hexDigit? high
      let l ← hexDigit? low
      let bytes ← bytesFromHex? rest
      return UInt8.ofNat (16 * h + l) :: bytes

/-- `bytes.fromhex(digest)` for a digest that was validated before. -/
def digestBytes (digest : String) : List UInt8 :=
  (bytesFromHex? digest.toList).getD []

def asciiBytes (text : String) : List UInt8 :=
  text.toList.map (fun character => UInt8.ofNat character.toNat)

end AgenticLab

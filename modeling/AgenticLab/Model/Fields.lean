import AgenticLab.Library.Json.Reader
import AgenticLab.Model.Datetime
import AgenticLab.Model.Digest
import AgenticLab.Model.Exceptions

/-! # Field types of the pydantic models

Every field carries the constraint its validator checks. The models have `strict=True` and
`extra="forbid"`; `Fields` reads their members from a JSON object in this way. -/

namespace AgenticLab

/-- `int = Field(ge=1)` -/
abbrev PositiveInt := {value : ℕ // 1 ≤ value}

/-- A `str` field checked by `is_valid_sha256_digest`. -/
abbrev Sha256Digest := {value : String // isValidSha256Digest value = true}

def isKeyIdChar (character : Char) : Bool :=
  character.isAlphanum || character == '.' || character == '_' || character == '-'

/-- `is_valid_key_id` on text values: a full match of `[A-Za-z0-9._-]{1,64}`. -/
def isValidKeyId (value : String) : Bool :=
  decide (1 ≤ value.length ∧ value.length ≤ 64) && value.toList.all isKeyIdChar

/-- A `str` field checked by `is_valid_key_id`. -/
abbrev KeyId := {value : String // isValidKeyId value = true}

/-- `Field(min_length=1, max_length=512)` -/
def fitsIdentifier (value : String) : Bool := decide (1 ≤ value.length ∧ value.length ≤ 512)

/-! ## Validation of single values -/

def positiveInt? (value : ℤ) : Option PositiveInt :=
  if h : 1 ≤ value.toNat then some ⟨value.toNat, h⟩ else none

def sha256Digest? (value : String) : Option Sha256Digest :=
  if h : isValidSha256Digest value = true then some ⟨value, h⟩ else none

def keyId? (value : String) : Option KeyId :=
  if h : isValidKeyId value = true then some ⟨value, h⟩ else none

@[simp] theorem positiveInt?_val (value : PositiveInt) : positiveInt? (value.val : ℤ) = some value := by
  simp [positiveInt?, value.property]

@[simp] theorem sha256Digest?_val (value : Sha256Digest) :
    sha256Digest? value.val = some value := by
  simp [sha256Digest?, value.property]

@[simp] theorem keyId?_val (value : KeyId) : keyId? value.val = some value := by
  simp [keyId?, value.property]

theorem positiveInt?_eq_some {value : ℤ} {number : PositiveInt}
    (h : positiveInt? value = some number) : (number.val : ℤ) = value := by
  unfold positiveInt? at h
  split_ifs at h with hpositive
  obtain rfl := Option.some.inj h
  change (value.toNat : ℤ) = value
  omega

theorem sha256Digest?_eq_some {value : String} {digest : Sha256Digest}
    (h : sha256Digest? value = some digest) : digest.val = value := by
  unfold sha256Digest? at h
  split_ifs at h with hvalid
  obtain rfl := Option.some.inj h
  rfl

/-! ## JSON objects -/

/-- The members of an object whose keys are exactly the fields of a model. -/
abbrev Fields := List (String × Json.Value)

def objectFields? (names : List String) : Json.Value → Option Fields
  | .obj members =>
    if (members.map Prod.fst).all names.contains && names.all (members.map Prod.fst).contains
    then some members else none
  | _ => none

def jsonInt? : Json.Value → Option ℤ
  | .atom (.int value) => some value
  | _ => none

def jsonStr? : Json.Value → Option String
  | .atom (.str value) => some value
  | _ => none

def Fields.int? (fields : Fields) (name : String) : Option ℤ :=
  (fields.lookup name).bind jsonInt?

def Fields.str? (fields : Fields) (name : String) : Option String :=
  (fields.lookup name).bind jsonStr?

def Fields.positiveInt? (fields : Fields) (name : String) : Option PositiveInt :=
  (fields.int? name).bind AgenticLab.positiveInt?

def Fields.digest? (fields : Fields) (name : String) : Option Sha256Digest :=
  (fields.str? name).bind sha256Digest?

def Fields.keyId? (fields : Fields) (name : String) : Option KeyId :=
  (fields.str? name).bind AgenticLab.keyId?

/-- A field of type `str | None` with a digest in it. -/
def Fields.optionalDigest? (fields : Fields) (name : String) : Option (Option Sha256Digest) :=
  (fields.lookup name).bind fun value =>
    match value with
    | .atom .null => some none
    | .atom (.str text) => (sha256Digest? text).map some
    | _ => none

def Fields.datetime? (fields : Fields) (datetimes : DatetimeCodec) (name : String) :
    Option UtcDatetime :=
  (fields.str? name).bind datetimes.parse

/-- A `Literal` field. -/
def Fields.literal? (fields : Fields) (name : String) (expected : Json.Atom) : Option Unit :=
  match fields.lookup name with
  | some (.atom value) => if value = expected then some () else none
  | _ => none

/-- Python refuses to convert whole numbers of more digits to or from text. -/
def maxStrDigits : ℕ := 4300

def jsonDumps (layout : Json.Layout) (value : Json.Value) : Except Raised (List Char) :=
  if value.intsWithin maxStrDigits then .ok (value.print layout 0)
  else .error ⟨.valueError, "Exceeds the limit (4300 digits) for integer string conversion"⟩

def loadsNoDuplicateKeys (text : List Char) : Option Json.Value :=
  (Json.parse text).filter fun value => value.keysUnique && value.intsWithin maxStrDigits

/-- What the modules take from the libraries below them. -/
structure Platform where
  sha256 : Sha256
  datetimes : DatetimeCodec

def referencePlatform : Platform := ⟨hashlibSha256, utcDatetimes⟩

end AgenticLab

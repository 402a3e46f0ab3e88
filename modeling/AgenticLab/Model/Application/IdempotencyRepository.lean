import AgenticLab.Library.KeyedStore
import AgenticLab.Model.Application.Values
import AgenticLab.Model.Fields

/-! # Idempotency records

`app/application/idempotency_record.py` and
`app/application/in_memory_idempotency_repository.py`. A result is a JSON value, `null` standing
for `None`. -/

namespace AgenticLab

inductive ApplicationIdempotencyStatus where
  | inProgress
  | succeeded
  | failed
  deriving DecidableEq, Repr

def validateIdempotencyFailure (code message : String) : Except Raised Unit := do
  raiseIf (isBlank code) ⟨.validationError, "code must not be blank"⟩
  raiseIf (isBlank message) ⟨.validationError, "message must not be blank"⟩

structure ApplicationIdempotencyFailure where
  code : String
  message : String
  retryable : Bool
  valid : validateIdempotencyFailure code message = .ok ()

def newIdempotencyFailure (code message : String) (retryable : Bool) :
    Except Raised ApplicationIdempotencyFailure :=
  match h : validateIdempotencyFailure code message with
  | .ok () => .ok ⟨code, message, retryable, h⟩
  | .error failure => .error failure

/-- `value is None` -/
def isNone : Json.Value → Bool
  | .atom .null => true
  | _ => false

structure IdempotencyContent where
  idempotencyRecordId : String
  workspaceId : String
  operation : String
  idempotencyKey : String
  requestFingerprint : String
  status : ApplicationIdempotencyStatus
  result : Json.Value
  failure : Option ApplicationIdempotencyFailure
  createdAt : Datetime
  updatedAt : Datetime
  completedAt : Option Datetime
  recordVersion : PositiveInt
  metadata : List (String × String)

namespace IdempotencyContent

def validateStatus (record : IdempotencyContent) : Except Raised Unit := do
  raiseIf (record.status = .inProgress ∧
      (isNone record.result = false ∨ record.failure.isSome ∨ record.completedAt.isSome))
    ⟨.validationError, "in-progress record must not contain result, failure, or completed_at"⟩
  raiseIf (record.status = .succeeded ∧ isNone record.result = true)
    ⟨.validationError, "succeeded record requires result"⟩
  raiseIf (record.status = .succeeded ∧ record.failure.isSome)
    ⟨.validationError, "succeeded record must not contain failure"⟩
  raiseIf (record.status = .succeeded ∧ record.completedAt.isNone)
    ⟨.validationError, "succeeded record requires completed_at"⟩
  raiseIf (record.status = .failed ∧ record.failure.isNone)
    ⟨.validationError, "failed record requires failure"⟩
  raiseIf (record.status = .failed ∧ isNone record.result = false)
    ⟨.validationError, "failed record must not contain result"⟩
  raiseIf (record.status = .failed ∧ record.completedAt.isNone)
    ⟨.validationError, "failed record requires completed_at"⟩

def validateRecord (record : IdempotencyContent) : Except Raised Unit := do
  requireTexts [("idempotency_record_id", record.idempotencyRecordId),
    ("workspace_id", record.workspaceId), ("operation", record.operation),
    ("idempotency_key", record.idempotencyKey),
    ("request_fingerprint", record.requestFingerprint)]
  raiseIf (record.requestFingerprint.length ≠ 64)
    ⟨.validationError, "request_fingerprint must be a SHA-256 hex digest"⟩
  Datetime.requireAware [("created_at", some record.createdAt),
    ("updated_at", some record.updatedAt), ("completed_at", record.completedAt)]
  raiseIf (record.updatedAt < record.createdAt)
    ⟨.validationError, "updated_at must not precede created_at"⟩
  raiseIf (record.completedAt.any (· < record.createdAt))
    ⟨.validationError, "completed_at must not precede created_at"⟩
  record.validateStatus
  validateMetadata record.metadata

/-- `record.record_version + 1` -/
def nextVersion (record : IdempotencyContent) : PositiveInt :=
  ⟨record.recordVersion.val + 1, Nat.le_add_left 1 _⟩

end IdempotencyContent

/-- Records come only from the constructor. -/
abbrev ApplicationIdempotencyRecord :=
  {record : IdempotencyContent // record.validateRecord = .ok ()}

def newIdempotencyRecord (record : IdempotencyContent) :
    Except Raised ApplicationIdempotencyRecord :=
  match h : record.validateRecord with
  | .ok () => .ok ⟨record, h⟩
  | .error failure => .error failure

/-! ## The repository -/

structure IdempotencyIdentity where
  workspaceId : String
  operation : String
  idempotencyKey : String
  deriving DecidableEq

def idempotencyIdentity (casefold : Casefold) (workspaceId operation idempotencyKey : String) :
    IdempotencyIdentity :=
  ⟨normalizeId casefold workspaceId, normalizeId casefold operation,
    normalizeId casefold idempotencyKey⟩

namespace ApplicationIdempotencyRecord

def key (casefold : Casefold) (record : ApplicationIdempotencyRecord) : String :=
  normalizeId casefold record.val.idempotencyRecordId

def identity (casefold : Casefold) (record : ApplicationIdempotencyRecord) :
    IdempotencyIdentity :=
  idempotencyIdentity casefold record.val.workspaceId record.val.operation record.val.idempotencyKey

end ApplicationIdempotencyRecord

/-- `_records` and `_identity_index`, of which each tells where the other has a record. -/
structure InMemoryApplicationIdempotencyRepository (casefold : Casefold) where
  records : KeyedStore String ApplicationIdempotencyRecord
    (ApplicationIdempotencyRecord.key casefold)
  identityIndex : KeyedStore IdempotencyIdentity (IdempotencyIdentity × String) Prod.fst
  indexed : ∀ record ∈ records.records,
    identityIndex.get (record.identity casefold) =
      some (record.identity casefold, record.key casefold)
  recorded : ∀ entry ∈ identityIndex.records, ∃ record ∈ records.records,
    record.identity casefold = entry.1 ∧ record.key casefold = entry.2

namespace InMemoryApplicationIdempotencyRepository

variable {casefold : Casefold}

def empty : InMemoryApplicationIdempotencyRepository casefold where
  records := .empty
  identityIndex := .empty
  indexed := fun _ h => absurd h List.not_mem_nil
  recorded := fun _ h => absurd h List.not_mem_nil

def add (repository : InMemoryApplicationIdempotencyRepository casefold)
    (record : ApplicationIdempotencyRecord)
    (hkey : repository.records.get (record.key casefold) = none)
    (hidentity : repository.identityIndex.get (record.identity casefold) = none) :
    InMemoryApplicationIdempotencyRepository casefold where
  records := repository.records.insert record hkey
  identityIndex :=
    repository.identityIndex.insert (record.identity casefold, record.key casefold) hidentity
  indexed := by
    intro other hother
    rw [KeyedStore.get_insert]
    rcases KeyedStore.mem_insert.mp hother with hold | rfl
    · have hindexed := repository.indexed other hold
      by_cases heq : other.identity casefold = record.identity casefold
      · rw [heq, hidentity] at hindexed
        cases hindexed
      · rw [if_neg heq, hindexed]
    · rw [if_pos rfl]
  recorded := by
    intro entry hentry
    rcases KeyedStore.mem_insert.mp hentry with hold | rfl
    · obtain ⟨other, hother, hentry⟩ := repository.recorded entry hold
      exact ⟨other, KeyedStore.mem_insert.mpr (.inl hother), hentry⟩
    · exact ⟨record, KeyedStore.mem_insert.mpr (.inr rfl), rfl, rfl⟩

def put (repository : InMemoryApplicationIdempotencyRepository casefold)
    {record stored : ApplicationIdempotencyRecord}
    (hget : repository.records.get (record.key casefold) = some stored)
    (hidentity : record.identity casefold = stored.identity casefold) :
    InMemoryApplicationIdempotencyRepository casefold where
  records := repository.records.replace record
  identityIndex := repository.identityIndex
  indexed := by
    intro other hother
    rcases KeyedStore.mem_replace hother with hold | rfl
    · exact repository.indexed other hold
    · have hstored := repository.indexed stored (KeyedStore.get_eq_some.mp hget).1
      rwa [← hidentity, KeyedStore.key_of_get hget] at hstored
  recorded := by
    intro entry hentry
    obtain ⟨other, hother, hidentities, hkeys⟩ := repository.recorded entry hentry
    have hne : repository.records.get (record.key casefold) ≠ none := by
      rw [hget]
      exact Option.some_ne_none stored
    by_cases heq : other.key casefold = record.key casefold
    · have hother' : other = stored := by
        have hgetOther := KeyedStore.get_of_mem hother
        rw [heq, hget] at hgetOther
        exact (Option.some.inj hgetOther).symm
      refine ⟨record, (KeyedStore.mem_replace_iff hne).mpr (.inl rfl), ?_, heq ▸ hkeys⟩
      rw [hidentity, ← hother', hidentities]
    · exact ⟨other, (KeyedStore.mem_replace_iff hne).mpr (.inr ⟨hother, heq⟩), hidentities, hkeys⟩

def create (repository : InMemoryApplicationIdempotencyRepository casefold)
    (record : ApplicationIdempotencyRecord) :
    Except Raised ApplicationIdempotencyRecord ×
      InMemoryApplicationIdempotencyRepository casefold :=
  if h : repository.records.get (record.key casefold) = none ∧
      repository.identityIndex.get (record.identity casefold) = none then
    (.ok record, repository.add record h.1 h.2)
  else
    (.error ⟨.applicationIdempotencyAlreadyExistsError,
      "application idempotency identity already exists"⟩, repository)

/-- `get`, by an identifier as it is given. -/
def getById (repository : InMemoryApplicationIdempotencyRepository casefold)
    (idempotencyRecordId : String) : Option ApplicationIdempotencyRecord :=
  repository.records.get (normalizeId casefold idempotencyRecordId)

def find (repository : InMemoryApplicationIdempotencyRepository casefold)
    (identity : IdempotencyIdentity) : Option ApplicationIdempotencyRecord :=
  (repository.identityIndex.get identity).bind fun entry => repository.records.get entry.2

def update (repository : InMemoryApplicationIdempotencyRepository casefold)
    (record : ApplicationIdempotencyRecord) (expectedVersion : ℕ) :
    Except Raised ApplicationIdempotencyRecord ×
      InMemoryApplicationIdempotencyRepository casefold :=
  match h : repository.records.get (record.key casefold) with
  | none => (.error ⟨.applicationIdempotencyNotFoundError,
      "application idempotency record was not found: " ++ record.val.idempotencyRecordId⟩,
      repository)
  | some stored =>
    if stored.val.recordVersion.val ≠ expectedVersion then
      (.error ⟨.applicationIdempotencyVersionConflictError,
        "application idempotency version conflict: expected " ++ toString expectedVersion ++
          ", stored " ++ toString stored.val.recordVersion.val⟩, repository)
    else if record.val.recordVersion.val ≠ expectedVersion + 1 then
      (.error ⟨.applicationIdempotencyVersionConflictError,
        "updated idempotency record_version must equal " ++ toString (expectedVersion + 1)⟩,
        repository)
    else if hidentity : record.identity casefold = stored.identity casefold then
      (.ok record, repository.put h hidentity)
    else
      (.error ⟨.applicationIdempotencyVersionConflictError,
        "idempotency identity cannot be changed"⟩, repository)

end InMemoryApplicationIdempotencyRepository

end AgenticLab

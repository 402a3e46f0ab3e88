import AgenticLab.Library.Program
import AgenticLab.Library.TextFile
import AgenticLab.Model.Application.IdempotencyRepository

/-! # The idempotency service

`app/application/idempotency_service.py`. Each repository operation holds the repository's lock
from its beginning to its end, so the methods are programs over the operations. What the clock and
the record id factory return are arguments. -/

namespace AgenticLab

/-! ## The repository as the service uses it -/

inductive IdempotencyOperation where
  | find (workspaceId operation idempotencyKey : String)
  | get (idempotencyRecordId : String)
  | create (record : ApplicationIdempotencyRecord)
  | update (record : ApplicationIdempotencyRecord) (expectedVersion : ℕ)

namespace IdempotencyOperation

abbrev Reply : IdempotencyOperation → Type
  | find _ _ _ => Option ApplicationIdempotencyRecord
  | get _ => Option ApplicationIdempotencyRecord
  | create _ => Except Raised ApplicationIdempotencyRecord
  | update _ _ => Except Raised ApplicationIdempotencyRecord

variable {casefold : Casefold}

def handle : (op : IdempotencyOperation) → InMemoryApplicationIdempotencyRepository casefold →
    op.Reply × InMemoryApplicationIdempotencyRepository casefold
  | find workspaceId operation idempotencyKey, s =>
    (s.find (idempotencyIdentity casefold workspaceId operation idempotencyKey), s)
  | get idempotencyRecordId, s => (s.getById idempotencyRecordId, s)
  | create record, s => s.create record
  | update record expectedVersion, s => s.update record expectedVersion

end IdempotencyOperation

abbrev IdempotencyProgram := Program IdempotencyOperation IdempotencyOperation.Reply Raised

namespace ApplicationIdempotencyRepository

def find (workspaceId operation idempotencyKey : String) :
    IdempotencyProgram (Option ApplicationIdempotencyRecord) :=
  Program.perform (IdempotencyOperation.find workspaceId operation idempotencyKey)

def require (idempotencyRecordId : String) : IdempotencyProgram ApplicationIdempotencyRecord := do
  match ← Program.perform (IdempotencyOperation.get idempotencyRecordId) with
  | some record => return record
  | none => Program.raise ⟨.applicationIdempotencyNotFoundError,
      "application idempotency record was not found: " ++ idempotencyRecordId⟩

def create (record : ApplicationIdempotencyRecord) :
    IdempotencyProgram ApplicationIdempotencyRecord := do
  liftM (← Program.perform (IdempotencyOperation.create record))

def update (record : ApplicationIdempotencyRecord) (expectedVersion : ℕ) :
    IdempotencyProgram ApplicationIdempotencyRecord := do
  liftM (← Program.perform (IdempotencyOperation.update record expectedVersion))

end ApplicationIdempotencyRepository

/-! ## Requests and results -/

structure ApplicationIdempotencyStartRequest where
  workspaceId : String
  operation : String
  idempotencyKey : String
  payload : Json.Value
  metadata : List (String × String)
  valid : requireTexts [("workspace_id", workspaceId), ("operation", operation),
    ("idempotency_key", idempotencyKey)] = .ok ()

def ApplicationIdempotencyStartRequest.identity (casefold : Casefold)
    (request : ApplicationIdempotencyStartRequest) : IdempotencyIdentity :=
  idempotencyIdentity casefold request.workspaceId request.operation request.idempotencyKey

structure ApplicationIdempotencyStartResult where
  record : ApplicationIdempotencyRecord
  executeOperation : Bool
  reusedResult : Json.Value

namespace ApplicationIdempotencyStartResult

def validateResult (result : ApplicationIdempotencyStartResult) : Except Raised Unit :=
  if result.executeOperation = true then do
    raiseIf (result.record.val.status ≠ .inProgress)
      ⟨.validationError, "executable start result requires in-progress record"⟩
    raiseIf (isNone result.reusedResult = false)
      ⟨.validationError, "executable start result must not contain reused_result"⟩
  else do
    raiseIf (result.record.val.status ≠ .succeeded)
      ⟨.validationError, "reused start result requires succeeded record"⟩
    raiseIf (isNone result.reusedResult = true)
      ⟨.validationError, "reused start result requires reused_result"⟩

def modelValidate (result : ApplicationIdempotencyStartResult) :
    Except Raised ApplicationIdempotencyStartResult := do
  result.validateResult
  return result

end ApplicationIdempotencyStartResult

namespace ApplicationIdempotencyService

def fingerprint (sha256 : Sha256) (payload : Json.Value) : Except Raised String := do
  let serialized ← jsonDumps Json.compact payload.sortKeys
  return sha256.hexdigest (TextFile.encode serialized)

def requireMatchingFingerprint (record : ApplicationIdempotencyRecord) (fingerprint : String) :
    Except Raised Unit :=
  raiseIf (record.val.requestFingerprint ≠ fingerprint)
    ⟨.applicationIdempotencyConflictError,
      "idempotency key was reused with a different request payload"⟩

/-- `_now`, when the clock returns `value`. -/
def now (value : Datetime) : Except Raised Datetime := do
  raiseIf value.isNaive
    ⟨.applicationIdempotencyServiceError, "clock must return timezone-aware datetime"⟩
  return value

/-- `_new_record_id`, when the factory returns `value`. -/
def newRecordId (value : String) : Except Raised String := do
  raiseIf (isBlank value) ⟨.applicationIdempotencyServiceError,
    "idempotency record ID factory returned blank value"⟩
  return value

def startedRecord (request : ApplicationIdempotencyStartRequest)
    (idempotencyRecordId fingerprint : String) (now : Datetime) : IdempotencyContent where
  idempotencyRecordId := idempotencyRecordId
  workspaceId := request.workspaceId
  operation := request.operation
  idempotencyKey := request.idempotencyKey
  requestFingerprint := fingerprint
  status := .inProgress
  result := .atom .null
  failure := none
  createdAt := now
  updatedAt := now
  completedAt := none
  recordVersion := ⟨1, Nat.one_pos⟩
  metadata := request.metadata

def restartedRecord (existing : IdempotencyContent) (now : Datetime) : IdempotencyContent :=
  { existing with
    status := .inProgress
    failure := none
    updatedAt := now
    completedAt := none
    recordVersion := existing.nextVersion }

def succeededRecord (stored : IdempotencyContent) (result : Json.Value) (now : Datetime) :
    IdempotencyContent :=
  { stored with
    status := .succeeded
    result := result
    updatedAt := now
    completedAt := some now
    recordVersion := stored.nextVersion }

def failedRecord (stored : IdempotencyContent) (failure : ApplicationIdempotencyFailure)
    (now : Datetime) : IdempotencyContent :=
  { stored with
    status := .failed
    failure := some failure
    updatedAt := now
    completedAt := some now
    recordVersion := stored.nextVersion }

variable (sha256 : Sha256)

def begin (request : ApplicationIdempotencyStartRequest) (allowRetryAfterFailure : Bool)
    (clock : Datetime) (recordId : String) :
    IdempotencyProgram ApplicationIdempotencyStartResult := do
  let fingerprint ← fingerprint sha256 request.payload
  match ← ApplicationIdempotencyRepository.find request.workspaceId request.operation
      request.idempotencyKey with
  | none => do
      let now ← now clock
      let recordId ← newRecordId recordId
      let record ← newIdempotencyRecord (startedRecord request recordId fingerprint now)
      let created ← ApplicationIdempotencyRepository.create record
      ApplicationIdempotencyStartResult.modelValidate ⟨created, true, .atom .null⟩
  | some existing => do
      requireMatchingFingerprint existing fingerprint
      match existing.val.status with
      | .succeeded =>
        ApplicationIdempotencyStartResult.modelValidate ⟨existing, false, existing.val.result⟩
      | .inProgress => Program.raise ⟨.applicationIdempotencyInProgressError,
          "idempotent operation is already in progress"⟩
      | .failed => do
          raiseIf (allowRetryAfterFailure = false) ⟨.applicationIdempotencyRetryNotAllowedError,
            "failed idempotent operation cannot be retried"⟩
          let now ← now clock
          let restarted ← newIdempotencyRecord (restartedRecord existing.val now)
          let persisted ← ApplicationIdempotencyRepository.update restarted
            existing.val.recordVersion.val
          ApplicationIdempotencyStartResult.modelValidate ⟨persisted, true, .atom .null⟩

def succeed (idempotencyRecordId : String) (result : Json.Value) (clock : Datetime) :
    IdempotencyProgram ApplicationIdempotencyRecord := do
  let stored ← ApplicationIdempotencyRepository.require idempotencyRecordId
  raiseIf (stored.val.status ≠ .inProgress) ⟨.applicationIdempotencyServiceError,
    "only in-progress operation may succeed"⟩
  let now ← now clock
  let succeeded ← newIdempotencyRecord (succeededRecord stored.val result now)
  ApplicationIdempotencyRepository.update succeeded stored.val.recordVersion.val

def fail (idempotencyRecordId code message : String) (retryable : Bool) (clock : Datetime) :
    IdempotencyProgram ApplicationIdempotencyRecord := do
  let stored ← ApplicationIdempotencyRepository.require idempotencyRecordId
  raiseIf (stored.val.status ≠ .inProgress) ⟨.applicationIdempotencyServiceError,
    "only in-progress operation may fail"⟩
  let now ← now clock
  let failure ← newIdempotencyFailure code message retryable
  let failed ← newIdempotencyRecord (failedRecord stored.val failure now)
  ApplicationIdempotencyRepository.update failed stored.val.recordVersion.val

end ApplicationIdempotencyService

end AgenticLab
